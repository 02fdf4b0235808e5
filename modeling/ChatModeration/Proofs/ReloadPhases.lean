/-
ChatModeration.Proofs.ReloadPhases — where a reload can wait.

A reaction to a notification that starts a reload stops twice, once for each
table.  `Reload.awaitLists` and `Reload.awaitFilters` are what is left of it at
these points; the lemmas here say how a session changes between them, so that a
run of many reactions never has to look into `Reload.onNotification` again.
-/
import ChatModeration.FilterStorage.Subscriber

namespace ChatModeration

namespace Program

variable {I : Interface} {α β σ : Type}

/-- A sequence whose first program ends at once goes on with the second. -/
theorem advance_bind {now : (r : I.Request) → σ → Option (I.Answer r × σ)} {p : Program I α}
    {f : α → Program I β} {s s' : σ} {a : α} (h : p.advance now s = (done a, s')) :
    (p.bind f).advance now s = (f a).advance now s' := by
  induction p generalizing s with
  | done b =>
    cases h
    rfl
  | ask r next ih =>
    rw [ask_bind]
    simp only [advance] at h ⊢
    cases hr : now r s with
    | none =>
      rw [hr] at h
      cases h
    | some x =>
      obtain ⟨answer, t⟩ := x
      rw [hr] at h
      exact ih answer h

end Program

/-! ## § The catalogue of two tables -/

/-- The catalogue that the rows of the two tables give. -/
def Catalogue.ofRows (lists : List ListRow) (filters : List FilterRow) : Catalogue :=
  (Catalogue.build ((StoredList.group lists filters).map StoredList.toValue)).1

/-! ## § What is left of a reload -/

namespace Reload

open Program

/-- The end of a reload, once it is known what the tables hold. -/
def conclude : Except Fault (List StoredList) → Program Reloading Unit
  | .ok stored => do
    rebuild stored
    request (.setReloading false)
  | .error fault => do
    request (.log (.reloadFailed fault))
    request (.setReloading false)

/-- A reload that has read the lists and waits for the filters. -/
def awaitFilters (rows : List ListRow) : Program Reloading Unit :=
  .ask (I := Reloading) .selectFilters fun answer => conclude (answer.map (StoredList.group rows))

/-- A reload that waits for the lists. -/
def awaitLists : Program Reloading Unit :=
  .ask (I := Reloading) .selectLists fun
    | .ok rows => awaitFilters rows
    | .error fault => conclude (.error fault)

theorem readTables_conclude : readTables.run.bind conclude = awaitLists := by
  refine congrArg (Program.ask (I := Reloading) .selectLists) (funext fun answer => ?_)
  cases answer with
  | error fault => rfl
  | ok rows =>
    refine congrArg (Program.ask (I := Reloading) .selectFilters) (funext fun answer => ?_)
    cases answer with
    | error fault => rfl
    | ok filters => rfl

/-- A notification starts a reload unless one is in progress. -/
theorem onNotification_eq (m : Text) :
    onNotification m = .ask (I := Reloading) .isReloading fun (busy : Bool) =>
      if busy then request (.log .reloadSkipped)
      else .ask (I := Reloading) (.setReloading true) fun _ =>
        .ask (I := Reloading) (.log (.reloadStarted (reason? m))) fun _ => awaitLists := by
  rw [← readTables_conclude]
  refine congrArg (Program.ask (I := Reloading) .isReloading) (funext fun busy => ?_)
  cases busy with
  | true => rfl
  | false =>
    refine congrArg (Program.ask (I := Reloading) (.setReloading true)) (funext fun _ => ?_)
    refine congrArg (Program.ask (I := Reloading) (.log _)) (funext fun _ => ?_)
    refine congrArg (Program.bind readTables.run) (funext fun outcome => ?_)
    cases outcome with
    | ok stored => rfl
    | error fault => rfl

end Reload

/-! ## § From one point to the next -/

namespace Subscriber

open Reload

variable {s : Session}

theorem advance_onNotification_busy (m : Text) (h : s.reloading = true) :
    (onNotification m).advance Session.now s =
      (.done (), { s with log := s.log ++ [.reloadSkipped] }) := by
  rw [onNotification_eq]
  obtain ⟨reloading, aborted, catalogue, log⟩ := s
  cases h
  rfl

theorem advance_onNotification_idle (m : Text) (h : s.reloading = false) :
    (onNotification m).advance Session.now s =
      (awaitLists,
        { s with reloading := true, log := s.log ++ [.reloadStarted (reason? m)] }) := by
  rw [onNotification_eq]
  obtain ⟨reloading, aborted, catalogue, log⟩ := s
  cases h
  rfl

theorem advance_logAll (events : List LogEvent) :
    (logAll events).advance Session.now s = (.done (), { s with log := s.log ++ events }) := by
  induction events generalizing s with
  | nil => simp [logAll, Program.pure_eq_done, Program.advance]
  | cons e rest ih =>
    have hstep : (logAll (e :: rest)).advance Session.now s =
        (logAll rest).advance Session.now { s with log := s.log ++ [e] } := rfl
    rw [hstep, ih]
    simp

theorem advance_rebuild (stored : List StoredList) :
    ∃ log, (rebuild stored).advance Session.now s =
      (.done (), { s with
        catalogue := (Catalogue.build (stored.map StoredList.toValue)).1
        log }) := by
  unfold rebuild
  generalize Catalogue.build (stored.map StoredList.toValue) = built
  obtain ⟨catalogue, warnings⟩ := built
  simp only
  rw [Program.bind_eq_bind, Program.advance_bind (advance_logAll _)]
  exact ⟨_, rfl⟩

/-- A reload that has read both tables installs their catalogue. -/
theorem advance_conclude_ok (stored : List StoredList) :
    ∃ log, (conclude (.ok stored)).advance Session.now s =
      (.done (), { s with
        reloading := false
        catalogue := (Catalogue.build (stored.map StoredList.toValue)).1
        log }) := by
  obtain ⟨log, h⟩ := advance_rebuild (s := s) stored
  refine ⟨log, ?_⟩
  rw [conclude, Program.bind_eq_bind, Program.advance_bind h]
  rfl

/-- A reload that could not read a table leaves the catalogue as it was. -/
theorem advance_conclude_error (fault : Fault) :
    (conclude (.error fault)).advance Session.now s =
      (.done (), { s with reloading := false, log := s.log ++ [.reloadFailed fault] }) := rfl

end Subscriber

end ChatModeration
