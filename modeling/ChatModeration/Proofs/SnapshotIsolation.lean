/-
ChatModeration.Proofs.SnapshotIsolation — many dispatches and one store.

Dispatches are under way at the same time, and meanwhile the store gets new
catalogues.  A `World` holds all of this, and a `Move` is what may happen next:
which dispatch goes on, and when the store is changed, is free.

A dispatch takes the catalogue that the store holds when it begins, and has a
context of its own.  So it is on the way to what it comes to when it runs alone
(`World.Tracks`), and nothing that happens elsewhere takes it off this way.
-/
import ChatModeration.Proofs.DispatchStages

namespace ChatModeration.Dispatch

/-! ## § The world of many dispatches -/

/-- Surroundings whose answer to a request depends on nothing but the request, and in which each
dispatch has readings of the clock of its own. -/
structure FixedAnswers where
  platform : (r : PlatformRequest) → r.Answer
  log : LogEvent → Except Fault Unit
  /-- The readings of the clock in a dispatch, one after the other. -/
  clock : Nat → Nat → Number

/-- Whether the clock was asked. -/
def asksClock : Exchange Moderation → Bool
  | ⟨.clock, _⟩ => true
  | _ => false

/-- What a dispatch is answered. -/
def FixedAnswers.surroundings (f : FixedAnswers) (k : Nat) : Surroundings Moderation :=
  fun past r =>
    match r with
    | .platform r => f.platform r
    | .log event => f.log event
    | .clock => f.clock k (past.countP asksClock)

structure World where
  store : Catalogue
  /-- All dispatches that have begun, the earliest first. -/
  dispatches : List Running
  /-- All calls to the platform, each with the number of the dispatch that made it. -/
  calls : List (Nat × PlatformRequest)

/-- What may happen. -/
inductive Move where
  /-- The store gets the catalogue of a configuration. -/
  | swap (raws : List Value)
  | start (incoming : Incoming)
  /-- A dispatch goes on. -/
  | own (k : Nat) (step : Step)

namespace World

/-- A store with the catalogue of a configuration, and no dispatch. -/
def opening (raws : List Value) : World := ⟨(Catalogue.build raws).1, [], []⟩

/-- The calls that a dispatch has made. -/
def callsOf (w : World) (k : Nat) : List PlatformRequest :=
  (w.calls.filter (·.1 = k)).map (·.2)

/-- What a move leads to, if it is possible. -/
def move? (settings : DispatchSettings) (f : FixedAnswers) (w : World) : Move → Option World
  | .swap raws => some { w with store := (Catalogue.build raws).1 }
  | .start incoming =>
    some { w with dispatches := w.dispatches ++ [.begin w.store incoming] }
  | .own k step =>
    w.dispatches[k]?.bind fun d =>
      (d.step? settings (f.surroundings k) step).map fun (d, made) =>
        { w with
          dispatches := w.dispatches.set k d
          calls := w.calls ++ made.map (k, ·) }

/-- What moves lead to, one after the other. -/
def run? (settings : DispatchSettings) (f : FixedAnswers) (w : World) : List Move → Option World
  | [] => some w
  | m :: rest => (w.move? settings f m).bind (·.run? settings f rest)

variable {settings : DispatchSettings} {f : FixedAnswers} {w w' : World} {k : Nat}

/-- Everything that a move can be. -/
inductive Moves (settings : DispatchSettings) (f : FixedAnswers) (w : World) : World → Prop where
  | swap (raws : List Value) :
      Moves settings f w { w with store := (Catalogue.build raws).1 }
  | start (incoming : Incoming) :
      Moves settings f w { w with dispatches := w.dispatches ++ [.begin w.store incoming] }
  | own {k : Nat} {d d' : Running} {made : List PlatformRequest} (hd : w.dispatches[k]? = some d)
      (h : Takes settings (f.surroundings k) d d' made) :
      Moves settings f w { w with
        dispatches := w.dispatches.set k d'
        calls := w.calls ++ made.map (k, ·) }

theorem moves_of_move? {m : Move} (h : w.move? settings f m = some w') : Moves settings f w w' := by
  cases m with
  | swap raws =>
    cases h
    exact .swap raws
  | start incoming =>
    cases h
    exact .start incoming
  | own k step =>
    simp only [move?, Option.bind_eq_some_iff, Option.map_eq_some_iff] at h
    obtain ⟨d, hd, ⟨d', made⟩, hstep, rfl⟩ := h
    exact .own hd (takes_of_step? hstep)

/-! ## § What each move preserves -/

/-- The store holds the catalogue of some configuration, and all calls are of dispatches that have
begun. -/
structure Sound (w : World) : Prop where
  built : ∃ raws, w.store = (Catalogue.build raws).1
  tags : ∀ c ∈ w.calls, c.1 < w.dispatches.length

theorem opening_sound (raws : List Value) : (opening raws).Sound := ⟨⟨raws, rfl⟩, nofun⟩

theorem Sound.moves (h : w.Sound) (hmove : Moves settings f w w') : w'.Sound := by
  cases hmove with
  | swap raws => exact ⟨⟨raws, rfl⟩, h.tags⟩
  | start incoming =>
    refine ⟨h.built, fun c hc => ?_⟩
    have hlt := h.tags c hc
    rw [List.length_append]
    omega
  | @own k d d' made hd htakes =>
    have hk : k < w.dispatches.length := (List.getElem?_eq_some_iff.mp hd).1
    refine ⟨h.built, fun c hc => ?_⟩
    rw [List.length_set]
    rcases List.mem_append.mp hc with hold | hnew
    · exact h.tags c hold
    · obtain ⟨r, -, rfl⟩ := List.mem_map.mp hnew
      exact hk

theorem Sound.run? (h : w.Sound) {moves : List Move} (hrun : w.run? settings f moves = some w') :
    w'.Sound := by
  induction moves generalizing w with
  | nil =>
    cases hrun
    exact h
  | cons m rest ih =>
    obtain ⟨next, hmove, hrest⟩ := Option.bind_eq_some_iff.mp hrun
    exact ih (h.moves (moves_of_move? hmove)) hrest

/-- A dispatch of the world is on the way to what it comes to when it runs alone with a catalogue. -/
def Tracks (settings : DispatchSettings) (f : FixedAnswers) (k : Nat) (catalogue : Catalogue)
    (incoming : Incoming) (w : World) : Prop :=
  ∃ d, w.dispatches[k]? = some d ∧
    Follows settings (f.surroundings k) catalogue incoming d (w.callsOf k)

section Tracks

variable {catalogue : Catalogue} {incoming : Incoming}

/-- The calls of one dispatch after another one, or the same, has gone on. -/
theorem callsOf_own (w : World) (dispatches : List Running) (j k : Nat)
    (made : List PlatformRequest) :
    callsOf { w with dispatches, calls := w.calls ++ made.map (j, ·) } k =
      w.callsOf k ++ if j = k then made else [] := by
  rw [callsOf, List.filter_append, List.map_append]
  congr 1
  split <;> simp [List.filter_map, Function.comp_def, *]

/-- A dispatch that begins has made no call. -/
theorem Sound.tracks_start (h : w.Sound) (incoming : Incoming) :
    Tracks settings f w.dispatches.length w.store incoming
      { w with dispatches := w.dispatches ++ [.begin w.store incoming] } := by
  refine ⟨.begin w.store incoming, List.getElem?_concat_length, ?_⟩
  have hnone : w.callsOf w.dispatches.length = [] := by
    rw [callsOf, List.filter_eq_nil_iff.mpr, List.map_nil]
    intro c hc
    have hlt := h.tags c hc
    simp only [decide_eq_true_eq]
    omega
  exact hnone ▸ follows_begin

/-- Whatever happens, a dispatch stays on its way. -/
theorem Tracks.moves (hreads : catalogue.ReadsOnly) (h : w.Tracks settings f k catalogue incoming)
    (hmove : Moves settings f w w') : w'.Tracks settings f k catalogue incoming := by
  obtain ⟨d, hd, hfollows⟩ := h
  have hlt : k < w.dispatches.length := (List.getElem?_eq_some_iff.mp hd).1
  cases hmove with
  | swap raws => exact ⟨d, hd, hfollows⟩
  | start other => exact ⟨d, (List.getElem?_append_left hlt).trans hd, hfollows⟩
  | @own j other d' made hother htakes =>
    by_cases hjk : j = k
    · subst hjk
      obtain rfl : d = other := Option.some.inj (hd.symm.trans hother)
      refine ⟨d', List.getElem?_set_self hlt, ?_⟩
      rw [callsOf_own, if_pos rfl]
      exact hfollows.takes hreads htakes
    · refine ⟨d, (List.getElem?_set_ne hjk).trans hd, ?_⟩
      rw [callsOf_own, if_neg hjk, List.append_nil]
      exact hfollows

theorem Tracks.run? (hreads : catalogue.ReadsOnly) (h : w.Tracks settings f k catalogue incoming)
    {moves : List Move} (hrun : w.run? settings f moves = some w') :
    w'.Tracks settings f k catalogue incoming := by
  induction moves generalizing w with
  | nil =>
    cases hrun
    exact h
  | cons m rest ih =>
    obtain ⟨next, hmove, hrest⟩ := Option.bind_eq_some_iff.mp hrun
    exact ih (h.moves hreads (moves_of_move? hmove)) hrest

end Tracks

/-! ## § To the end -/

/-- What a dispatch can do, it can do in the world. -/
theorem run?_own {d d' : Running} {made : List PlatformRequest} {steps : List Step}
    (hd : w.dispatches[k]? = some d)
    (h : d.steps? settings (f.surroundings k) steps = some (d', made)) :
    ∃ w', w.run? settings f (steps.map (.own k)) = some w' ∧ w'.dispatches[k]? = some d' := by
  induction steps generalizing w d made with
  | nil =>
    cases h
    exact ⟨w, rfl, hd⟩
  | cons step later ih =>
    rw [Running.steps?] at h
    cases hstep : d.step? settings (f.surroundings k) step with
    | none => simp [hstep] at h
    | some out =>
      obtain ⟨next, first⟩ := out
      simp only [hstep, Option.map_eq_some_iff] at h
      obtain ⟨⟨last, more⟩, hlater, hlast⟩ := h
      cases hlast
      let after : World := { w with
        dispatches := w.dispatches.set k next
        calls := w.calls ++ first.map (k, ·) }
      have hmove : w.move? settings f (.own k step) = some after := by
        simp [move?, hd, hstep, after]
      have hnext : after.dispatches[k]? = some next :=
        List.getElem?_set_self (List.getElem?_eq_some_iff.mp hd).1
      obtain ⟨w', hrun, hd'⟩ := ih hnext hlater
      exact ⟨w', by simp [World.run?, hmove, hrun], hd'⟩

/-- **Dispatches do not disturb each other.**  Let a dispatch begin at any moment.  Whatever other
dispatches begin and do, in whatever order lists finish and answers arrive, and however often the
store is changed, its calls are the first ones of the dispatch that runs alone with the catalogue that
the store held at that moment.  When it ends it has made all of them and has the same outcome, and it
can always be brought to its end. -/
theorem snapshot_isolation (settings : DispatchSettings) (f : FixedAnswers) (raws : List Value)
    {before after : List Move} {incoming : Incoming} {held w : World}
    (hheld : (opening raws).run? settings f before = some held)
    (hrun : held.run? settings f (.start incoming :: after) = some w) :
    let k := held.dispatches.length
    let result := alone settings (f.surroundings k) held.store incoming
    ∃ d, w.dispatches[k]? = some d ∧ w.callsOf k <+: callsIn result.2 ∧
      (∀ outcome, d.outcome? = some outcome →
        outcome = result.1 ∧ w.callsOf k = callsIn result.2) ∧
      ∃ (steps : List Step) (w' : World) (d' : Running), w.run? settings f (steps.map (.own k)) = some w' ∧
        w'.dispatches[k]? = some d' ∧ d'.outcome? = some result.1 ∧
        w'.callsOf k = callsIn result.2 := by
  intro k result
  have hsound : held.Sound := (opening_sound raws).run? hheld
  obtain ⟨raws', hstore⟩ := hsound.built
  have hreads : held.store.ReadsOnly := hstore ▸ build_readsOnly raws'
  have htracks : Tracks settings f k held.store incoming w := by
    obtain ⟨next, hstart, hafter⟩ := Option.bind_eq_some_iff.mp hrun
    cases hstart
    exact (hsound.tracks_start incoming).run? hreads hafter
  obtain ⟨d, hd, hfollows⟩ := htracks
  obtain ⟨steps, d', made, outcome, hsteps, houtcome⟩ := ends settings (f.surroundings k) d
  obtain ⟨w', hrun', hd'⟩ := run?_own hd hsteps
  obtain ⟨last, hlast, hfollows'⟩ := Tracks.run? hreads ⟨d, hd, hfollows⟩ hrun'
  obtain rfl : d' = last := Option.some.inj (hd'.symm.trans hlast)
  obtain ⟨heq, hcalls⟩ := hfollows'.outcome houtcome
  exact ⟨d, hd, hfollows.calls_prefix, fun _ => hfollows.outcome, steps, w', d', hrun', hd',
    heq ▸ houtcome, hcalls⟩

/-- The store loses its only list while a dispatch is under way, and another one begins and ends. -/
theorem snapshot_isolation_swap :
    let f : FixedAnswers :=
      ⟨fun r => answering (.ok .sent) (.ok ()) [] (.platform r), fun _ => .ok (), fun _ _ => 0⟩
    let raws := [Value.record [("name", .ofString "token"), ("filters", .list [Value.record
      [("id", .number 1), ("content", .ofString "spam"), ("actions", Value.record
        [(sanctionKey, Value.record [("infraction_type", .ofString "mute"),
          ("dm_content", .ofString "Please stop")])])]])]]
    let after := [.swap [], .start spam, .own 1 .gather, .own 0 (.complete 0), .own 0 .gather] ++
      (List.replicate 5 [.own 0 .ask, .own 0 .answer]).flatten
    let result := alone toWebhook (f.surroundings 0) (Catalogue.build raws).1 spam
    ∃ w, (opening raws).run? toWebhook f (.start spam :: after) = some w ∧
      w.dispatches.map (·.outcome?.isSome) = [true, true] ∧
      w.callsOf 0 = callsIn result.2 ∧ (w.callsOf 0).length = 4 ∧ w.callsOf 1 = [] := by
  intro f raws after result
  have hend : ((opening raws).run? toWebhook f (.start spam :: after)).map (fun w =>
      (w.dispatches.map (·.outcome?.isSome), (w.callsOf 0).length, w.callsOf 1)) =
        some ([true, true], 4, []) := by decide +kernel
  obtain ⟨w, hrun, hw⟩ := Option.map_eq_some_iff.mp hend
  obtain ⟨hended, hlength, hsecond⟩ : w.dispatches.map (·.outcome?.isSome) = [true, true] ∧
      (w.callsOf 0).length = 4 ∧ w.callsOf 1 = [] := by simpa using hw
  have hheld : (opening raws).run? toWebhook f [] = some (opening raws) := rfl
  obtain ⟨d, hd, -, hsame, -⟩ := snapshot_isolation toWebhook f raws hheld hrun
  have hfirst : d.outcome?.isSome = true := by
    have h : (w.dispatches.map (·.outcome?.isSome))[0]? = some d.outcome?.isSome := by
      rw [List.getElem?_map]
      exact congrArg _ hd
    rw [hended] at h
    exact (Option.some.inj h).symm
  obtain ⟨outcome, houtcome⟩ := Option.isSome_iff_exists.mp hfirst
  exact ⟨w, hrun, hended, (hsame outcome houtcome).2, hlength, hsecond⟩

end World

end ChatModeration.Dispatch
