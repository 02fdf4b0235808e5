/-
ChatModeration.Proofs.ReloadFreshness — what a subscriber may have missed.

The two tables change, every change is announced by one notification, and a
reload reads the tables one after the other, each at a moment of its own.  A
`World` holds all of this, and a `Move` is what may happen next: the order of
changes, deliveries and answers is free.

A notification that arrives while a reload is in progress is skipped, although
that reload may have read the tables before the change it announces.  So the
catalogue may stay behind the tables, but only by such changes: after the last
look at the lists every change has a notification that is on its way or that
overlapped with a reload (`World.Accounts`).
-/
import ChatModeration.Proofs.ReloadPhases

namespace ChatModeration.Subscriber

open Reload

/-! ## § The world of one subscriber -/

/-- The rows of the two tables at one moment. -/
structure Tables where
  lists : List ListRow
  filters : List FilterRow

/-- The catalogue of the two tables. -/
def Tables.catalogue (t : Tables) : Catalogue := Catalogue.ofRows t.lists t.filters

/-- An announcement of the change with this number. -/
structure Notification where
  change : Nat
  message : Text

/-- A reload that waits for an answer. -/
structure Waiting where
  reload : Program Reloading Unit
  /-- How many changes there had been when it asked. -/
  since : Nat

structure World where
  /-- The tables before each of the changes, the earliest first. -/
  past : List Tables
  tables : Tables
  /-- Notifications that have not arrived. -/
  undelivered : List Notification
  session : Session
  waiting : List Waiting
  /-- The changes whose notification arrived while a reload was waiting. -/
  overlapped : List Nat

namespace World

/-- A subscriber that has just started, with the catalogue of the tables. -/
def start (tables : Tables) (log : List LogEvent) : World :=
  ⟨[], tables, [], ⟨false, false, tables.catalogue, log⟩, [], []⟩

def changes (w : World) : Nat := w.past.length

/-- The tables as they were after `n` changes. -/
def tablesAfter (w : World) (n : Nat) : Tables := w.past.getD n w.tables

/-- New tables, and the notification that follows them. -/
def change (w : World) (tables : Tables) (message : Text) : World :=
  { w with
    past := w.past ++ [w.tables]
    tables
    undelivered := w.undelivered ++ [⟨w.changes + 1, message⟩] }

/-- A reload goes on until it needs the next answer. -/
def goOn (w : World) (reload : Program Reloading Unit) : World :=
  match reload.advance Session.now w.session with
  | (.done (), session) => { w with session }
  | (reload, session) => { w with session, waiting := ⟨reload, w.changes⟩ :: w.waiting }

/-- The notification at a place arrives. -/
def deliver (w : World) (place : Nat) (n : Notification) : World :=
  { w with
    undelivered := w.undelivered.eraseIdx place
    overlapped := if w.waiting.isEmpty then w.overlapped else n.change :: w.overlapped }.goOn
      (onAnnounced w.session ⟨changesChannel, n.message⟩)

end World

/-- A reload with the answer for which it waits. -/
def answered (t : Tables) : Program Reloading Unit → Program Reloading Unit
  | .ask .selectLists next => next (.ok t.lists)
  | .ask .selectFilters next => next (.ok t.filters)
  | reload => reload

/-- What may happen. -/
inductive Move where
  | change (tables : Tables) (message : Text)
  /-- The notification at this place arrives. -/
  | deliver (place : Nat)
  /-- The reload at this place has its answer, with the table as it was after `moment` changes. -/
  | answer (place moment : Nat)

namespace World

/-- What a move leads to, if it is possible.  An answer shows a moment between the question and the
answer. -/
def move? (w : World) : Move → Option World
  | .change tables message => some (w.change tables message)
  | .deliver place =>
    w.undelivered[place]?.map (w.deliver place)
  | .answer place moment =>
    w.waiting[place]?.bind fun p =>
      if p.since ≤ moment ∧ moment ≤ w.changes then
        some ({ w with waiting := w.waiting.eraseIdx place }.goOn
          (answered (w.tablesAfter moment) p.reload))
      else none

/-- What moves lead to, one after the other. -/
def run? (w : World) : List Move → Option World
  | [] => some w
  | m :: rest => (w.move? m).bind (·.run? rest)

/-! ## § The invariant -/

/-- Each change after the first `n` has a notification that is on its way or overlapped with a
reload. -/
def Accounts (w : World) (n : Nat) : Prop :=
  ∀ v, n < v → v ≤ w.changes → (∃ m ∈ w.undelivered, m.change = v) ∨ v ∈ w.overlapped

/-- What the subscriber does at present: nothing, or it waits for one of the two tables. -/
inductive Phase (w : World) : Prop where
  /-- The catalogue comes from the tables after `l` and after `f` changes. -/
  | idle (l f : Nat) (hl : l ≤ f) (hf : f ≤ w.changes) (hw : w.waiting = [])
      (hr : w.session.reloading = false)
      (hc : w.session.catalogue =
        Catalogue.ofRows (w.tablesAfter l).lists (w.tablesAfter f).filters)
      (ha : w.Accounts l)
  | lists (since : Nat) (hs : since ≤ w.changes) (hw : w.waiting = [⟨awaitLists, since⟩])
      (hr : w.session.reloading = true) (ha : w.Accounts since)
  | filters (l since : Nat) (hl : l ≤ since) (hs : since ≤ w.changes)
      (hw : w.waiting = [⟨awaitFilters (w.tablesAfter l).lists, since⟩])
      (hr : w.session.reloading = true) (ha : w.Accounts l)

structure Sound (w : World) : Prop where
  aborted : w.session.aborted = false
  phase : w.Phase

variable {w : World}

/-! ## § What each move preserves -/

/-- A change takes nothing from what is known of the earlier tables. -/
theorem tablesAfter_change (tables : Tables) (message : Text) {n : Nat} (h : n ≤ w.changes) :
    (w.change tables message).tablesAfter n = w.tablesAfter n := by
  unfold tablesAfter change
  unfold changes at h
  rcases Nat.lt_or_eq_of_le h with hlt | heq
  · simp [List.getD_eq_getElem?_getD, List.getElem?_append_left hlt, hlt]
  · simp [List.getD_eq_getElem?_getD, heq]

@[simp] theorem changes_change (tables : Tables) (message : Text) :
    (w.change tables message).changes = w.changes + 1 := by
  simp [change, changes]

theorem Accounts.change {n : Nat} (h : w.Accounts n) (tables : Tables) (message : Text) :
    (w.change tables message).Accounts n := by
  intro v hn hv
  rw [changes_change] at hv
  rcases Nat.lt_or_eq_of_le hv with hlt | heq
  · rcases h v hn (by omega) with ⟨m, hm, hmv⟩ | hs
    · exact Or.inl ⟨m, List.mem_append_left _ hm, hmv⟩
    · exact Or.inr hs
  · exact Or.inl ⟨⟨w.changes + 1, message⟩, List.mem_append_right _ (by simp), heq.symm⟩

theorem Sound.change (h : w.Sound) (tables : Tables) (message : Text) :
    (w.change tables message).Sound := by
  refine ⟨h.aborted, ?_⟩
  cases h.phase with
  | idle l f hl hf hw hr hc ha =>
    refine .idle l f hl (by rw [changes_change]; omega) hw hr ?_ (ha.change tables message)
    rw [tablesAfter_change _ _ (Nat.le_trans hl hf), tablesAfter_change _ _ hf]
    exact hc
  | lists since hs hw hr ha =>
    exact .lists since (by rw [changes_change]; omega) hw hr (ha.change tables message)
  | filters l since hl hs hw hr ha =>
    refine .filters l since hl (by rw [changes_change]; omega) ?_ hr (ha.change tables message)
    rw [tablesAfter_change _ _ (Nat.le_trans hl hs)]
    exact hw

theorem onAnnounced_of_open (ha : w.session.aborted = false) (n : Notification) :
    onAnnounced w.session ⟨changesChannel, n.message⟩ = onNotification n.message := by
  simp [onAnnounced, ha]

/-- A notification that arrives during a reload is skipped. -/
theorem deliver_busy (place : Nat) (n : Notification) (ha : w.session.aborted = false)
    (hr : w.session.reloading = true) (hw : w.waiting.isEmpty = false) :
    w.deliver place n = { w with
      undelivered := w.undelivered.eraseIdx place
      session := { w.session with log := w.session.log ++ [.reloadSkipped] }
      overlapped := n.change :: w.overlapped } := by
  rw [deliver, onAnnounced_of_open ha, goOn, advance_onNotification_busy _ hr, hw]
  rfl

/-- Another one starts a reload. -/
theorem deliver_idle (place : Nat) (n : Notification) (ha : w.session.aborted = false)
    (hr : w.session.reloading = false) (hw : w.waiting = []) :
    w.deliver place n = { w with
      undelivered := w.undelivered.eraseIdx place
      session := { w.session with
        reloading := true
        log := w.session.log ++ [.reloadStarted (reason? n.message)] }
      waiting := [⟨awaitLists, w.changes⟩] } := by
  rw [deliver, onAnnounced_of_open ha, goOn, advance_onNotification_idle _ hr, hw]
  rfl

/-- What a notification accounted for while it was on its way, it does as one that overlapped. -/
theorem Accounts.overlap {k place : Nat} {n : Notification} (h : w.Accounts k)
    (hn : w.undelivered[place]? = some n) {v : Nat} (hk : k < v) (hv : v ≤ w.changes) :
    (∃ m ∈ w.undelivered.eraseIdx place, m.change = v) ∨ v ∈ n.change :: w.overlapped := by
  rcases h v hk hv with ⟨m, hm, hmv⟩ | hs
  · obtain ⟨i, hi⟩ := List.mem_iff_getElem?.mp hm
    by_cases hp : i = place
    · rw [hp, hn] at hi
      cases hi
      exact Or.inr (hmv ▸ List.mem_cons_self)
    · exact Or.inl ⟨m, List.mem_eraseIdx_iff_getElem?.mpr ⟨i, hp, hi⟩, hmv⟩
  · exact Or.inr (List.mem_cons_of_mem _ hs)

theorem Sound.deliver (h : w.Sound) {place : Nat} {n : Notification}
    (hn : w.undelivered[place]? = some n) : (w.deliver place n).Sound := by
  cases h.phase with
  | idle l f hl hf hw hr hc ha =>
    rw [deliver_idle place n h.aborted hr hw]
    refine ⟨h.aborted, .lists w.changes (Nat.le_refl _) rfl rfl ?_⟩
    -- Nothing comes after the last change.
    intro v hlt hle
    exact absurd hlt (Nat.not_lt.mpr hle)
  | lists since hs hw hr ha =>
    rw [deliver_busy place n h.aborted hr (by rw [hw]; rfl)]
    exact ⟨h.aborted, .lists since hs hw hr fun v hk hv => ha.overlap hn hk hv⟩
  | filters l since hl hs hw hr ha =>
    rw [deliver_busy place n h.aborted hr (by rw [hw]; rfl)]
    exact ⟨h.aborted, .filters l since hl hs hw hr fun v hk hv => ha.overlap hn hk hv⟩

/-- With the lists, a reload goes on to wait for the filters. -/
theorem goOn_awaitLists (t : Tables) :
    w.goOn (answered t awaitLists) =
      { w with waiting := ⟨awaitFilters t.lists, w.changes⟩ :: w.waiting } := rfl

/-- With the filters, it installs the catalogue of both. -/
theorem goOn_awaitFilters (t : Tables) (rows : List ListRow) :
    ∃ log, w.goOn (answered t (awaitFilters rows)) =
      { w with session := { w.session with
          reloading := false, catalogue := Catalogue.ofRows rows t.filters, log } } := by
  obtain ⟨log, h⟩ := advance_conclude_ok (s := w.session) (StoredList.group rows t.filters)
  have hanswered : answered t (awaitFilters rows) =
      conclude (.ok (StoredList.group rows t.filters)) := rfl
  exact ⟨log, by rw [goOn, hanswered, h]; rfl⟩

theorem Sound.answer (h : w.Sound) {place moment : Nat} {p : Waiting}
    (hp : w.waiting[place]? = some p) (hs : p.since ≤ moment) (hm : moment ≤ w.changes) :
    ({ w with waiting := w.waiting.eraseIdx place }.goOn
      (answered (w.tablesAfter moment) p.reload)).Sound := by
  -- There is at most one reload that waits, and it is the one with the answer.
  have honly {q : Waiting} (hw : w.waiting = [q]) : p = q ∧ w.waiting.eraseIdx place = [] := by
    rw [hw] at hp ⊢
    cases place with
    | zero => exact ⟨(Option.some.inj hp).symm, rfl⟩
    | succ i => simp at hp
  cases h.phase with
  | idle l f hl hf hw hr hc ha =>
    rw [hw] at hp
    simp at hp
  | lists since hsince hw hr ha =>
    obtain ⟨rfl, hnil⟩ := honly hw
    rw [hnil, goOn_awaitLists]
    exact ⟨h.aborted, .filters moment w.changes hm (Nat.le_refl _) rfl hr
      fun _ hv => ha _ (Nat.lt_of_le_of_lt hs hv)⟩
  | filters l since hl hsince hw hr ha =>
    obtain ⟨rfl, hnil⟩ := honly hw
    obtain ⟨log, hgo⟩ := goOn_awaitFilters (w := { w with waiting := [] }) (w.tablesAfter moment)
      (w.tablesAfter l).lists
    rw [hnil, hgo]
    exact ⟨h.aborted, .idle l moment (Nat.le_trans hl hs) hm rfl rfl rfl ha⟩

/-! ## § Every run -/

theorem start_sound (tables : Tables) (log : List LogEvent) : (start tables log).Sound :=
  ⟨rfl, .idle 0 0 (Nat.le_refl _) (Nat.le_refl _) rfl rfl rfl
    fun _ hlt hle => absurd hlt (Nat.not_lt.mpr hle)⟩

theorem Sound.move? (h : w.Sound) {m : Move} {w' : World} (hm : w.move? m = some w') :
    w'.Sound := by
  cases m with
  | change tables message =>
    cases hm
    exact h.change tables message
  | deliver place =>
    obtain ⟨n, hn, rfl⟩ := Option.map_eq_some_iff.mp hm
    exact h.deliver hn
  | answer place moment =>
    obtain ⟨p, hp, hm⟩ := Option.bind_eq_some_iff.mp hm
    split at hm
    · rename_i hbetween
      cases hm
      exact h.answer hp hbetween.1 hbetween.2
    · cases hm

theorem Sound.run? (h : w.Sound) {moves : List Move} {w' : World}
    (hrun : w.run? moves = some w') : w'.Sound := by
  induction moves generalizing w with
  | nil =>
    cases hrun
    exact h
  | cons m rest ih =>
    obtain ⟨next, hnext, hrest⟩ := Option.bind_eq_some_iff.mp hrun
    exact ih (h.move? hnext) hrest

/-- **What a quiet subscriber holds.**  When every notification has arrived and no reload waits, the
catalogue comes from the lists at one moment and the filters at another, not earlier one, and the
notification of each change after the first of them arrived during a reload.  So it is the catalogue
of the present tables unless the notification of the last change arrived during a reload. -/
theorem catalogue_of_quiet {tables : Tables} {log : List LogEvent} {moves : List Move}
    (hrun : (start tables log).run? moves = some w) (hu : w.undelivered = [])
    (hw : w.waiting = []) :
    (∃ l f, l ≤ f ∧ f ≤ w.changes ∧
      w.session.catalogue =
        Catalogue.ofRows (w.tablesAfter l).lists (w.tablesAfter f).filters ∧
      ∀ v, l < v → v ≤ w.changes → v ∈ w.overlapped) ∧
    (w.changes ∉ w.overlapped → w.session.catalogue = w.tables.catalogue) := by
  cases ((start_sound tables log).run? hrun).phase with
  | lists since hs hwait hr ha => simp [hw] at hwait
  | filters l since hl hs hwait hr ha => simp [hw] at hwait
  | idle l f hl hf _ hr hc ha =>
    have hoverlapped : ∀ v, l < v → v ≤ w.changes → v ∈ w.overlapped := by
      intro v hlt hle
      simpa [hu] using ha v hlt hle
    refine ⟨⟨l, f, hl, hf, hc, hoverlapped⟩, fun hlast => ?_⟩
    -- With a change after the lists were read, the last one would have overlapped.
    have hpresent : w.tablesAfter w.changes = w.tables := by
      simp [tablesAfter, changes]
    have hlists : l = w.changes := by
      rcases Nat.lt_or_eq_of_le (Nat.le_trans hl hf) with hlt | heq
      · exact absurd (hoverlapped _ hlt (Nat.le_refl _)) hlast
      · exact heq
    have hfilters : f = w.changes := by omega
    rw [hc, hlists, hfilters, hpresent]
    rfl

/-- Tables that hold one list and no filters. -/
def oneList : Tables := ⟨[⟨1, Text.ofString "token", .object []⟩], []⟩

/-- One change, announced and read. -/
theorem catalogue_of_quiet_one_change :
    let moves : List Move := [.change oneList [], .deliver 0, .answer 0 1, .answer 0 1]
    ∃ w, (start ⟨[], []⟩ []).run? moves = some w ∧ w.undelivered = [] ∧ w.waiting = [] ∧
      w.changes ∉ w.overlapped ∧ w.session.catalogue = w.tables.catalogue := by
  intro moves
  have hrun : (start ⟨[], []⟩ []).run? moves = some _ := rfl
  exact ⟨_, hrun, rfl, rfl, by decide, (catalogue_of_quiet hrun rfl rfl).2 (by decide)⟩

/-- A second change, announced after the reload for the first has read the lists: its notification
is skipped, and the catalogue stays without the list that it brought. -/
theorem not_always_current :
    ¬ ∀ (tables : Tables) (log : List LogEvent) (moves : List Move) (w : World),
      (start tables log).run? moves = some w → w.undelivered = [] → w.waiting = [] →
        w.session.catalogue = w.tables.catalogue := by
  intro h
  have heq := h ⟨[], []⟩ []
    [.change ⟨[], []⟩ [], .deliver 0, .change oneList [], .deliver 0, .answer 0 1, .answer 0 2]
    _ rfl rfl rfl
  have hlength := congrArg (·.all.length) heq
  revert hlength
  decide +kernel

end World
end ChatModeration.Subscriber
