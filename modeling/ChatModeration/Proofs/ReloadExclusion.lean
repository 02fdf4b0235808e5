/-
ChatModeration.Proofs.ReloadExclusion — one reload at a time.

A subscriber meets announcements of every kind, answers of the database and the
end of the bot, in any order.  A `Follower` is a subscriber with the reloads that
wait for an answer, and an `Event` is what may happen to it next.

The flag of the session is set exactly while a reload waits (`Follower.Phase`),
whatever became of the reloads before, so that one that fails never stands in
the way of the next.  The catalogue comes from the two answers to one reload, and
changes only with the second of them.
-/
import ChatModeration.Proofs.ReloadPhases

namespace ChatModeration.Subscriber

open Reload

/-! ## § A subscriber and what happens to it -/

/-- An answer of the database to one of the two questions of a reload. -/
inductive Answer where
  | lists (rows : Except Fault (List ListRow))
  | filters (rows : Except Fault (List FilterRow))

/-- Whether a question could not be answered. -/
def Answer.Fails : Answer → Prop
  | lists rows => ∃ fault, rows = .error fault
  | filters rows => ∃ fault, rows = .error fault

/-- A reload that waits for an answer; it has the number of the announcement that started it. -/
structure Pending where
  number : Nat
  reload : Program Reloading Unit

structure Follower where
  session : Session
  pending : List Pending
  /-- How many announcements have arrived, on any channel. -/
  arrived : Nat
  /-- All answers, each with the number of the reload that asked. -/
  answers : List (Nat × Answer)

/-- What may happen. -/
inductive Event where
  | arrive (announced : Announced)
  /-- The bot is about to stop. -/
  | abort
  /-- The reload at this place has its answer. -/
  | answer (place : Nat) (answer : Answer)

/-- A reload with an answer to the question at which it waits. -/
def resume? : Program Reloading Unit → Answer → Option (Program Reloading Unit)
  | .ask .selectLists next, .lists rows => some (next rows)
  | .ask .selectFilters next, .filters rows => some (next rows)
  | _, _ => none

namespace Follower

/-- A subscriber that has just started, with the catalogue that the store holds. -/
def start (catalogue : Catalogue) (log : List LogEvent) : Follower :=
  ⟨⟨false, false, catalogue, log⟩, [], 0, []⟩

/-- The answers to one reload, in order. -/
def answersTo (w : Follower) (n : Nat) : List Answer := (w.answers.filter (·.1 = n)).map (·.2)

/-- Whether the reload with this number waits for an answer. -/
def InProgress (w : Follower) (n : Nat) : Prop := ∃ p ∈ w.pending, p.number = n

/-- A reload goes on until it needs the next answer. -/
def goOn (w : Follower) (number : Nat) (reload : Program Reloading Unit) : Follower :=
  match reload.advance Session.now w.session with
  | (.done (), session) => { w with session }
  | (reload, session) => { w with session, pending := w.pending ++ [⟨number, reload⟩] }

/-- What an event leads to, if it is possible. -/
def step? (w : Follower) : Event → Option Follower
  | .arrive a =>
    some ({ w with arrived := w.arrived + 1 }.goOn w.arrived (onAnnounced w.session a))
  | .abort => some { w with session := { w.session with aborted := true } }
  | .answer place a =>
    w.pending[place]?.bind fun p =>
      (resume? p.reload a).map fun reload =>
        { w with
          pending := w.pending.eraseIdx place
          answers := w.answers ++ [(p.number, a)] }.goOn p.number reload

/-- What events lead to, one after the other. -/
def run? (w : Follower) : List Event → Option Follower
  | [] => some w
  | e :: rest => (w.step? e).bind (·.run? rest)

/-! ## § What an event can do -/

/-- What the subscriber does at present: nothing, or it waits for one of the two tables, with the
answers that the reload has had so far. -/
inductive Phase (w : Follower) : Prop where
  | idle (hp : w.pending = []) (hr : w.session.reloading = false)
  | lists (n : Nat) (hp : w.pending = [⟨n, awaitLists⟩]) (hr : w.session.reloading = true)
      (ha : w.answersTo n = [])
  | filters (n : Nat) (rows : List ListRow) (hp : w.pending = [⟨n, awaitFilters rows⟩])
      (hr : w.session.reloading = true) (ha : w.answersTo n = [.lists (.ok rows)])

/-- Everything that an event can do, in a subscriber that is in one of the phases. -/
inductive Takes (w : Follower) : Event → Follower → Prop where
  /-- On another channel, or too late. -/
  | ignore (a : Announced) (h : a.channel = changesChannel → w.session.aborted = true) :
      Takes w (.arrive a) { w with arrived := w.arrived + 1 }
  | skip (a : Announced) (h : w.pending ≠ []) :
      Takes w (.arrive a) { w with
        arrived := w.arrived + 1
        session := { w.session with log := w.session.log ++ [.reloadSkipped] } }
  | begin (a : Announced) (hc : a.channel = changesChannel) (ha : w.session.aborted = false)
      (hp : w.pending = []) :
      Takes w (.arrive a) { w with
        arrived := w.arrived + 1
        session := { w.session with
          reloading := true
          log := w.session.log ++ [.reloadStarted (reason? a.message)] }
        pending := [⟨w.arrived, awaitLists⟩] }
  | abort : Takes w .abort { w with session := { w.session with aborted := true } }
  /-- A question could not be answered, and the reload is over. -/
  | fail {n place : Nat} {reload : Program Reloading Unit} {a : Answer} (fault : Fault)
      (hp : w.pending = [⟨n, reload⟩]) (hf : a.Fails) :
      Takes w (.answer place a) { w with
        session := { w.session with
          reloading := false, log := w.session.log ++ [.reloadFailed fault] }
        pending := []
        answers := w.answers ++ [(n, a)] }
  | readLists {n place : Nat} (rows : List ListRow) (hp : w.pending = [⟨n, awaitLists⟩])
      (ha : w.answersTo n = []) :
      Takes w (.answer place (.lists (.ok rows))) { w with
        pending := [⟨n, awaitFilters rows⟩]
        answers := w.answers ++ [(n, .lists (.ok rows))] }
  /-- The reload has both tables and installs their catalogue. -/
  | readFilters {n place : Nat} {rows : List ListRow} (filters : List FilterRow)
      (log : List LogEvent) (hp : w.pending = [⟨n, awaitFilters rows⟩])
      (ha : w.answersTo n = [.lists (.ok rows)]) :
      Takes w (.answer place (.filters (.ok filters))) { w with
        session := { w.session with
          reloading := false, catalogue := Catalogue.ofRows rows filters, log }
        pending := []
        answers := w.answers ++ [(n, .filters (.ok filters))] }

variable {w w' : Follower}

theorem resume?_lists_error (fault : Fault) :
    resume? awaitLists (.lists (.error fault)) = some (conclude (.error fault)) := rfl

theorem resume?_lists_ok (rows : List ListRow) :
    resume? awaitLists (.lists (.ok rows)) = some (awaitFilters rows) := rfl

theorem resume?_filters_error (rows : List ListRow) (fault : Fault) :
    resume? (awaitFilters rows) (.filters (.error fault)) = some (conclude (.error fault)) := rfl

theorem resume?_filters_ok (rows : List ListRow) (filters : List FilterRow) :
    resume? (awaitFilters rows) (.filters (.ok filters)) =
      some (conclude (.ok (StoredList.group rows filters))) := rfl

theorem takes_of_arrive (h : w.Phase) (a : Announced)
    (hstep : w.step? (.arrive a) = some w') : w.Takes (.arrive a) w' := by
  simp only [step?, Option.some.injEq] at hstep
  subst hstep
  by_cases hopen : a.channel = changesChannel ∧ !w.session.aborted
  · have hreact : onAnnounced w.session a = onNotification a.message := if_pos hopen
    obtain ⟨hchannel, haborted⟩ : a.channel = changesChannel ∧ w.session.aborted = false := by
      simpa using hopen
    rw [hreact]
    cases h with
    | idle hp hr =>
      rw [goOn, advance_onNotification_idle a.message hr, hp]
      exact .begin a hchannel haborted hp
    | lists n hp hr ha =>
      rw [goOn, advance_onNotification_busy a.message hr]
      exact .skip a (by simp [hp])
    | filters n rows hp hr ha =>
      rw [goOn, advance_onNotification_busy a.message hr]
      exact .skip a (by simp [hp])
  · have hreact : onAnnounced w.session a = pure () := if_neg hopen
    rw [hreact, goOn]
    exact .ignore a fun hchannel => by simpa [hchannel] using hopen

theorem takes_of_answer (h : w.Phase) {place : Nat} {a : Answer}
    (hstep : w.step? (.answer place a) = some w') : w.Takes (.answer place a) w' := by
  simp only [step?, Option.bind_eq_some_iff, Option.map_eq_some_iff] at hstep
  obtain ⟨p, hplace, reload, hresume, rfl⟩ := hstep
  -- There is at most one reload that waits, and it is the one with the answer.
  have honly {q : Pending} (hp : w.pending = [q]) : p = q ∧ w.pending.eraseIdx place = [] := by
    rw [hp] at hplace ⊢
    cases place with
    | zero => exact ⟨(Option.some.inj hplace).symm, rfl⟩
    | succ i => simp at hplace
  cases h with
  | idle hp hr => simp [hp] at hplace
  | lists n hp hr ha =>
    obtain ⟨rfl, hnil⟩ := honly hp
    rw [hnil]
    cases a with
    | filters rows => cases hresume
    | lists rows =>
      cases rows with
      | error fault =>
        rw [resume?_lists_error] at hresume
        obtain rfl := Option.some.inj hresume
        rw [goOn, advance_conclude_error]
        exact .fail fault hp ⟨fault, rfl⟩
      | ok rows =>
        rw [resume?_lists_ok] at hresume
        obtain rfl := Option.some.inj hresume
        exact .readLists rows hp ha
  | filters n rows hp hr ha =>
    obtain ⟨rfl, hnil⟩ := honly hp
    rw [hnil]
    cases a with
    | lists rows => cases hresume
    | filters filters =>
      cases filters with
      | error fault =>
        rw [resume?_filters_error] at hresume
        obtain rfl := Option.some.inj hresume
        rw [goOn, advance_conclude_error]
        exact .fail fault hp ⟨fault, rfl⟩
      | ok filters =>
        rw [resume?_filters_ok] at hresume
        obtain rfl := Option.some.inj hresume
        obtain ⟨log, hlog⟩ :=
          advance_conclude_ok (s := w.session) (StoredList.group rows filters)
        rw [goOn, hlog]
        exact .readFilters filters log hp ha

theorem takes_of_step? (h : w.Phase) {e : Event} (hstep : w.step? e = some w') : w.Takes e w' := by
  cases e with
  | arrive a => exact takes_of_arrive h a hstep
  | abort =>
    cases hstep
    exact .abort
  | answer place a => exact takes_of_answer h hstep

/-! ## § What each event preserves -/

/-- One more answer is one to the reload that asked. -/
theorem answersTo_of_answered {n : Nat} {a : Answer} (h : w'.answers = w.answers ++ [(n, a)])
    (m : Nat) : w'.answersTo m = w.answersTo m ++ if n = m then [a] else [] := by
  rw [answersTo, h, List.filter_append, List.map_append]
  congr 1
  by_cases hnm : n = m <;> simp [hnm]

/-- The phase is in the flag, the reloads that wait, and the answers. -/
theorem Phase.congr (h : w.Phase) (hr : w'.session.reloading = w.session.reloading)
    (hp : w'.pending = w.pending) (ha : w'.answers = w.answers) : w'.Phase := by
  have hanswers (n : Nat) : w'.answersTo n = w.answersTo n := by rw [answersTo, ha, answersTo]
  cases h with
  | idle hp' hr' => exact .idle (hp.trans hp') (hr.trans hr')
  | lists n hp' hr' ha' => exact .lists n (hp.trans hp') (hr.trans hr') ((hanswers n).trans ha')
  | filters n rows hp' hr' ha' =>
    exact .filters n rows (hp.trans hp') (hr.trans hr') ((hanswers n).trans ha')

theorem Phase.pending_length (h : w.Phase) : w.pending.length ≤ 1 := by
  cases h with
  | idle hp hr => simp [hp]
  | lists n hp hr ha => simp [hp]
  | filters n rows hp hr ha => simp [hp]

theorem Phase.reloading_iff (h : w.Phase) : w.session.reloading = true ↔ w.pending ≠ [] := by
  cases h with
  | idle hp hr => simp [hp, hr]
  | lists n hp hr ha => simp [hp, hr]
  | filters n rows hp hr ha => simp [hp, hr]

/-- A reload that waits has had at most one answer. -/
theorem Phase.answersTo_length (h : w.Phase) {p : Pending} (hp : p ∈ w.pending) :
    (w.answersTo p.number).length ≤ 1 := by
  cases h with
  | idle hnil hr => simp [hnil] at hp
  | lists n hone hr ha =>
    obtain rfl : p = ⟨n, awaitLists⟩ := by simpa [hone] using hp
    simp [ha]
  | filters n rows hone hr ha =>
    obtain rfl : p = ⟨n, awaitFilters rows⟩ := by simpa [hone] using hp
    simp [ha]

/-- The catalogue comes from the answers to both questions of one reload. -/
def Installed (w : Follower) (n : Nat) : Prop :=
  ∃ lists filters, w.answersTo n = [.lists (.ok lists), .filters (.ok filters)] ∧
    w.session.catalogue = Catalogue.ofRows lists filters

structure Sound (catalogue : Catalogue) (w : Follower) : Prop where
  phase : w.Phase
  pending_lt : ∀ p ∈ w.pending, p.number < w.arrived
  answers_lt : ∀ x ∈ w.answers, x.1 < w.arrived
  source : w.session.catalogue = catalogue ∨ ∃ n, w.Installed n

variable {catalogue : Catalogue}

/-- What comes after the catalogue was installed does not concern the reload that did it. -/
theorem Sound.source_of_answered (h : w.Sound catalogue) {p : Pending} {a : Answer}
    (hp : p ∈ w.pending) (ha : w'.answers = w.answers ++ [(p.number, a)])
    (hc : w'.session.catalogue = w.session.catalogue) :
    w'.session.catalogue = catalogue ∨ ∃ n, w'.Installed n := by
  rw [hc]
  refine h.source.imp_right fun ⟨n, lists, filters, hanswers, hfrom⟩ => ⟨n, lists, filters, ?_, ?_⟩
  · have hne : p.number ≠ n := by
      rintro rfl
      have hlength := h.phase.answersTo_length hp
      rw [hanswers] at hlength
      simp at hlength
    rw [answersTo_of_answered ha, if_neg hne, List.append_nil, hanswers]
  · rw [hc, hfrom]

theorem Sound.takes (h : w.Sound catalogue) {e : Event} (ht : w.Takes e w') :
    w'.Sound catalogue := by
  have hlater {x n : Nat} (hx : x < n) : x < n + 1 := Nat.lt_succ_of_lt hx
  have hanswered {n : Nat} {a : Answer} (hn : n < w.arrived) :
      ∀ x ∈ w.answers ++ [(n, a)], x.1 < w.arrived := by
    intro x hx
    rcases List.mem_append.mp hx with hold | hnew
    · exact h.answers_lt x hold
    · obtain rfl := List.mem_singleton.mp hnew
      exact hn
  cases ht with
  | ignore a hignored =>
    exact ⟨h.phase.congr rfl rfl rfl, fun p hp => hlater (h.pending_lt p hp),
      fun x hx => hlater (h.answers_lt x hx), h.source⟩
  | skip a hbusy =>
    exact ⟨h.phase.congr rfl rfl rfl, fun p hp => hlater (h.pending_lt p hp),
      fun x hx => hlater (h.answers_lt x hx), h.source⟩
  | begin a hc ha hp =>
    refine ⟨.lists w.arrived rfl rfl ?_, ?_, fun x hx => hlater (h.answers_lt x hx), h.source⟩
    · -- No announcement has had this number before.
      have hfresh : w.answers.filter (·.1 = w.arrived) = [] := by
        rw [List.filter_eq_nil_iff]
        intro x hx
        have hlt := h.answers_lt x hx
        simp only [decide_eq_true_eq]
        omega
      exact congrArg (List.map _) hfresh
    · intro p hp
      obtain rfl := List.mem_singleton.mp hp
      exact Nat.lt_succ_self _
  | abort => exact ⟨h.phase.congr rfl rfl rfl, h.pending_lt, h.answers_lt, h.source⟩
  | @fail n place reload a fault hp hf =>
    have hmem : (⟨n, reload⟩ : Pending) ∈ w.pending := by simp [hp]
    exact ⟨.idle rfl rfl, nofun, hanswered (h.pending_lt _ hmem),
      h.source_of_answered hmem rfl rfl⟩
  | @readLists n place rows hp ha =>
    have hmem : (⟨n, awaitLists⟩ : Pending) ∈ w.pending := by simp [hp]
    have hr : w.session.reloading = true := h.phase.reloading_iff.mpr (by simp [hp])
    refine ⟨.filters n rows rfl hr ?_, ?_, hanswered (h.pending_lt _ hmem),
      h.source_of_answered hmem rfl rfl⟩
    · rw [answersTo_of_answered (w := w) rfl, ha, if_pos rfl, List.nil_append]
    · intro p hp
      obtain rfl := List.mem_singleton.mp hp
      exact h.pending_lt ⟨n, awaitLists⟩ hmem
  | @readFilters n place rows filters log hp ha =>
    have hmem : (⟨n, awaitFilters rows⟩ : Pending) ∈ w.pending := by simp [hp]
    refine ⟨.idle rfl rfl, nofun, hanswered (h.pending_lt _ hmem),
      Or.inr ⟨n, rows, filters, ?_, rfl⟩⟩
    rw [answersTo_of_answered (w := w) rfl, ha, if_pos rfl]
    rfl

theorem start_sound (catalogue : Catalogue) (log : List LogEvent) :
    (start catalogue log).Sound catalogue :=
  ⟨.idle rfl rfl, nofun, nofun, Or.inl rfl⟩

theorem Sound.run? (h : w.Sound catalogue) {events : List Event}
    (hrun : w.run? events = some w') : w'.Sound catalogue := by
  induction events generalizing w with
  | nil =>
    cases hrun
    exact h
  | cons e rest ih =>
    obtain ⟨next, hstep, hrest⟩ := Option.bind_eq_some_iff.mp hrun
    exact ih (h.takes (takes_of_step? h.phase hstep)) hrest

/-! ## § The end of the bot -/

theorem Takes.aborted_iff {e : Event} (h : w.Takes e w') :
    w'.session.aborted = true ↔ w.session.aborted = true ∨ e = .abort := by
  cases h <;> simp

theorem Sound.aborted_iff (h : w.Sound catalogue) {events : List Event}
    (hrun : w.run? events = some w') :
    w'.session.aborted = true ↔ w.session.aborted = true ∨ .abort ∈ events := by
  induction events generalizing w with
  | nil =>
    cases hrun
    simp
  | cons e rest ih =>
    obtain ⟨next, hstep, hrest⟩ := Option.bind_eq_some_iff.mp hrun
    have htakes := takes_of_step? h.phase hstep
    rw [ih (h.takes htakes) hrest, htakes.aborted_iff, List.mem_cons, or_assoc, eq_comm (a := e)]

/-! ## § While one reload is in progress -/

/-- A reload that waits after an event has waited before, or has just begun. -/
theorem Takes.inProgress {e : Event} (h : w.Takes e w') {n : Nat} (hn : w'.InProgress n) :
    w.InProgress n ∨ ∃ a, e = .arrive a ∧ a.channel = changesChannel ∧
      w.session.aborted = false ∧ w.pending = [] ∧ n = w.arrived := by
  cases h with
  | ignore a hignored => exact Or.inl hn
  | skip a hbusy => exact Or.inl hn
  | begin a hc ha hp =>
    obtain ⟨p, hmem, rfl⟩ := hn
    obtain rfl := List.mem_singleton.mp hmem
    exact Or.inr ⟨a, rfl, hc, ha, hp, rfl⟩
  | abort => exact Or.inl hn
  | fail fault hp hf =>
    obtain ⟨p, hmem, -⟩ := hn
    cases hmem
  | readLists rows hp ha =>
    obtain ⟨p, hmem, rfl⟩ := hn
    obtain rfl := List.mem_singleton.mp hmem
    exact Or.inl ⟨⟨_, awaitLists⟩, by simp [hp], rfl⟩
  | readFilters filters log hp ha =>
    obtain ⟨p, hmem, -⟩ := hn
    cases hmem

theorem Takes.arrived_le {e : Event} (h : w.Takes e w') : w.arrived ≤ w'.arrived := by
  cases h <;> simp

/-- An announcement never changes the catalogue. -/
theorem Takes.of_arrive {a : Announced} (h : w.Takes (.arrive a) w') :
    w'.arrived = w.arrived + 1 ∧ w'.session.catalogue = w.session.catalogue := by
  cases h <;> exact ⟨rfl, rfl⟩

/-- The catalogue stays while any reload is in progress. -/
theorem Takes.catalogue_eq {e : Event} (h : w.Takes e w') {n : Nat} (hn : w'.InProgress n) :
    w'.session.catalogue = w.session.catalogue := by
  cases h with
  | readFilters filters log hp ha =>
    obtain ⟨p, hmem, -⟩ := hn
    cases hmem
  | _ => rfl

/-- A reload that still waits after a run has waited all along, and the catalogue is the same. -/
theorem Sound.catalogue_eq_of_inProgress (h : w.Sound catalogue) {events : List Event}
    (hrun : w.run? events = some w') {n : Nat} (hlt : n < w.arrived) (hn : w'.InProgress n) :
    w.InProgress n ∧ w'.session.catalogue = w.session.catalogue := by
  induction events generalizing w with
  | nil =>
    cases hrun
    exact ⟨hn, rfl⟩
  | cons e rest ih =>
    obtain ⟨next, hstep, hrest⟩ := Option.bind_eq_some_iff.mp hrun
    have htakes := takes_of_step? h.phase hstep
    obtain ⟨hnext, hsame⟩ :=
      ih (h.takes htakes) hrest (Nat.lt_of_lt_of_le hlt htakes.arrived_le)
    rcases htakes.inProgress hnext with hbefore | ⟨a, -, -, -, -, rfl⟩
    · exact ⟨hbefore, hsame.trans (htakes.catalogue_eq hnext)⟩
    · exact absurd hlt (Nat.lt_irrefl _)

/-- A reload that fails is over, and leaves the catalogue as it was. -/
theorem Takes.of_fails {place : Nat} {a : Answer} (h : w.Takes (.answer place a) w')
    (hf : a.Fails) :
    w'.session.catalogue = w.session.catalogue ∧ w'.pending = [] ∧
      w'.session.reloading = false := by
  cases h with
  | fail fault hp hf => exact ⟨rfl, rfl, rfl⟩
  | readLists rows hp ha =>
    obtain ⟨fault, hfault⟩ := hf
    cases hfault
  | readFilters filters log hp ha =>
    obtain ⟨fault, hfault⟩ := hf
    cases hfault

/-! ## § Every run -/

/-- **One reload at a time.**  Whatever is announced, whatever the database answers and whenever the
bot stops: at most one reload is in progress, and the flag is set exactly while one is.  A reload
begins only with an announcement on the channel of changes that arrives before the end while none is
in progress, and every such announcement begins one.  The catalogue is the first one or comes from
both answers to one reload.  A reload that fails leaves the catalogue that it found, and makes room
for the next. -/
theorem reload_exclusion {log : List LogEvent} {events : List Event}
    (hrun : (start catalogue log).run? events = some w) :
    (w.pending.length ≤ 1 ∧ (w.session.reloading = true ↔ w.pending ≠ [])) ∧
    (∀ e w', w.step? e = some w' → ∀ n, w'.InProgress n → w.InProgress n ∨
      ∃ a, e = .arrive a ∧ a.channel = changesChannel ∧ .abort ∉ events ∧ w.pending = [] ∧
        n = w.arrived) ∧
    (∀ a : Announced, a.channel = changesChannel → .abort ∉ events → w.pending = [] →
      ∃ w', w.step? (.arrive a) = some w' ∧ w'.InProgress w.arrived) ∧
    (w.session.catalogue = catalogue ∨ ∃ n, w.Installed n) ∧
    ∀ begun later place p answer waiting w', w.run? (.arrive begun :: later) = some waiting →
      waiting.pending[place]? = some p → p.number = w.arrived → answer.Fails →
      waiting.step? (.answer place answer) = some w' →
        w'.session.catalogue = w.session.catalogue ∧ w'.pending = [] ∧
          w'.session.reloading = false := by
  have hsound : w.Sound catalogue := (start_sound catalogue log).run? hrun
  have habort : w.session.aborted = true ↔ .abort ∈ events := by
    rw [(start_sound catalogue log).aborted_iff hrun]
    simp [start]
  have hopen : w.session.aborted = false ↔ .abort ∉ events := by
    rw [← habort, Bool.not_eq_true]
  refine ⟨⟨hsound.phase.pending_length, hsound.phase.reloading_iff⟩, fun e w' hstep n hn => ?_,
    fun a hc ha hp => ?_, hsound.source, ?_⟩
  · refine (takes_of_step? hsound.phase hstep).inProgress hn |>.imp_right ?_
    rintro ⟨a, rfl, hc, ha, hp, rfl⟩
    exact ⟨a, rfl, hc, hopen.mp ha, hp, rfl⟩
  · obtain ⟨w', hstep⟩ : ∃ w', w.step? (.arrive a) = some w' := ⟨_, rfl⟩
    refine ⟨w', hstep, ?_⟩
    cases takes_of_step? hsound.phase hstep with
    | ignore a hignored => simp [hopen.mpr ha, hc] at hignored
    | skip a hbusy => exact absurd hp hbusy
    | begin a hc ha hp => exact ⟨_, List.mem_singleton_self _, rfl⟩
  · intro begun later place p answer waiting w' hlater hplace hnumber hfails hlast
    obtain ⟨next, hstep, hrest⟩ := Option.bind_eq_some_iff.mp hlater
    have htakes := takes_of_step? hsound.phase hstep
    obtain ⟨harrived, hbegun⟩ := htakes.of_arrive
    have hnext := hsound.takes htakes
    have hwaiting : waiting.InProgress w.arrived :=
      ⟨p, List.mem_of_getElem? hplace, hnumber⟩
    obtain ⟨-, hsame⟩ := hnext.catalogue_eq_of_inProgress hrest (by omega) hwaiting
    obtain ⟨hkept, hover⟩ :=
      (takes_of_step? (hnext.run? hrest).phase hlast).of_fails hfails
    exact ⟨hkept.trans (hsame.trans hbegun), hover⟩

/-- An announcement on another channel, one that begins a reload, and a question that fails. -/
theorem reload_exclusion_failure :
    let noise : Announced := ⟨Text.ofString "other", []⟩
    let change : Announced := ⟨changesChannel, Text.ofString "not json"⟩
    let unanswered : Answer := .filters (.error (.failure []))
    ∃ w waiting w', (start Catalogue.empty []).run? [.arrive noise] = some w ∧
      w.run? [.arrive change, .answer 0 (.lists (.ok []))] = some waiting ∧
      waiting.step? (.answer 0 unanswered) = some w' ∧
      w'.session.catalogue = w.session.catalogue ∧ w'.pending = [] ∧
      w'.session.reloading = false := by
  intro noise change unanswered
  let w : Follower := ⟨⟨false, false, Catalogue.empty, []⟩, [], 1, []⟩
  let waiting : Follower :=
    ⟨⟨true, false, Catalogue.empty, [.reloadStarted (reason? change.message)]⟩,
      [⟨1, awaitFilters []⟩], 2, [(1, .lists (.ok []))]⟩
  have hrun : (start Catalogue.empty []).run? [.arrive noise] = some w := rfl
  have hlater : w.run? [.arrive change, .answer 0 (.lists (.ok []))] = some waiting := by
    have hreact : onAnnounced w.session change = onNotification change.message := rfl
    rw [run?, step?, hreact, goOn, advance_onNotification_idle _ rfl]
    rfl
  obtain ⟨w', hlast⟩ : ∃ w', waiting.step? (.answer 0 unanswered) = some w' := ⟨_, rfl⟩
  have hfails : unanswered.Fails := ⟨_, rfl⟩
  obtain ⟨-, -, -, -, hfailed⟩ := reload_exclusion hrun
  exact ⟨w, waiting, w', hrun, hlater, hlast,
    hfailed change _ 0 ⟨1, awaitFilters []⟩ unanswered waiting w' hlater rfl rfl hfails hlast⟩

end Follower

end ChatModeration.Subscriber
