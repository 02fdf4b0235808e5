/-
ChatModeration.Proofs.ListFaults — lists that fail, and lists that are not there.

Two dispatches of one event are compared: one shows it to all subscribers, some
of which fail and leave the context alone (`FailIn`), and the other one does not
show it to these at all (`Catalogue.without`).

The lists that do not fail see the same contexts and report the same filters, so
the two go on alike: with surroundings that answer a request in one way only,
what is asked depends on what was asked before through nothing but the clock
(`play_fixed`).  All that is left of a list that fails is one line in the log.
-/
import ChatModeration.Proofs.SnapshotIsolation

namespace ChatModeration

/-! ## § Subscribers by handle -/

/-- The lists that see an event, each with its handle. -/
def Catalogue.seats (c : Catalogue) (event : FilterEvent) : List (ListHandle × FilterList) :=
  (c.registry.subscribers event).filterMap fun h => (c.pool.get? h).map (h, ·)

/-- The catalogue in which some lists see no event. -/
def Catalogue.without (c : Catalogue) (F : List ListHandle) : Catalogue :=
  { c with registry :=
      { c.registry with subscribers := fun event =>
          (c.registry.subscribers event).filter (· ∉ F) } }

theorem Catalogue.seats_map (c : Catalogue) (event : FilterEvent) :
    (c.seats event).map (·.2) = c.subscribers event := by
  rw [seats, List.map_filterMap, subscribers, ListPool.resolve]
  refine List.filterMap_congr fun h _ => ?_
  rw [Option.map_map]
  exact Option.map_id'

theorem Catalogue.seats_without (c : Catalogue) (F : List ListHandle) (event : FilterEvent) :
    (c.without F).seats event = (c.seats event).filter (·.1 ∉ F) := by
  have hpool : (c.without F).pool = c.pool := rfl
  have hsubscribers : (c.without F).registry.subscribers event =
      (c.registry.subscribers event).filter (· ∉ F) := rfl
  rw [seats, seats, hpool, hsubscribers]
  induction c.registry.subscribers event with
  | nil => rfl
  | cons h rest ih =>
    cases hlist : c.pool.get? h <;> by_cases hF : h ∈ F <;> simp_all

namespace Dispatch

open ChatModeration.Action

/-- Shown a context one after the other, the lists of `F` fail, and leave it as they find it. -/
def FailIn (F : List ListHandle) : List (ListHandle × FilterList) → Context → Prop
  | [], _ => True
  | (h, list) :: rest, ctx =>
    (h ∈ F → ∃ fault, list.evaluate ctx = (.error fault, ctx)) ∧
      FailIn F rest (list.evaluate ctx).2

/-! ## § What the lists find -/

/-- What is found by lists that see a context one after the other, with their handles. -/
def consultSeats : List (ListHandle × FilterList) → Context →
    List (ListHandle × ListOutcome) × Context
  | [], ctx => ([], ctx)
  | (h, list) :: rest, ctx =>
    ((h, ⟨list.name, (list.evaluate ctx).1⟩) :: (consultSeats rest (list.evaluate ctx).2).1,
      (consultSeats rest (list.evaluate ctx).2).2)

theorem consult_seats (seats : List (ListHandle × FilterList)) (ctx : Context) :
    consult (seats.map (·.2)) ctx =
      ((consultSeats seats ctx).1.map (·.2), (consultSeats seats ctx).2) := by
  induction seats generalizing ctx with
  | nil => rfl
  | cons seat rest ih =>
    obtain ⟨h, list⟩ := seat
    simp only [List.map_cons, consult, consultSeats, ih]

variable {F : List ListHandle} {seats : List (ListHandle × FilterList)} {ctx : Context}

/-- The lists that do not fail see the same contexts when the others are left out. -/
theorem consultSeats_without (h : FailIn F seats ctx) :
    consultSeats (seats.filter (·.1 ∉ F)) ctx =
      ((consultSeats seats ctx).1.filter (·.1 ∉ F), (consultSeats seats ctx).2) := by
  induction seats generalizing ctx with
  | nil => rfl
  | cons seat rest ih =>
    obtain ⟨handle, list⟩ := seat
    obtain ⟨hfails, hrest⟩ := h
    by_cases hF : handle ∈ F
    · obtain ⟨fault, hfault⟩ := hfails hF
      rw [hfault] at hrest
      rw [List.filter_cons_of_neg (by simp [hF]), ih hrest, consultSeats, hfault,
        List.filter_cons_of_neg (by simp [hF])]
    · rw [List.filter_cons_of_pos (by simp [hF]), consultSeats, ih hrest, consultSeats,
        List.filter_cons_of_pos (by simp [hF])]

theorem consultSeats_handles (seats : List (ListHandle × FilterList)) (ctx : Context) :
    (consultSeats seats ctx).1.map (·.1) = seats.map (·.1) := by
  induction seats generalizing ctx with
  | nil => rfl
  | cons seat rest ih => simp only [consultSeats, List.map_cons, ih]

/-- What is found is found by a list. -/
theorem name_of_mem_consultSeats {x : ListHandle × ListOutcome}
    (hx : x ∈ (consultSeats seats ctx).1) : ∃ list, (x.1, list) ∈ seats ∧ x.2.list = list.name := by
  induction seats generalizing ctx with
  | nil => cases hx
  | cons seat rest ih =>
    rcases List.mem_cons.mp hx with rfl | hrest
    · exact ⟨seat.2, List.mem_cons_self, rfl⟩
    · obtain ⟨list, hlist, hname⟩ := ih hrest
      exact ⟨list, List.mem_cons_of_mem _ hlist, hname⟩

theorem error_of_mem_consultSeats (h : FailIn F seats ctx) {x : ListHandle × ListOutcome}
    (hx : x ∈ (consultSeats seats ctx).1) (hF : x.1 ∈ F) : ∃ fault, x.2.outcome = .error fault := by
  induction seats generalizing ctx with
  | nil => cases hx
  | cons seat rest ih =>
    obtain ⟨hfails, hrest⟩ := h
    rcases List.mem_cons.mp hx with rfl | hmem
    · obtain ⟨fault, hfault⟩ := hfails hF
      exact ⟨fault, congrArg Prod.fst hfault⟩
    · exact ih hrest hmem

/-- Lists that fail report nothing. -/
theorem reports_without (found : List (ListHandle × ListOutcome))
    (h : ∀ x ∈ found, x.1 ∈ F → ∃ fault, x.2.outcome = .error fault) :
    reports ((found.filter (·.1 ∉ F)).map (·.2)) = reports (found.map (·.2)) := by
  induction found with
  | nil => rfl
  | cons x rest ih =>
    have hrest := ih fun y hy => h y (List.mem_cons_of_mem _ hy)
    unfold reports at hrest ⊢
    by_cases hF : x.1 ∈ F
    · obtain ⟨fault, hfault⟩ := h x List.mem_cons_self hF
      rw [List.filter_cons_of_neg (by simp [hF]), List.map_cons,
        List.filterMap_cons_none (by simp [hfault]), hrest]
    · rw [List.filter_cons_of_pos (by simp [hF]), List.map_cons, List.map_cons,
        List.filterMap_cons, List.filterMap_cons, hrest]

/-! ## § What is left in the log -/

/-- The lines of the log about lists that failed, with the handles of the lists. -/
def failureLines (event : FilterEvent) (found : List (ListHandle × ListOutcome)) :
    List (ListHandle × Exchange Moderation) :=
  found.filterMap fun x => (failureLine? event x.2).map (x.1, ·)

theorem failureLines_map (event : FilterEvent) (found : List (ListHandle × ListOutcome)) :
    (failureLines event found).map (·.2) = (found.map (·.2)).filterMap (failureLine? event) := by
  rw [failureLines, List.map_filterMap, List.filterMap_map]
  refine List.filterMap_congr fun x _ => ?_
  rw [Option.map_map]
  exact Option.map_id'

/-- Leaving lists out leaves their lines out. -/
theorem failureLines_filter (event : FilterEvent) (p : ListHandle → Bool)
    (found : List (ListHandle × ListOutcome)) :
    failureLines event (found.filter fun x => p x.1) =
      (failureLines event found).filter fun line => p line.1 := by
  unfold failureLines
  rw [List.filterMap_filter, List.filter_filterMap]
  refine List.filterMap_congr fun x _ => ?_
  cases failureLine? event x.2 <;> cases hp : p x.1 <;> simp [Option.filter, hp]

/-- Lists that all failed have a line each. -/
theorem failureLines_handles (event : FilterEvent) {found : List (ListHandle × ListOutcome)}
    (h : ∀ x ∈ found, ∃ fault, x.2.outcome = .error fault) :
    (failureLines event found).map (·.1) = found.map (·.1) := by
  induction found with
  | nil => rfl
  | cons x rest ih =>
    obtain ⟨fault, hfault⟩ := h x List.mem_cons_self
    have hrest := ih fun y hy => h y (List.mem_cons_of_mem _ hy)
    unfold failureLines failureLine? at hrest ⊢
    simp only [List.filterMap_cons, hfault, Option.map_some, List.map_cons, hrest]

theorem mem_failureLines {event : FilterEvent} {found : List (ListHandle × ListOutcome)}
    {line : ListHandle × Exchange Moderation} (h : line ∈ failureLines event found) :
    ∃ x ∈ found, ∃ fault, line = (x.1, logged (.listFailed fault x.2.list event)) := by
  obtain ⟨x, hx, hline⟩ := List.mem_filterMap.mp h
  obtain ⟨e, he, rfl⟩ := Option.map_eq_some_iff.mp hline
  unfold failureLine? at he
  split at he
  · rename_i fault _
    exact ⟨x, hx, fault, by rw [Option.some.inj he]⟩
  · cases he

/-- The lines about lists that failed do not look at the clock. -/
theorem countP_failureLines (event : FilterEvent) (found : List (ListHandle × ListOutcome)) :
    ((failureLines event found).map (·.2)).countP asksClock = 0 := by
  refine List.countP_eq_zero.mpr fun e he => ?_
  obtain ⟨line, hline, rfl⟩ := List.mem_map.mp he
  obtain ⟨x, -, fault, rfl⟩ := mem_failureLines hline
  exact Bool.false_ne_true

theorem callsIn_failureLines (event : FilterEvent) (found : List (ListHandle × ListOutcome)) :
    callsIn ((failureLines event found).map (·.2)) = [] := by
  refine List.flatMap_eq_nil_iff.mpr fun e he => ?_
  obtain ⟨line, hline, rfl⟩ := List.mem_map.mp he
  obtain ⟨x, -, fault, rfl⟩ := mem_failureLines hline
  rfl

/-! ## § What is done then -/

/-- What the findings of the lists amount to. -/
def judgement (outcomes : List ListOutcome) : Evaluation :=
  ⟨reports outcomes, ActionSet.mergeAll ((filtersOf (reports outcomes)).map (·.actions))⟩

section Play

variable {s : Surroundings Moderation}

theorem play_judge (hlog : s.Logs) (outcomes : List ListOutcome) (ctx : Context)
    (past : Conversation Moderation) :
    (judge outcomes).play s ctx past =
      ((.ok (judgement outcomes), withRecords ctx (filtersOf (reports outcomes))),
        past ++ outcomes.filterMap (failureLine? ctx.event)) := by
  simp only [judge, play_bind, play_get, play_logFailures hlog, play_modify]
  rfl

/-- Acting on an evaluation always ends with it, and leaves the event as it was. -/
theorem play_act (hlog : s.Logs) (settings : DispatchSettings) (evaluation : Evaluation)
    (ctx : Context) (past : Conversation Moderation) :
    ∃ alerted ctx' rest, (act settings evaluation).play s ctx past =
        ((.ok (evaluation, alerted), ctx'), past ++ rest) ∧
      ctx'.toIncoming = ctx.toIncoming := by
  cases htriggered : evaluation.triggered.isEmpty with
  | true =>
    refine ⟨false, ctx, [], ?_, rfl⟩
    simp [act, htriggered]
  | false =>
    obtain ⟨ctx', carried, hcarry, hc⟩ :=
      evaluation.actions.play_apply hlog settings.moderation ctx past
    cases hsend : ctx'.sendAlert with
    | true =>
      obtain ⟨alerted, sent, halert, -⟩ :=
        play_alert hlog settings evaluation.triggered ctx' (past ++ carried)
      refine ⟨alerted, ctx', carried ++ sent ++ [logged (.filtersTriggered
        (report ctx' evaluation.triggered alerted))], ?_, hc.follows.incoming⟩
      simp only [act, htriggered, Bool.false_eq_true, if_false, play_bind, hcarry, play_get, hsend,
        if_true, halert, play_log hlog, play_pure, List.append_assoc]
    | false =>
      refine ⟨false, ctx', carried ++ [logged (.filtersTriggered
        (report ctx' evaluation.triggered false))], ?_, hc.follows.incoming⟩
      simp only [act, htriggered, Bool.false_eq_true, if_false, play_bind, hcarry, play_get, hsend,
        play_log hlog, play_pure, List.append_assoc]

/-- A dispatch acts on the judgement, after a line for each list that failed. -/
theorem alone_eq (hlog : s.Logs) (settings : DispatchSettings) (catalogue : Catalogue)
    (incoming : Incoming) {found : List (ListHandle × ListOutcome)} {ctx : Context}
    (h : consultSeats (catalogue.seats incoming.event) (Context.ofIncoming incoming) =
      (found, ctx)) :
    alone settings s catalogue incoming =
      (act settings (judgement (found.map (·.2)))).play s
        (withRecords ctx (filtersOf (reports (found.map (·.2)))))
        ((failureLines ctx.event found).map (·.2)) := by
  have hconsult : consult (catalogue.subscribers incoming.event) (Context.ofIncoming incoming) =
      (found.map (·.2), ctx) := by
    rw [← Catalogue.seats_map, consult_seats, h]
  have heq := dispatch_eq_conclude settings catalogue (Context.ofIncoming incoming)
  change (dispatch settings catalogue).run.run _ = (conclude settings
    (consult (catalogue.subscribers incoming.event) (Context.ofIncoming incoming)).1).run.run
      (consult (catalogue.subscribers incoming.event) (Context.ofIncoming incoming)).2 at heq
  rw [hconsult] at heq
  calc alone settings s catalogue incoming
      = (conclude settings (found.map (·.2))).play s ctx [] := congrArg (Program.play s · []) heq
    _ = _ := by
      rw [conclude, play_bind_ok (play_judge hlog _ ctx []), failureLines_map, List.nil_append]

/-- With the lists that fail left out, a dispatch acts on the same judgement after fewer lines. -/
theorem alone_without (hlog : s.Logs) (settings : DispatchSettings) {catalogue : Catalogue}
    {incoming : Incoming} {F : List ListHandle}
    (hfail : FailIn F (catalogue.seats incoming.event) (Context.ofIncoming incoming))
    {found : List (ListHandle × ListOutcome)} {ctx : Context}
    (h : consultSeats (catalogue.seats incoming.event) (Context.ofIncoming incoming) =
      (found, ctx)) :
    alone settings s (catalogue.without F) incoming =
      (act settings (judgement (found.map (·.2)))).play s
        (withRecords ctx (filtersOf (reports (found.map (·.2)))))
        (((failureLines ctx.event found).filter (·.1 ∉ F)).map (·.2)) := by
  have hreduced : consultSeats ((catalogue.without F).seats incoming.event)
      (Context.ofIncoming incoming) = (found.filter (·.1 ∉ F), ctx) := by
    rw [Catalogue.seats_without, consultSeats_without hfail, h]
  have hreports : reports ((found.filter (·.1 ∉ F)).map (·.2)) = reports (found.map (·.2)) :=
    reports_without found fun x hx => error_of_mem_consultSeats hfail (by rw [h]; exact hx)
  have hlines := failureLines_filter ctx.event (fun h => decide (h ∉ F)) found
  rw [alone_eq hlog settings (catalogue.without F) incoming hreduced, judgement, hreports, hlines]
  rfl

end Play

/-- With fixed answers, what a program asks does not depend on what was asked before it, but for
the number of times the clock was. -/
theorem play_fixed (f : FixedAnswers) (k : Nat) {α : Type} (p : Program Moderation α)
    {past past' : Conversation Moderation} (h : past.countP asksClock = past'.countP asksClock) :
    ∃ a rest, p.play (f.surroundings k) past = (a, past ++ rest) ∧
      p.play (f.surroundings k) past' = (a, past' ++ rest) := by
  induction p generalizing past past' with
  | done a => exact ⟨a, [], by simp, by simp⟩
  | ask r next ih =>
    have hanswer : f.surroundings k past r = f.surroundings k past' r := by
      cases r with
      | platform r => rfl
      | log event => rfl
      | clock => exact congrArg (f.clock k) h
    let e : Exchange Moderation := ⟨r, f.surroundings k past r⟩
    have hcount : (past ++ [e]).countP asksClock = (past' ++ [e]).countP asksClock := by
      rw [List.countP_append, List.countP_append, h]
    obtain ⟨a, rest, hplay, hplay'⟩ := ih (f.surroundings k past r) hcount
    refine ⟨a, e :: rest, ?_, ?_⟩
    · rw [Program.play_ask, hplay, List.append_assoc]
      rfl
    · rw [Program.play_ask, ← hanswer, hplay', List.append_assoc]
      rfl

theorem play_fixed_eq {f : FixedAnswers} {k : Nat} {α : Type} {action : Action α} {ctx : Context}
    {past past' rest : Conversation Moderation} {outcome : Except Fault α × Context}
    (h : past.countP asksClock = past'.countP asksClock)
    (hplay : action.play (f.surroundings k) ctx past = (outcome, past ++ rest)) :
    action.play (f.surroundings k) ctx past' = (outcome, past' ++ rest) := by
  obtain ⟨outcome', rest', hfirst, hsecond⟩ := play_fixed f k (action.run.run ctx) h
  obtain ⟨rfl, hrest⟩ := Prod.mk.inj (hfirst.symm.trans hplay)
  rw [← List.append_cancel_left hrest]
  exact hsecond

/-! ## § Two dispatches of one event -/

/-- **Lists that fail do not disturb the others.**  Let the lists of `F`, wherever they stand among
the subscribers, fail and leave the context alone.  A dispatch of the event comes to the same as one
with the lists of `F` left out: the same evaluation, the same alert, the same context.  It makes the
same calls to the platform, and writes the same log but for one line for each list of `F` that was
shown the event. -/
theorem fault_isolation (settings : DispatchSettings) {f : FixedAnswers}
    (hlog : ∀ event, f.log event = .ok ()) (k : Nat) {catalogue : Catalogue} {F : List ListHandle}
    {incoming : Incoming}
    (hfail : FailIn F (catalogue.seats incoming.event) (Context.ofIncoming incoming)) :
    let whole := alone settings (f.surroundings k) catalogue incoming
    let reduced := alone settings (f.surroundings k) (catalogue.without F) incoming
    ∃ (evaluation : Evaluation) (alerted : Bool) (ctx : Context)
        (lines : List (ListHandle × Exchange Moderation)) (rest : Conversation Moderation),
      whole = ((.ok (evaluation, alerted), ctx), lines.map (·.2) ++ rest) ∧
      reduced = ((.ok (evaluation, alerted), ctx),
        (lines.filter (·.1 ∉ F)).map (·.2) ++ rest) ∧
      callsIn whole.2 = callsIn reduced.2 ∧
      (lines.filter (·.1 ∈ F)).map (·.1) =
        ((catalogue.seats incoming.event).map (·.1)).filter (· ∈ F) ∧
      ∀ line ∈ lines, ∃ list fault, (line.1, list) ∈ catalogue.seats incoming.event ∧
        line.2 = logged (.listFailed fault list.name ctx.event) := by
  intro whole reduced
  have hlogs : (f.surroundings k).Logs := fun _ => hlog
  obtain ⟨found, seen, hfound⟩ : ∃ found seen,
      consultSeats (catalogue.seats incoming.event) (Context.ofIncoming incoming) =
        (found, seen) := ⟨_, _, rfl⟩
  have hfirst : (consultSeats (catalogue.seats incoming.event)
      (Context.ofIncoming incoming)).1 = found := congrArg Prod.fst hfound
  let lines := failureLines seen.event found
  have hlines (p : ListHandle → Bool) :
      lines.filter (fun line => p line.1) = failureLines seen.event (found.filter fun x => p x.1) :=
    (failureLines_filter seen.event p found).symm
  obtain ⟨alerted, ctx, rest, hact, hincoming⟩ := play_act hlogs settings
    (judgement (found.map (·.2))) (withRecords seen (filtersOf (reports (found.map (·.2)))))
    (lines.map (·.2))
  -- The two runs act on one judgement in one context; only the lines before that differ, and no
  -- line looks at the clock.
  have hclock : (lines.map (·.2)).countP asksClock =
      ((lines.filter (·.1 ∉ F)).map (·.2)).countP asksClock := by
    rw [hlines fun h => decide (h ∉ F), countP_failureLines, countP_failureLines]
  have hwhole : whole = _ := (alone_eq hlogs settings catalogue incoming hfound).trans hact
  have hreduced : reduced = _ :=
    (alone_without hlogs settings hfail hfound).trans (play_fixed_eq hclock hact)
  refine ⟨judgement (found.map (·.2)), alerted, ctx, lines, rest, hwhole, hreduced, ?_, ?_,
    fun line hline => ?_⟩
  · rw [hwhole, hreduced, callsIn_append, callsIn_append, hlines fun h => decide (h ∉ F),
      callsIn_failureLines, callsIn_failureLines]
  · have hall : ∀ x ∈ found.filter (·.1 ∈ F), ∃ fault, x.2.outcome = .error fault := by
      intro x hx
      obtain ⟨hmem, hF⟩ := List.mem_filter.mp hx
      exact error_of_mem_consultSeats hfail (hfirst ▸ hmem) (of_decide_eq_true hF)
    rw [hlines fun h => decide (h ∈ F), failureLines_handles _ hall,
      ← consultSeats_handles _ (Context.ofIncoming incoming), hfirst, List.filter_map]
    rfl
  · obtain ⟨x, hx, fault, rfl⟩ := mem_failureLines hline
    obtain ⟨list, hlist, hname⟩ := name_of_mem_consultSeats (hfirst ▸ hx)
    have hevent : ctx.event = seen.event := congrArg Incoming.event hincoming
    exact ⟨list, fault, hlist, by rw [hname, hevent]⟩

/-- A list that always fails, and leaves the context alone. -/
def broken : FilterList :=
  ⟨Text.ofString "broken", FilterEvent.all, [], .custom fun ctx => (.error (.failure []), ctx)⟩

/-- The list that fails is asked before the one that finds something. -/
theorem fault_isolation_first :
    let f : FixedAnswers :=
      ⟨fun r => answering (.ok .sent) (.ok ()) [] (.platform r), fun _ => .ok (), fun _ _ => 0⟩
    let catalogue :=
      ((Catalogue.empty.install broken).1.install (FilterList.token.add [spamFilter []])).1
    let whole := alone toWebhook (f.surroundings 0) catalogue spam
    let reduced := alone toWebhook (f.surroundings 0) (catalogue.without [⟨0⟩]) spam
    (∀ event, f.log event = .ok ()) ∧
      FailIn [⟨0⟩] (catalogue.seats spam.event) (Context.ofIncoming spam) ∧
      whole.1 = reduced.1 ∧ callsIn whole.2 = callsIn reduced.2 ∧ (callsIn whole.2).length = 4 ∧
      whole.2.length = reduced.2.length + 1 := by
  intro f catalogue whole reduced
  have hlog : ∀ event, f.log event = .ok () := fun _ => rfl
  have hseats : catalogue.seats spam.event =
      [(⟨0⟩, broken), (⟨1⟩, FilterList.token.add [spamFilter []])] := rfl
  have hfail : FailIn [⟨0⟩] (catalogue.seats spam.event) (Context.ofIncoming spam) := by
    rw [hseats]
    exact ⟨fun _ => ⟨.failure [], rfl⟩, fun h => absurd h (by decide), trivial⟩
  obtain ⟨evaluation, alerted, ctx, lines, rest, hwhole, hreduced, hcalls, -, -⟩ :=
    fault_isolation toWebhook hlog 0 hfail
  have hlengths : (callsIn whole.2).length = 4 ∧ whole.2.length = reduced.2.length + 1 := by
    decide +kernel
  refine ⟨hlog, hfail, ?_, hcalls, hlengths⟩
  exact (congrArg Prod.fst hwhole).trans (congrArg Prod.fst hreduced).symm

end Dispatch
end ChatModeration
