/-
ChatModeration.Proofs.DispatchStages — a dispatch step by step.

A dispatch first shows the event to the lists, which finish in any order, and
then acts on what they found, one request at a time (`conclude`).  `Running` is
a dispatch at any moment of this, and `step?` is one thing that can happen to
it.  `Running.Follows` says that it is on the way to what the dispatch leads to
when it runs alone; every step keeps it on this way.
-/
import ChatModeration.Proofs.BuiltCatalogue
import ChatModeration.Proofs.DispatchConduct
import ChatModeration.Proofs.Relay

namespace ChatModeration

namespace Dispatch

/-! ## § Two parts of a dispatch -/

/-- What a dispatch comes to: the evaluation and whether an alert was delivered, and the context. -/
abbrev Outcome := Except Fault (Evaluation × Bool) × Context

/-- What is made of the findings of the lists. -/
def judge (outcomes : List ListOutcome) : Action Evaluation := do
  let ctx ← get
  logFailures ctx.event outcomes
  let triggered := reports outcomes
  let filters := filtersOf triggered
  modify fun ctx => { ctx with matchRecords := ctx.matchRecords ++ filters.flatMap (·.found) }
  return ⟨triggered, ActionSet.mergeAll (filters.map (·.actions))⟩

/-- What is done about an evaluation. -/
def act (settings : DispatchSettings) (evaluation : Evaluation) : Action (Evaluation × Bool) := do
  if evaluation.triggered.isEmpty then return (evaluation, false)
  evaluation.actions.apply settings.moderation
  let ctx ← get
  let alerted ← if ctx.sendAlert then alert settings evaluation.triggered else pure false
  let ctx ← get
  Action.log (.filtersTriggered (report ctx evaluation.triggered alerted))
  return (evaluation, alerted)

/-- The dispatch after the lists have finished. -/
def conclude (settings : DispatchSettings) (outcomes : List ListOutcome) :
    Action (Evaluation × Bool) :=
  judge outcomes >>= act settings

/-- A dispatch shows the event to the lists and goes on with their findings. -/
theorem dispatch_eq_conclude (settings : DispatchSettings) (catalogue : Catalogue) (ctx : Context) :
    (dispatch settings catalogue).run.run ctx =
      (conclude settings (consult (catalogue.subscribers ctx.event) ctx).1).run.run
        (consult (catalogue.subscribers ctx.event) ctx).2 := by
  rfl

/-! ## § Lists of a configuration -/

theorem listUnder_readsOnly (lists : List RawList) (name : Text) :
    (RawList.listUnder lists name).ReadsOnly := by
  intro ctx
  unfold RawList.listUnder kindOf
  split
  · rfl
  · rfl

/-- Lists that come from a configuration leave the context alone. -/
theorem build_readsOnly (raws : List Value) : (Catalogue.build raws).1.ReadsOnly := by
  intro event list hlist
  have hall : list ∈ (Catalogue.build raws).1.all := by
    rw [Catalogue.build_eq] at hlist ⊢
    have h := Catalogue.ofNames_subscribers (RawList.namesOf (RawList.accepted raws))
      (RawList.accepted raws) event
    rw [Catalogue.subscribers, Catalogue.ofLists, h] at hlist
    exact hlist
  rw [Catalogue.build_eq, Catalogue.ofLists, Catalogue.ofNames_all] at hall
  obtain ⟨name, -, rfl⟩ := List.mem_map.mp hall
  exact listUnder_readsOnly _ name

/-! ## § A dispatch on its way -/

/-- A list that has been shown an event, with what it made of it once it is finished. -/
structure Slot where
  list : FilterList
  outcome : Option (Except Fault (List TriggeredFilter))

namespace Slot

/-- A list that is still at work. -/
def waiting (list : FilterList) : Slot := ⟨list, none⟩

def result? (slot : Slot) : Option ListOutcome := slot.outcome.map (⟨slot.list.name, ·⟩)

end Slot

inductive Stage where
  /-- The lists are at work on a context. -/
  | fanOut (ctx : Context) (slots : List Slot)
  /-- The lists are finished; this is left. -/
  | acting (rest : Program Moderation Outcome)
  /-- A request has been made, and its answer is not there yet. -/
  | waiting (request : Moderation.Request)
      (next : Moderation.Answer request → Program Moderation Outcome)

/-- A dispatch on its way, with the requests that have been answered. -/
structure Running where
  stage : Stage
  record : Conversation Moderation

namespace Running

/-- A dispatch that begins with a catalogue. -/
def begin (catalogue : Catalogue) (incoming : Incoming) : Running where
  stage := .fanOut (Context.ofIncoming incoming)
    ((catalogue.subscribers incoming.event).map Slot.waiting)
  record := []

/-- What a dispatch has come to, if it has ended. -/
def outcome? (d : Running) : Option Outcome :=
  match d.stage with
  | .acting (.done outcome) => some outcome
  | _ => none

end Running

/-- One thing that can happen to a dispatch. -/
inductive Step where
  /-- The list at this place finishes. -/
  | complete (place : Nat)
  /-- All lists have finished. -/
  | gather
  /-- The next request is made. -/
  | ask
  /-- The answer arrives. -/
  | answer

/-- The call to the platform that a request is, if it is one. -/
def callOf : Moderation.Request → List PlatformRequest
  | .platform r => [r]
  | _ => []

/-- What a step leads to, if it is possible, and the calls to the platform that are made in it. -/
def Running.step? (settings : DispatchSettings) (s : Surroundings Moderation) (d : Running) :
    Step → Option (Running × List PlatformRequest)
  | .complete place =>
    match d.stage with
    | .fanOut ctx slots =>
      match slots[place]? with
      | some ⟨list, none⟩ =>
        let (outcome, ctx) := list.evaluate ctx
        some ({ d with stage := .fanOut ctx (slots.set place ⟨list, some outcome⟩) }, [])
      | _ => none
    | _ => none
  | .gather =>
    match d.stage with
    | .fanOut ctx slots =>
      if slots.all (·.outcome.isSome) then
        let rest := (conclude settings (slots.filterMap Slot.result?)).run.run ctx
        some ({ d with stage := .acting rest }, [])
      else none
    | _ => none
  | .ask =>
    match d.stage with
    | .acting (.ask r next) => some ({ d with stage := .waiting r next }, callOf r)
    | _ => none
  | .answer =>
    match d.stage with
    | .waiting r next =>
      some (⟨.acting (next (s d.record r)), d.record ++ [⟨r, s d.record r⟩]⟩, [])
    | _ => none

/-- Everything that a step can be. -/
inductive Takes (settings : DispatchSettings) (s : Surroundings Moderation) :
    Running → Running → List PlatformRequest → Prop where
  | complete {ctx : Context} {slots : List Slot} {place : Nat} {list : FilterList}
      {record : Conversation Moderation} (h : slots[place]? = some (Slot.waiting list)) :
      Takes settings s ⟨.fanOut ctx slots, record⟩
        ⟨.fanOut (list.evaluate ctx).2 (slots.set place ⟨list, some (list.evaluate ctx).1⟩), record⟩
        []
  | gather {ctx : Context} {slots : List Slot} {record : Conversation Moderation}
      (h : ∀ slot ∈ slots, slot.outcome.isSome) :
      Takes settings s ⟨.fanOut ctx slots, record⟩
        ⟨.acting ((conclude settings (slots.filterMap Slot.result?)).run.run ctx), record⟩ []
  | ask (r : Moderation.Request) (next : Moderation.Answer r → Program Moderation Outcome)
      (record : Conversation Moderation) :
      Takes settings s ⟨.acting (.ask r next), record⟩ ⟨.waiting r next, record⟩ (callOf r)
  | answer (r : Moderation.Request) (next : Moderation.Answer r → Program Moderation Outcome)
      (record : Conversation Moderation) :
      Takes settings s ⟨.waiting r next, record⟩
        ⟨.acting (next (s record r)), record ++ [⟨r, s record r⟩]⟩ []

section Steps

variable {settings : DispatchSettings} {s : Surroundings Moderation} {d d' : Running}
  {made : List PlatformRequest}

theorem takes_of_step? {step : Step} (h : d.step? settings s step = some (d', made)) :
    Takes settings s d d' made := by
  obtain ⟨stage, record⟩ := d
  cases step with
  | complete place =>
    cases stage with
    | fanOut ctx slots =>
      simp only [Running.step?] at h
      split at h
      · rename_i list hslot
        cases h
        exact .complete hslot
      · cases h
    | acting rest => cases h
    | waiting r next => cases h
  | gather =>
    cases stage with
    | fanOut ctx slots =>
      simp only [Running.step?] at h
      split at h
      · rename_i hall
        cases h
        exact .gather (List.all_eq_true.mp hall)
      · cases h
    | acting rest => cases h
    | waiting r next => cases h
  | ask =>
    cases stage with
    | fanOut ctx slots => cases h
    | acting rest =>
      cases rest with
      | done outcome => cases h
      | ask r next =>
        cases h
        exact .ask r next record
    | waiting r next => cases h
  | answer =>
    cases stage with
    | fanOut ctx slots => cases h
    | acting rest => cases h
    | waiting r next =>
      cases h
      exact .answer r next record

end Steps

/-! ## § On the way to the outcome -/

/-- The calls to the platform in a record. -/
def callsIn (record : Conversation Moderation) : List PlatformRequest :=
  record.flatMap fun e => callOf e.request

theorem callsIn_append (record later : Conversation Moderation) :
    callsIn (record ++ later) = callsIn record ++ callsIn later := List.flatMap_append

/-- What a dispatch comes to, and the record, when nothing else happens. -/
def alone (settings : DispatchSettings) (s : Surroundings Moderation) (catalogue : Catalogue)
    (incoming : Incoming) : Outcome × Conversation Moderation :=
  Program.play s (start incoming (dispatch settings catalogue)) []

/-- A dispatch that is on the way to what it comes to when it runs alone, with the calls it has
made. -/
inductive Follows (settings : DispatchSettings) (s : Surroundings Moderation)
    (catalogue : Catalogue) (incoming : Incoming) : Running → List PlatformRequest → Prop where
  /-- The lists that are finished have found what they find in the fresh context. -/
  | fanOut {slots : List Slot}
      (hlists : slots.map (·.list) = catalogue.subscribers incoming.event)
      (hfound : ∀ slot ∈ slots, ∀ outcome, slot.outcome = some outcome →
        outcome = (slot.list.evaluate (Context.ofIncoming incoming)).1) :
      Follows settings s catalogue incoming ⟨.fanOut (Context.ofIncoming incoming) slots, []⟩ []
  | acting {rest : Program Moderation Outcome} {record : Conversation Moderation}
      (h : rest.play s record = alone settings s catalogue incoming) :
      Follows settings s catalogue incoming ⟨.acting rest, record⟩ (callsIn record)
  | waiting {r : Moderation.Request} {next : Moderation.Answer r → Program Moderation Outcome}
      {record : Conversation Moderation}
      (h : (Program.ask r next).play s record = alone settings s catalogue incoming) :
      Follows settings s catalogue incoming ⟨.waiting r next, record⟩ (callsIn record ++ callOf r)

section Follows

variable {settings : DispatchSettings} {s : Surroundings Moderation} {catalogue : Catalogue}
  {incoming : Incoming} {d d' : Running} {made new : List PlatformRequest}

theorem follows_begin : Follows settings s catalogue incoming (.begin catalogue incoming) [] := by
  refine .fanOut ?_ fun slot hslot outcome houtcome => ?_
  · rw [List.map_map]
    exact List.map_id _
  · obtain ⟨list, -, rfl⟩ := List.mem_map.mp hslot
    cases houtcome

/-- When all lists are finished, their results are their findings. -/
theorem results_eq {slots : List Slot} {ctx : Context}
    (hall : ∀ slot ∈ slots, slot.outcome.isSome)
    (hfound : ∀ slot ∈ slots, ∀ outcome, slot.outcome = some outcome →
      outcome = (slot.list.evaluate ctx).1) :
    slots.filterMap Slot.result? = findings (slots.map (·.list)) ctx := by
  have hresult : ∀ slot ∈ slots,
      slot.result? = some ⟨slot.list.name, (slot.list.evaluate ctx).1⟩ := by
    intro slot hslot
    obtain ⟨outcome, houtcome⟩ := Option.isSome_iff_exists.mp (hall slot hslot)
    rw [Slot.result?, houtcome, hfound slot hslot outcome houtcome]
    rfl
  rw [findings, List.map_map, List.filterMap_congr hresult, List.filterMap_eq_map']
  rfl

/-- A list that finishes keeps its place. -/
theorem map_list_set {slots : List Slot} {place : Nat} {slot slot' : Slot}
    (h : slots[place]? = some slot) (hlist : slot'.list = slot.list) :
    (slots.set place slot').map (·.list) = slots.map (·.list) := by
  obtain ⟨hlt, hslot⟩ := List.getElem?_eq_some_iff.mp h
  have hbound : place < (slots.map (·.list)).length := by simpa using hlt
  have hsame : slot'.list = (slots.map (·.list))[place] := by
    rw [hlist, ← hslot, List.getElem_map]
  rw [List.map_set, hsame, List.set_getElem_self]

/-- Every step keeps a dispatch on its way. -/
theorem Follows.takes (hreads : catalogue.ReadsOnly)
    (h : Follows settings s catalogue incoming d made) (htakes : Takes settings s d d' new) :
    Follows settings s catalogue incoming d' (made ++ new) := by
  cases htakes with
  | @complete ctx slots place list record hslot =>
    cases h with
    | fanOut hlists hfound =>
      have hmem : list ∈ catalogue.subscribers incoming.event := by
        rw [← hlists]
        exact List.mem_map_of_mem (List.mem_of_getElem? hslot)
      rw [hreads incoming.event list hmem]
      refine .fanOut ?_ fun slot hmem outcome houtcome => ?_
      · rw [← hlists]
        exact map_list_set hslot rfl
      · rcases List.mem_or_eq_of_mem_set hmem with hold | rfl
        · exact hfound slot hold outcome houtcome
        · exact (Option.some.inj houtcome).symm
  | @gather ctx slots record hall =>
    cases h with
    | fanOut hlists hfound =>
      rw [results_eq hall hfound, hlists]
      refine .acting ?_
      have heq := dispatch_eq_conclude settings catalogue (Context.ofIncoming incoming)
      rw [consult_of_readsOnly (hreads _)] at heq
      exact (congrArg (Program.play s · []) heq).symm
  | ask r next record =>
    cases h with
    | acting h => exact .waiting h
  | answer r next record =>
    cases h with
    | waiting h =>
      have hcalls : callsIn record ++ callOf r = callsIn (record ++ [⟨r, s record r⟩]) := by
        rw [callsIn_append]
        simp [callsIn]
      rw [List.append_nil, hcalls]
      exact .acting h

/-- The calls so far are the first of those that the dispatch makes when it runs alone. -/
theorem Follows.calls_prefix (h : Follows settings s catalogue incoming d made) :
    made <+: callsIn (alone settings s catalogue incoming).2 := by
  cases h with
  | fanOut => exact List.nil_prefix
  | @acting rest record h =>
    obtain ⟨later, hplay, -⟩ := Program.play_record s rest record
    rw [← h, hplay, callsIn_append]
    exact List.prefix_append _ _
  | @waiting r next record h =>
    obtain ⟨later, hplay, -⟩ := Program.play_record s (next (s record r)) (record ++ [⟨r, s record r⟩])
    rw [← h, Program.play_ask, hplay, callsIn_append, callsIn_append]
    simp [callsIn]

/-- A dispatch that has ended has come to what it comes to when it runs alone. -/
theorem Follows.outcome (h : Follows settings s catalogue incoming d made) {outcome : Outcome}
    (houtcome : d.outcome? = some outcome) :
    outcome = (alone settings s catalogue incoming).1 ∧
      made = callsIn (alone settings s catalogue incoming).2 := by
  cases h with
  | fanOut => cases houtcome
  | waiting => cases houtcome
  | @acting rest record h =>
    cases rest with
    | ask r next => cases houtcome
    | done result =>
      cases houtcome
      rw [← h]
      exact ⟨rfl, rfl⟩

end Follows

/-! ## § To the end -/

/-- Steps one after the other. -/
def Running.steps? (settings : DispatchSettings) (s : Surroundings Moderation) (d : Running) :
    List Step → Option (Running × List PlatformRequest)
  | [] => some (d, [])
  | step :: later =>
    match d.step? settings s step with
    | none => none
    | some (d, made) => (d.steps? settings s later).map fun (d, more) => (d, made ++ more)

section Ends

variable {settings : DispatchSettings} {s : Surroundings Moderation} {d d' : Running}
  {made : List PlatformRequest}

/-- A dispatch that can come to an end. -/
def Running.Ends (settings : DispatchSettings) (s : Surroundings Moderation) (d : Running) : Prop :=
  ∃ steps d' made outcome, d.steps? settings s steps = some (d', made) ∧ d'.outcome? = some outcome

theorem Running.Ends.step (step : Step) (hstep : d.step? settings s step = some (d', made))
    (h : d'.Ends settings s) : d.Ends settings s := by
  obtain ⟨steps, last, more, outcome, hsteps, houtcome⟩ := h
  refine ⟨step :: steps, last, made ++ more, outcome, ?_, houtcome⟩
  simp [Running.steps?, hstep, hsteps]

theorem ends_acting (rest : Program Moderation Outcome) (record : Conversation Moderation) :
    (⟨.acting rest, record⟩ : Running).Ends settings s := by
  induction rest generalizing record with
  | done outcome => exact ⟨[], _, _, outcome, rfl, rfl⟩
  | ask r next ih => exact .step .ask rfl (.step .answer rfl (ih _ _))

theorem step?_complete {ctx : Context} {slots : List Slot} {place : Nat} {list : FilterList}
    (record : Conversation Moderation) (h : slots[place]? = some (Slot.waiting list)) :
    (⟨.fanOut ctx slots, record⟩ : Running).step? settings s (.complete place) =
      some (⟨.fanOut (list.evaluate ctx).2
        (slots.set place ⟨list, some (list.evaluate ctx).1⟩), record⟩, []) := by
  unfold Slot.waiting at h
  simp only [Running.step?, h]

theorem step?_gather {ctx : Context} {slots : List Slot} (record : Conversation Moderation)
    (h : ∀ slot ∈ slots, slot.outcome.isSome) :
    (⟨.fanOut ctx slots, record⟩ : Running).step? settings s .gather =
      some (⟨.acting ((conclude settings (slots.filterMap Slot.result?)).run.run ctx), record⟩, []) :=
  if_pos (List.all_eq_true.mpr h)

/-- The lists that are still at work finish one after the other. -/
theorem ends_fanOut (ctx : Context) (slots : List Slot) (record : Conversation Moderation) :
    (⟨.fanOut ctx slots, record⟩ : Running).Ends settings s := by
  generalize hcount : slots.countP (·.outcome.isNone) = n
  induction n generalizing ctx slots with
  | zero =>
    have hall : ∀ slot ∈ slots, slot.outcome.isSome := by
      intro slot hslot
      have hsome : ¬ slot.outcome.isNone = true := List.countP_eq_zero.mp hcount slot hslot
      simpa [Option.isSome_iff_ne_none] using hsome
    exact .step .gather (step?_gather record hall) (ends_acting _ record)
  | succ n ih =>
    obtain ⟨⟨list, outcome⟩, hmem, hnone⟩ : ∃ slot ∈ slots, slot.outcome.isNone = true :=
      List.countP_pos_iff.mp (by omega)
    obtain ⟨place, hlt, hslot⟩ := List.mem_iff_getElem.mp hmem
    obtain rfl : outcome = none := Option.isNone_iff_eq_none.mp hnone
    have hget : slots[place]? = some (Slot.waiting list) := by
      rw [List.getElem?_eq_getElem hlt, hslot]
      rfl
    refine .step _ (step?_complete record hget) (ih _ _ ?_)
    rw [List.countP_set hlt, hcount, hslot]
    simp

/-- A dispatch ends when its lists finish and its requests are answered. -/
theorem ends (settings : DispatchSettings) (s : Surroundings Moderation) (d : Running) :
    d.Ends settings s := by
  obtain ⟨stage, record⟩ := d
  cases stage with
  | fanOut ctx slots => exact ends_fanOut ctx slots record
  | acting rest => exact ends_acting rest record
  | waiting r next => exact .step .answer rfl (ends_acting _ _)

end Ends

end Dispatch

end ChatModeration
