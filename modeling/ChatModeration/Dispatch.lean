/-
ChatModeration.Dispatch — what happens when a message arrives.

An event is shown to every list subscribed to its kind.  The reactions of all
triggered filters are combined and carried out, and the moderators are alerted
unless an action opted out.  A list that fails, an action that fails and an
alert that cannot be sent are logged and stop nothing else.

A dispatch works on one catalogue, the one that was current when it began.
-/
import ChatModeration.Alert
import ChatModeration.Registry
import ChatModeration.Sanction.Apply

namespace ChatModeration

/-- What an event triggered, and the combined reaction. -/
structure Evaluation where
  triggered : List TriggeredList
  actions : ActionSet

structure DispatchSettings where
  moderation : ModerationSettings
  /-- None when alerts are switched off or their channel could not be set up. -/
  alertChannel : Option AlertChannel

namespace Dispatch

open ChatModeration.Action

/-! ## § Evaluation -/

/-- What one list made of an event. -/
structure ListOutcome where
  list : Text
  outcome : Except Fault (List TriggeredFilter)

/-- Shows a context to lists one after the other. -/
def consult : List FilterList → Context → List ListOutcome × Context
  | [], ctx => ([], ctx)
  | list :: lists, ctx =>
    let (outcome, ctx) := list.evaluate ctx
    let (outcomes, ctx) := consult lists ctx
    (⟨list.name, outcome⟩ :: outcomes, ctx)

/-- The reports that name at least one filter. -/
def reports (outcomes : List ListOutcome) : List TriggeredList :=
  outcomes.filterMap fun o =>
    match o.outcome with
    | .ok (f :: fs) => some ⟨o.list, f :: fs⟩
    | _ => none

/-- Logs the failures of lists, in order. -/
def logFailures (event : FilterEvent) : List ListOutcome → Action Unit
  | [] => pure ()
  | o :: rest => do
    match o.outcome with
    | .error fault => log (.listFailed fault o.list event)
    | .ok _ => pure ()
    logFailures event rest

def filtersOf (triggered : List TriggeredList) : List TriggeredFilter :=
  triggered.flatMap (·.filters)

/-- Shows the event to the lists, records what they found, and combines the reactions; nothing is
carried out. -/
def evaluate (catalogue : Catalogue) : Action Evaluation := do
  let ctx ← get
  let (outcomes, ctx) := consult (catalogue.subscribers ctx.event) ctx
  set ctx
  logFailures ctx.event outcomes
  let triggered := reports outcomes
  let filters := filtersOf triggered
  modify fun ctx => { ctx with matchRecords := ctx.matchRecords ++ filters.flatMap (·.found) }
  return ⟨triggered, ActionSet.mergeAll (filters.map (·.actions))⟩

/-! ## § Dispatch -/

/-- Alerts the moderators; says whether the alert was delivered. -/
def alert (settings : DispatchSettings) (triggered : List TriggeredList) : Action Bool := do
  let ctx ← get
  match settings.alertChannel with
  | none =>
    log (.noAlertChannel ctx.event ctx.author.id)
    return false
  | some channel =>
    tryCatch
      (do platform (.sendAlert channel (Alert.compose ctx triggered)) id; return true)
      (fun fault => do log (.alertFailed fault channel.id); return false)

/-- The summary of an event that triggered filters. -/
def report (ctx : Context) (triggered : List TriggeredList) (alerted : Bool) : TriggerReport where
  event := ctx.event
  author := ctx.author.id
  channel := ctx.channel.id
  lists := triggered.map (·.name)
  filterIds := (filtersOf triggered).map (·.id)
  actions := ctx.actionDescriptions
  alerted := alerted

/-- Evaluates an event, carries the reaction out and alerts the moderators; says whether the alert
was delivered. -/
def dispatch (settings : DispatchSettings) (catalogue : Catalogue) :
    Action (Evaluation × Bool) := do
  let evaluation ← evaluate catalogue
  if evaluation.triggered.isEmpty then return (evaluation, false)
  evaluation.actions.apply settings.moderation
  let ctx ← get
  let alerted ← if ctx.sendAlert then alert settings evaluation.triggered else pure false
  let ctx ← get
  log (.filtersTriggered (report ctx evaluation.triggered alerted))
  return (evaluation, alerted)

/-- Runs an action on the fresh context of an event. -/
def start {α : Type} (incoming : Incoming) (action : Action α) :
    Program Moderation (Except Fault α × Context) :=
  action.run.run (Context.ofIncoming incoming)

/-- Dispatches a message that the chat reported; those of bots are ignored. -/
def onMessage (settings : DispatchSettings) (catalogue : Catalogue) (incoming : Incoming) :
    Program Moderation (Option (Except Fault (Evaluation × Bool) × Context)) :=
  if incoming.author.bot then return none
  else some <$> start incoming (dispatch settings catalogue)

end Dispatch

end ChatModeration
