/-
ChatModeration.Log — what is written to the log.

Every occasion for a log entry is a `LogEvent`; its level, its wording and the
data that go with it are functions of the event.
-/
import ChatModeration.Context
import ChatModeration.Fault
import ChatModeration.Schema.Issue

namespace ChatModeration

inductive LogLevel where
  | debug
  | info
  | warn
  | error
deriving DecidableEq

def LogLevel.name : LogLevel → String
  | debug => "debug"
  | info => "info"
  | warn => "warn"
  | error => "error"

/-- The steps in which a sanction is carried out. -/
inductive SanctionStep where
  | notify
  | superstar
  | infraction
deriving DecidableEq

def SanctionStep.name : SanctionStep → String
  | notify => "notify"
  | superstar => "superstar"
  | infraction => "infraction"

/-- The name under which sanctions are configured and reported. -/
def sanctionKey : String := "infraction_and_notification"

/-- The channel on which changes of the filter lists are announced. -/
def changesChannel : Text := Text.ofString "filter_lists_changed"

/-- What is reported about an event that triggered filters. -/
structure TriggerReport where
  event : FilterEvent
  author : Text
  channel : Text
  lists : List Text
  filterIds : List Number
  actions : List Text
  alerted : Bool

inductive LogEvent where
  -- carrying out a sanction
  | messagesClosed (author channel : Text)
  | stepFailed (fault : Fault) (step : SanctionStep) (author : Text)
  | sanctionFailed (fault : Fault)
  -- dispatching an event
  | listFailed (fault : Fault) (list : Text) (event : FilterEvent)
  | noAlertChannel (event : FilterEvent) (author : Text)
  | alertFailed (fault : Fault) (alertChannel : Text)
  | filtersTriggered (report : TriggerReport)
  -- building the filter lists
  | invalidList (issues : List Issue)
  | unknownList (name : Text)
  -- the chat service
  | noWebhook
  | invalidWebhook (fault : Fault)
  | dispatchFailed (fault : Fault) (message : Text) (event : FilterEvent)
  | fetchFailed (fault : Fault) (message : Text)
  -- announcing and following changes of the filter lists
  | changePublished (reason : Text)
  | publishFailed (fault : Fault) (reason : Text)
  | subscriberConnected
  | subscribed
  | subscriberStopped
  | subscriberStopFailed (fault : Fault)
  | reloadSkipped
  | reloadStarted (reason : Option Text)
  | reloadFinished (lists : List Text)
  | reloadFailed (fault : Fault)

/-- A fault as part of log data. -/
def Fault.toValue (f : Fault) : Value :=
  Value.record [("error", Value.ofString f.kind), ("message", Value.text f.message)]

namespace LogEvent

def level : LogEvent → LogLevel
  | messagesClosed .. => .debug
  | stepFailed .. => .error
  | sanctionFailed .. => .error
  | listFailed .. => .error
  | noAlertChannel .. => .warn
  | alertFailed .. => .error
  | filtersTriggered .. => .info
  | invalidList .. => .warn
  | unknownList .. => .warn
  | noWebhook => .error
  | invalidWebhook .. => .error
  | dispatchFailed .. => .error
  | fetchFailed .. => .warn
  | changePublished .. => .debug
  | publishFailed .. => .error
  | subscriberConnected => .info
  | subscribed => .info
  | subscriberStopped => .info
  | subscriberStopFailed .. => .warn
  | reloadSkipped => .debug
  | reloadStarted .. => .info
  | reloadFinished .. => .info
  | reloadFailed .. => .error

def message : LogEvent → String
  | messagesClosed .. => "DMs closed, notifying in channel"
  | stepFailed .. => "Filter action step failed"
  | sanctionFailed .. => "Failed to apply filter action"
  | listFailed .. => "Filter list failed to evaluate"
  | noAlertChannel .. => "No alert channel available, skipping alert"
  | alertFailed .. => "Failed to send filter alert"
  | filtersTriggered .. => "Filters triggered"
  | invalidList .. => "Skipping invalid filter list data"
  | unknownList .. => "Filter list loaded from the database has no matching implementation"
  | noWebhook => "No alert webhook configured, filter alerts are disabled"
  | invalidWebhook .. => "Invalid alert webhook URL, filter alerts are disabled"
  | dispatchFailed .. => "Filtering dispatch failed"
  | fetchFailed .. => "Could not fetch edited message"
  | changePublished .. => "Published filter list change notification"
  | publishFailed .. => "Failed to publish filter list change notification"
  | subscriberConnected => "Filter list subscriber Redis connection established"
  | subscribed => "Subscribed to filter list change notifications"
  | subscriberStopped => "Filter list subscriber disconnected"
  | subscriberStopFailed .. => "Filter list subscriber did not disconnect cleanly"
  | reloadSkipped => "Reload already in progress, skipping"
  | reloadStarted .. => "Filter list change detected, reloading from database…"
  | reloadFinished .. => "Filter lists reloaded successfully"
  | reloadFailed .. => "Failed to reload filter lists from database"

/-- The structured data of an entry; `null` where there is nothing but the wording. -/
def data : LogEvent → Value
  | messagesClosed author channel =>
    Value.record [("author", Value.text author), ("channel", Value.text channel)]
  | stepFailed fault step author =>
    Value.record [("err", fault.toValue), ("step", Value.ofString step.name),
      ("author", Value.text author)]
  | sanctionFailed fault =>
    Value.record [("err", fault.toValue), ("kind", Value.ofString sanctionKey)]
  | listFailed fault list event =>
    Value.record [("err", fault.toValue), ("list", Value.text list),
      ("event", Value.text event.nameText)]
  | noAlertChannel event author =>
    Value.record [("event", Value.text event.nameText), ("author", Value.text author)]
  | alertFailed fault alertChannel =>
    Value.record [("err", fault.toValue), ("alertChannel", Value.text alertChannel)]
  | filtersTriggered r =>
    Value.record [("event", Value.text r.event.nameText), ("author", Value.text r.author),
      ("channel", Value.text r.channel), ("lists", Value.list (r.lists.map Value.text)),
      ("filterIds", Value.list (r.filterIds.map Value.number)),
      ("actions", Value.list (r.actions.map Value.text)), ("alerted", Value.bool r.alerted)]
  | invalidList issues => Value.record [("issues", Value.list (issues.map Issue.toValue))]
  | unknownList name => Value.record [("list", Value.text name)]
  | noWebhook => Value.null
  | invalidWebhook fault => Value.record [("err", fault.toValue)]
  | dispatchFailed fault message event =>
    Value.record [("err", fault.toValue), ("messageId", Value.text message),
      ("event", Value.text event.nameText)]
  | fetchFailed fault message =>
    Value.record [("err", fault.toValue), ("messageId", Value.text message)]
  | changePublished reason =>
    Value.record [("channel", Value.text changesChannel), ("reason", Value.text reason)]
  | publishFailed fault reason =>
    Value.record [("err", fault.toValue), ("reason", Value.text reason)]
  | subscriberConnected => Value.null
  | subscribed => Value.record [("channel", Value.text changesChannel)]
  | subscriberStopped => Value.null
  | subscriberStopFailed fault => Value.record [("err", fault.toValue)]
  | reloadSkipped => Value.null
  | reloadStarted reason =>
    Value.record [("reason", match reason with
      | some r => Value.text r
      | none => Value.absent)]
  | reloadFinished lists =>
    Value.record [("listCount", Value.ofNat lists.length),
      ("lists", Value.list (lists.map Value.text))]
  | reloadFailed fault => Value.record [("err", fault.toValue)]

def toValue (e : LogEvent) : Value :=
  Value.record [("level", Value.ofString e.level.name), ("data", e.data),
    ("message", Value.ofString e.message)]

end LogEvent

end ChatModeration
