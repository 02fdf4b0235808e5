/-
ChatModeration.Api.Routes — what the admin interface offers.

`GET /health` tells that the bot is alive, `GET /api/v1/filter-lists` shows the
loaded lists, `POST /api/v1/filter-lists/reload` asks every bot to load them
anew, and `POST /api/v1/filter/check` tells what a message would trigger
without carrying anything out.
-/
import ChatModeration.Api.Exchange
import ChatModeration.Dispatch
import ChatModeration.FilterList.Data
import ChatModeration.Schema.CheckRequest

namespace ChatModeration

inductive AdminRequest where
  /-- Asks every bot to load the filter lists anew. -/
  | requestReload
  | moderation (r : ModerationRequest)

abbrev AdminRequest.Answer : AdminRequest → Type
  | requestReload => Except Fault Unit
  | moderation r => r.Answer

def Administration : Interface := ⟨AdminRequest, AdminRequest.Answer⟩

inductive Route where
  | health
  | lists
  | reload
  | check
deriving DecidableEq

namespace Route

def all : List Route := [health, lists, reload, check]

def method : Route → Text
  | health => Text.ofString "GET"
  | lists => Text.ofString "GET"
  | reload => Text.ofString "POST"
  | check => Text.ofString "POST"

def path : Route → Text
  | health => Text.ofString "/health"
  | lists => Text.ofString "/api/v1/filter-lists"
  | reload => Text.ofString "/api/v1/filter-lists/reload"
  | check => Text.ofString "/api/v1/filter/check"

/-- Whether a method asks for this route; what can be got can also be asked for without its body. -/
def takes (r : Route) (method : Text) : Bool :=
  method = r.method || (method = Text.ofString "HEAD" && r.method = Text.ofString "GET")

/-- The route for a method and a path. -/
def find? (method path : Text) : Option Route :=
  all.find? fun route => route.takes method && route.path = path

end Route

/-! ## § Trying out the filters -/

/-- What a message would trigger. -/
structure CheckReport where
  triggered : List TriggeredList
  matchRecords : List Value
  actions : ActionSet

/-- A filter as the report shows it: without its reaction. -/
def TriggeredFilter.toReport (f : TriggeredFilter) : Value :=
  Value.record (f.identityFields ++ [f.foundField])

namespace CheckReport

def toValue (r : CheckReport) : Value :=
  Value.record [
    ("triggered", Value.list (r.triggered.map fun list =>
      Value.record [("list", Value.text list.name),
        ("filters", Value.list (list.filters.map TriggeredFilter.toReport))])),
    ("matches", Value.list r.matchRecords),
    ("actions", r.actions.toValue)]

/-- Evaluates the event that a request describes. -/
def ofRequest (catalogue : Catalogue) (r : CheckRequest) :
    Program Moderation (Except Fault CheckReport) := do
  let (outcome, ctx) ← Dispatch.start r.toIncoming (Dispatch.evaluate catalogue)
  return outcome.map fun e => ⟨e.triggered, ctx.matchRecords, e.actions⟩

end CheckReport

/-! ## § Answers -/

namespace Api

/-- A list as it is shown. -/
def showList (list : FilterList) : Value :=
  Value.record [("name", Value.text list.name),
    ("events", Value.list (list.events.map FilterEvent.toValue)),
    ("filterCount", Value.ofNat list.filters.length)]

/-- Runs a program of the filtering on behalf of the admin interface. -/
def onBehalf {α : Type} (p : Program Moderation α) : Program Administration α :=
  p.translate (I := Moderation) fun r => Program.request (I := Administration) (.moderation r)

/-- The answer to a request to try out the filters. -/
def check (catalogue : Catalogue) (body : Value) : Program Administration HttpResponse :=
  match Check.checkRequest body with
  | .invalid issues => pure ⟨400, Value.record [("error", (FlatIssues.ofIssues issues).toValue)]⟩
  | .valid request => do
    match ← onBehalf (CheckReport.ofRequest catalogue request) with
    | .ok report => return ⟨200, report.toValue⟩
    | .error fault => return .internalError fault.message

/-- The answer of a route. -/
def serve (catalogue : Catalogue) (route : Route) (body : Value) :
    Program Administration HttpResponse :=
  match route with
  | .health => pure ⟨200, Value.record [("status", Value.ofString "ok"),
      ("filterLists", Value.ofNat catalogue.size)]⟩
  | .lists => pure ⟨200, Value.list (catalogue.all.map showList)⟩
  | .reload => do
    match ← Program.request (I := Administration) .requestReload with
    | .ok () => return ⟨202, Value.record [("status", Value.ofString "reload requested")]⟩
    | .error fault => return .internalError fault.message
  | .check => check catalogue body

/-- The answer to a request whose path can be read.  The body is read first. -/
def answerAt (catalogue : Catalogue) (r : HttpRequest) (path : Text) :
    Program Administration HttpResponse :=
  let route? := Route.find? r.method path
  match r.readBody route?.isSome, route? with
  | .error refusal, _ => pure refusal
  | .ok _, none => pure (.notFound r)
  | .ok body, some route => do
    let response ← serve catalogue route body
    return if r.method = Text.ofString "HEAD" then { response with body := .absent } else response

/-- The answer to a request.  A path that cannot be read is an error only where the method leads
anywhere. -/
def answer (catalogue : Catalogue) (r : HttpRequest) : Program Administration HttpResponse :=
  match r.decodedPath? with
  | some path => answerAt catalogue r path
  | none => pure (if Route.all.any (·.takes r.method) then .badTarget r else .notFound r)

end Api

end ChatModeration
