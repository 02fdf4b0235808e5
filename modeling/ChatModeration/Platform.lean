/-
ChatModeration.Platform — what the filtering asks of the chat platform.

The filtering decides what to request and in which order; how a request is
delivered is up to whoever answers it.  Every request may fail.
-/
import ChatModeration.Context
import ChatModeration.Instant
import ChatModeration.Infraction
import ChatModeration.Log
import ChatModeration.Program

namespace ChatModeration

/-- How a private message fared; `forbidden` means that the recipient takes none. -/
inductive Delivery where
  | sent
  | forbidden
deriving DecidableEq

structure InfractionRequest where
  actor : Actor
  infraction : Infraction
  /-- The end of the infraction; none for a permanent one. -/
  expiresAt : Option Instant
  reason : Text
  /-- Where the infraction is confirmed. -/
  replyChannel : Channel
deriving DecidableEq

structure RenameRequest where
  actor : Actor
  expiresAt : Option Instant
  reason : Text
  channel : Channel
deriving DecidableEq

/-- A message to the moderators. -/
structure Alert where
  username : Text
  content : Text
  embeds : List RichContent
deriving DecidableEq

/-- The channel to which alerts are delivered. -/
structure AlertChannel where
  id : Text
deriving DecidableEq

inductive PlatformRequest where
  /-- How the platform addresses a user inside a message. -/
  | mention (actor : Actor)
  | sendDirectMessage (actor : Actor) (content : Text) (embed : Option RichContent)
  | sendToChannel (channel : Channel) (content : Text) (embed : Option RichContent)
  | issueInfraction (request : InfractionRequest)
  | forceRename (request : RenameRequest)
  | sendAlert (channel : AlertChannel) (alert : Alert)
deriving DecidableEq

/-- The answer to a platform request. -/
abbrev PlatformRequest.Answer : PlatformRequest → Type
  | mention _ => Except Fault Text
  | sendDirectMessage .. => Except Fault Delivery
  | sendToChannel .. => Except Fault Unit
  | issueInfraction _ => Except Fault Unit
  | forceRename _ => Except Fault Unit
  | sendAlert .. => Except Fault Unit

/-- Everything the filtering asks: the platform, the log and the clock. -/
inductive ModerationRequest where
  | platform (request : PlatformRequest)
  | log (event : LogEvent)
  | clock

abbrev ModerationRequest.Answer : ModerationRequest → Type
  | platform r => r.Answer
  | log _ => Except Fault Unit
  | clock => Number

def Moderation : Interface := ⟨ModerationRequest, ModerationRequest.Answer⟩

/-- A computation that works on the context of one event and may fail.  What it has done to the
context before it fails stays done. -/
abbrev Action := ExceptT Fault (StateT Context (Program Moderation))

namespace Action

/-- Asks something that may fail. -/
def ask {α : Type} (r : ModerationRequest) (answer : r.Answer → Except Fault α) : Action α :=
  fun ctx => Program.ask (I := Moderation) r fun a => Program.done (answer a, ctx)

def platform {α : Type} (r : PlatformRequest) (answer : r.Answer → Except Fault α) : Action α :=
  ask (.platform r) answer

def log (e : LogEvent) : Action Unit := ask (.log e) id

def clock : Action Number := ask .clock Except.ok

end Action

end ChatModeration
