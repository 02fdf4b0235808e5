/-
ChatModeration.Discord.Inbound — messages that Discord reports.

New messages are dispatched, and edited ones whose text has changed.  A message
that Discord reports only in part is fetched first.  What fails for one message
is logged and does not touch any other.
-/
import ChatModeration.Context
import ChatModeration.Log
import ChatModeration.Program

namespace ChatModeration.Discord

/-- The place where a message was written. -/
inductive Place where
  | direct
  | channel (name : Text)
deriving DecidableEq

structure Attachment where
  url : Text
  name : Option Text
deriving DecidableEq

/-- What a complete message holds. -/
structure MessageBody where
  channelId : Text
  guildId : Option Text
  place : Place
  author : Actor
  content : Text
  url : Text
  embeds : List EmbedDescriptor
  attachments : List Attachment
deriving DecidableEq

/-- A message as Discord reports it. -/
structure Message where
  id : Text
  /-- Whether Discord reports only a part of the message. -/
  isPartial : Bool
  content : Option Text
  /-- Everything else, or the reason why it cannot be read. -/
  body : Except Fault MessageBody

/-- The name under which the filtering knows a place. -/
def Place.name : Place → Text
  | direct => Text.ofString "DM"
  | channel name => name

/-- An attachment seen as an embed. -/
def Attachment.toEmbed (a : Attachment) : EmbedDescriptor := ⟨some a.url, a.name, none⟩

/-- The event that a message stands for. -/
def MessageBody.toIncoming (id : Text) (b : MessageBody) (event : FilterEvent) : Incoming where
  event := event
  author := b.author
  channel := ⟨b.channelId, b.place.name, b.guildId⟩
  content := b.content
  message := some ⟨id, b.url⟩
  embeds := b.embeds ++ b.attachments.map Attachment.toEmbed

inductive InboundRequest where
  /-- The complete message of which only a part is known. -/
  | fetch (message : Message)
  | dispatch (incoming : Incoming)
  | log (event : LogEvent)

abbrev InboundRequest.Answer : InboundRequest → Type
  | fetch _ => Except Fault Message
  | dispatch _ => Except Fault Unit
  | log _ => Unit

def Inbox : Interface := ⟨InboundRequest, InboundRequest.Answer⟩

namespace Inbound

def request (r : InboundRequest) : Program Inbox r.Answer := Program.request (I := Inbox) r

/-- Dispatches a message; a failure is logged. -/
def handle (message : Message) (event : FilterEvent) : Program Inbox Unit := do
  let outcome ← match message.body with
    | .ok body => request (.dispatch (body.toIncoming message.id event))
    | .error fault => pure (.error fault)
  match outcome with
  | .ok () => pure ()
  | .error fault => request (.log (.dispatchFailed fault message.id event))

/-- Reacts to a new message. -/
def onCreate (message : Message) : Program Inbox Unit := handle message .message

/-- Whether an edit is known to have left the text as it was. -/
def isUnchanged (before after : Message) : Bool :=
  !before.isPartial && !after.isPartial && before.content = after.content

/-- Reacts to an edited message. -/
def onUpdate (before after : Message) : Program Inbox Unit := do
  if isUnchanged before after then return
  let message ← if after.isPartial then request (.fetch after) else pure (.ok after)
  match message with
  | .ok message => handle message .messageEdit
  | .error fault => request (.log (.fetchFailed fault after.id))

end Inbound

end ChatModeration.Discord
