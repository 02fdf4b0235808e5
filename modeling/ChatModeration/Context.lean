/-
ChatModeration.Context — one event on its way through the filters.

`Incoming` is what the chat reported: who wrote what, and where.  `Context`
adds what the filtering has decided so far; it is made once for each event and
handed through evaluation, application of the sanction and alerting.
-/
import ChatModeration.Value.Basic

namespace ChatModeration

/-- The kinds of events that a filter list can subscribe to. -/
inductive FilterEvent where
  | message
  | messageEdit
deriving DecidableEq, Inhabited

namespace FilterEvent

def all : List FilterEvent := [message, messageEdit]

def name : FilterEvent → String
  | message => "message"
  | messageEdit => "message_edit"

def nameText (e : FilterEvent) : Text := Text.ofString e.name

def ofName? (name : Text) : Option FilterEvent := all.find? fun e => e.nameText = name

end FilterEvent

/-- The user that triggered an event. -/
structure Actor where
  id : Text
  username : Text
  avatarUrl : Option Text
  bot : Bool
deriving DecidableEq

/-- A channel; one without a guild is private. -/
structure Channel where
  id : Text
  name : Text
  guildId : Option Text
deriving DecidableEq

/-- Where the message that triggered an event can be found. -/
structure MessageRef where
  id : Text
  jumpUrl : Text
deriving DecidableEq

/-- An embed or attachment of the message that triggered an event. -/
structure EmbedDescriptor where
  url : Option Text
  title : Option Text
  description : Option Text
deriving DecidableEq

/-- A block shown beside a private message or an alert.  The thumbnail may be left open (`none`), or
be settled to nothing (`some none`) or to a link. -/
structure RichContent where
  description : Text
  colour : Option Number
  thumbnailUrl : Option (Option Text)
deriving DecidableEq

namespace RichContent

def empty : RichContent := ⟨[], none, none⟩

end RichContent

/-- An event as the chat reported it. -/
structure Incoming where
  event : FilterEvent
  author : Actor
  channel : Channel
  content : Text
  message : Option MessageRef
  embeds : List EmbedDescriptor
deriving DecidableEq

/-- An event together with what the filtering has decided about it. -/
structure Context extends Incoming where
  /-- Text of the private message to the author. -/
  dmContent : Text
  /-- Block shown beside the private message. -/
  dmEmbed : RichContent
  /-- Whether the moderators are to be alerted. -/
  sendAlert : Bool
  alertContent : Text
  alertEmbeds : List RichContent
  /-- What was carried out, in order. -/
  actionDescriptions : List Text
  /-- The records that the triggered filters reported. -/
  matchRecords : List Value

namespace Context

/-- The context of an event about which nothing has been decided. -/
def ofIncoming (incoming : Incoming) : Context where
  toIncoming := incoming
  dmContent := []
  dmEmbed := RichContent.empty
  sendAlert := true
  alertContent := []
  alertEmbeds := []
  actionDescriptions := []
  matchRecords := []

/-- The context with one more thing carried out. -/
def describe (ctx : Context) (description : Text) : Context :=
  { ctx with actionDescriptions := ctx.actionDescriptions ++ [description] }

end Context

end ChatModeration
