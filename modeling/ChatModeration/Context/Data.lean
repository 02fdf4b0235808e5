/-
ChatModeration.Context.Data — events and contexts as data.

A text that may be missing is `null` where its absence means something, and an
absent field where it was never given.
-/
import ChatModeration.Context

namespace ChatModeration

/-- A text, or an absent field where there is none. -/
def Value.ofGiven? (t : Option Text) : Value := (t.map Value.text).getD absent

def FilterEvent.toValue (e : FilterEvent) : Value := .text e.nameText

def Actor.toValue (a : Actor) : Value :=
  Value.record [("id", .text a.id), ("username", .text a.username),
    ("avatarUrl", Value.ofText? a.avatarUrl), ("bot", .bool a.bot)]

def Channel.toValue (c : Channel) : Value :=
  Value.record [("id", .text c.id), ("name", .text c.name), ("guildId", Value.ofText? c.guildId)]

def MessageRef.toValue (r : MessageRef) : Value :=
  Value.record [("id", .text r.id), ("jumpUrl", .text r.jumpUrl)]

def EmbedDescriptor.toValue (e : EmbedDescriptor) : Value :=
  Value.record [("url", Value.ofGiven? e.url), ("title", Value.ofGiven? e.title),
    ("description", Value.ofGiven? e.description)]

def RichContent.toValue (c : RichContent) : Value :=
  Value.record [("description", .text c.description),
    ("colour", Value.ofOption (c.colour.map Value.number)),
    ("thumbnailUrl", match c.thumbnailUrl with
      | none => .absent
      | some link => Value.ofText? link)]

/-- The fields of an event. -/
def Incoming.dataFields (i : Incoming) : List (String × Value) :=
  [("event", i.event.toValue), ("author", i.author.toValue), ("channel", i.channel.toValue),
    ("content", .text i.content), ("message", Value.ofOption (i.message.map MessageRef.toValue)),
    ("embeds", .list (i.embeds.map EmbedDescriptor.toValue))]

/-- The fields of what has been decided about an event. -/
def Context.decisionFields (c : Context) : List (String × Value) :=
  [("dmContent", .text c.dmContent), ("dmEmbed", c.dmEmbed.toValue),
    ("sendAlert", .bool c.sendAlert), ("alertContent", .text c.alertContent),
    ("alertEmbeds", .list (c.alertEmbeds.map RichContent.toValue)),
    ("actionDescriptions", .list (c.actionDescriptions.map Value.text)),
    ("matches", .list c.matchRecords)]

def Incoming.toValue (i : Incoming) : Value := Value.record i.dataFields

/-- The event and what has been decided about it. -/
def Context.toValue (c : Context) : Value :=
  Value.record (c.toIncoming.dataFields ++ c.decisionFields)

end ChatModeration
