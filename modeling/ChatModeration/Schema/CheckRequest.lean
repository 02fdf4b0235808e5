/-
ChatModeration.Schema.CheckRequest — requests to try out the filters.

A request gives a text and, where wanted, the event, the author, the channel
and links; what is left out takes a default.
-/
import ChatModeration.Context
import ChatModeration.Schema.Checked

namespace ChatModeration

structure CheckRequest where
  event : FilterEvent
  content : Text
  authorId : Text
  channelId : Text
  guildId : Option Text
  /-- The link of each embed. -/
  embeds : List (Option Text)

namespace Check

/-- The names of the events as they are listed in issues. -/
def eventNames : String :=
  String.intercalate " | " (FilterEvent.all.map fun e => "'" ++ e.name ++ "'")

def event : Check FilterEvent
  | .text name =>
    match FilterEvent.ofName? name with
    | some e => .valid e
    | none =>
      .invalid [⟨.invalidEnumValue, [],
        Text.ofString ("Invalid enum value. Expected " ++ eventNames ++ ", received '") ++ name ++
          Text.ofString "'"⟩]
  | v => wrongType eventNames v

def zeroId : Value := .text (Text.ofString "0")

def checkRequest : Check CheckRequest := object fun v =>
  CheckRequest.mk
    <$> field v "event" (withDefault (.text FilterEvent.message.nameText) event)
    <*> field v "content" text
    <*> field v "author_id" (withDefault zeroId nonEmptyText)
    <*> field v "channel_id" (withDefault zeroId nonEmptyText)
    <*> field v "guild_id" (nullish nonEmptyText)
    <*> field v "embeds" (withDefault (.list []) (list (object fun e =>
      field e "url" (optional text))))

end Check

namespace CheckRequest

/-- The event that a request describes. -/
def toIncoming (r : CheckRequest) : Incoming where
  event := r.event
  author := ⟨r.authorId, Text.ofString "dry-run", none, false⟩
  channel := ⟨r.channelId, Text.ofString "dry-run", r.guildId⟩
  content := r.content
  message := none
  embeds := r.embeds.map fun url => ⟨url, none, none⟩

end CheckRequest

end ChatModeration
