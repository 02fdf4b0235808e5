/-
ChatModeration.Alert — what the moderators are told.

An alert says who wrote where, which filters were triggered by what, what was
done about it, and what the message was.  Its body has at most 4000 units; a
longer one is cut and marked, and a surrogate pair is never cut in two.
-/
import ChatModeration.FilterList.Basic
import ChatModeration.Markdown
import ChatModeration.Platform
import ChatModeration.Value.Display

namespace ChatModeration

/-- The filters that one list reported. -/
structure TriggeredList where
  name : Text
  filters : List TriggeredFilter

namespace Alert

/-- Amber. -/
def colour : Number := 0xF9CB54

/-- The greatest number of units of a body. -/
def maxLength : Nat := 4000

/-- Stands where a body has been cut. -/
def cutMark : Text := Text.ofString " [...]"

/-! ## § Parts -/

/-- Words in capitals, separated by blanks: `message_edit` gives `Message Edit`. -/
def eventTitle (event : Text) : Text :=
  Text.join [0x20] ((Text.splitOn (· == 0x5F) event).map Text.capitalizeFirst)

/-- A word with a capital first unit and small letters after it. -/
def titleWord (word : Text) : Text := Text.toUpper (word.take 1) ++ Text.toLower (word.drop 1)

/-- The name of a list as a title: `domain_name` gives `Domain Name`. -/
def listTitle (name : Text) : Text :=
  Text.join [0x20] ((Text.splitOn (fun u => u == 0x5F || u == 0x20) name).map titleWord)

/-- A mention followed by the id in parentheses. -/
def withId (mention id : Text) : Text :=
  mention ++ Text.ofString " (" ++ Markdown.inlineCode id ++ Text.ofString ")"

def showUser (actor : Actor) : Text := withId (Markdown.userMention actor.id) actor.id

def showChannel (channel : Channel) : Text := withId (Markdown.channelMention channel.id) channel.id

def showFilter (f : TriggeredFilter) : Text :=
  0x23 :: f.id.toText ++ Text.ofString " (" ++ Markdown.inlineCode f.content ++ Text.ofString ")"

/-- The filters of one list under its title. -/
def showList (list : TriggeredList) : Text :=
  Markdown.bold (listTitle list.name ++ Text.ofString " Filters:") ++ 0x20 ::
    Text.join (Text.ofString ", ") (list.filters.map showFilter)

/-- All triggered filters, a line for each list; a filter that is the only one is shown with its
description. -/
def showLists : List TriggeredList → Text
  | [⟨name, [f]⟩] =>
    showList ⟨name, [f]⟩ ++
      match f.description with
      | some (u :: rest) => Text.ofString " - " ++ u :: rest
      | _ => []
  | lists => Text.join [0x0A] (lists.map showList)

/-- The text up to `maxLength` units, with a mark if it was cut; a surrogate pair at the cut is left
out as a whole. -/
def truncate (body : Text) : Text :=
  if body.length ≤ maxLength then body
  else
    let kept := body.take maxLength
    (if kept.getLast?.any CodeUnit.isHighSurrogate then kept.dropLast else kept) ++ cutMark

/-! ## § Alerts -/

def label (title : String) : Text := Markdown.bold (Text.ofString title)

/-- The lines of the body before it is cut. -/
def lines (ctx : Context) (triggered : List TriggeredList) : List Text :=
  let channel := match ctx.channel.guildId with
    | some _ => label "Triggered in:" ++ 0x20 :: showChannel ctx.channel
    | none => label "DM"
  let actions :=
    if ctx.actionDescriptions.isEmpty then Text.ofString "-"
    else Text.join (Text.ofString ", ") ctx.actionDescriptions
  let source := match ctx.message with
    | some m => Markdown.bold (Markdown.link (Text.ofString "Original Content") m.jumpUrl)
    | none => label "Original Content"
  [label "Triggered by:" ++ 0x20 :: showUser ctx.author,
    channel,
    showLists triggered,
    label "Matches:" ++ 0x20 ::
      Text.join (Text.ofString ", ") (ctx.matchRecords.map Value.Display.ofValue),
    label "Actions Taken:" ++ 0x20 :: actions,
    source ++ Text.ofString ": " ++ Markdown.escape ctx.content]

def body (ctx : Context) (triggered : List TriggeredList) : Text :=
  truncate (Text.join [0x0A] ((lines ctx triggered).filter (· ≠ [])))

/-- The alert about an event. -/
def compose (ctx : Context) (triggered : List TriggeredList) : Alert where
  username := eventTitle ctx.event.nameText ++ Text.ofString " Filter"
  content := ctx.alertContent
  embeds := ⟨body ctx triggered, some colour, some ctx.author.avatarUrl⟩ :: ctx.alertEmbeds

end Alert

end ChatModeration
