/-
ChatModeration.Discord.Embed — blocks as Discord takes them.

Discord takes an embed only within bounds: a description of at most 4096 units,
a colour of 24 bits, and a thumbnail behind a link of one of three kinds.
`Embed.ofContent` gives the embed or the first bound that is broken.
-/
import ChatModeration.Context.Data
import ChatModeration.Fault
import ChatModeration.Url.Host

namespace ChatModeration.Discord

structure Embed where
  description : Option Text
  colour : Option Number
  thumbnail : Option Text
deriving DecidableEq

namespace Embed

/-- The greatest number of units of a description. -/
def maxDescription : Nat := 4096

/-- The kinds of links under which a thumbnail may be found. -/
def thumbnailSchemes : List Text :=
  [Text.ofString "http", Text.ofString "https", Text.ofString "attachment"]

/-- An empty description is none. -/
def checkDescription (description : Text) : Except Fault (Option Text) :=
  if description = [] then .ok none
  else if description.length ≤ maxDescription then .ok (some description)
  else .error .invalidEmbed

def checkColour : Option Number → Except Fault (Option Number)
  | none => .ok none
  | some colour =>
    if colour = Number.nan then .error .invalidEmbed
    else match colour.toInt? with
      | none => .error (.fractionalColour colour)
      | some k => if 0 ≤ k ∧ k ≤ 0xFFFFFF then .ok (some colour) else .error .colourOutOfRange

def checkThumbnail : Option Text → Except Fault (Option Text)
  | none => .ok none
  | some link =>
    match Url.schemeAndHost? link with
    | some (scheme, _) =>
      if scheme ∈ thumbnailSchemes then .ok (some link) else .error .invalidEmbed
    | none => .error .invalidEmbed

/-- The embed for a block; its parts are checked in order. -/
def ofContent (content : RichContent) : Except Fault Embed := do
  let description ← checkDescription content.description
  let colour ← checkColour content.colour
  let thumbnail ← checkThumbnail content.thumbnailUrl.join
  return ⟨description, colour, thumbnail⟩

/-- An embed as it is sent; what it lacks is left out. -/
def toValue (e : Embed) : Value :=
  Value.record [("description", Value.ofGiven? e.description),
    ("color", (e.colour.map Value.number).getD .absent),
    ("thumbnail", (e.thumbnail.map fun link => Value.record [("url", .text link)]).getD .absent)]

end Embed

end ChatModeration.Discord
