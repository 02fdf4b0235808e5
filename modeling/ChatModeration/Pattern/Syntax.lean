/-
ChatModeration.Pattern.Syntax — the structure of a search pattern.

Patterns work on code units.  Groups are numbered from 1 by their opening
parentheses, and a repetition knows the range of groups inside it, because each
round starts with those groups unset.
-/
import ChatModeration.Text.Blank

namespace ChatModeration

namespace Pattern

/-- One part of a character class. -/
inductive ClassItem where
  | range (first last : CodeUnit)
  | digit (negated : Bool)
  | blank (negated : Bool)
  | word (negated : Bool)
deriving DecidableEq

inductive Node where
  | empty
  | unit (u : CodeUnit)
  /-- Any unit that does not end a line. -/
  | dot
  | oneOf (negated : Bool) (items : List ClassItem)
  | seq (first second : Node)
  | either (first second : Node)
  | group (index : Nat) (body : Node)
  /-- The text that a group has matched; nothing while the group is unset. -/
  | backref (index : Nat)
  | textStart
  | textEnd
  | wordEdge (negated : Bool)
  | look (behind negated : Bool) (body : Node)
  /-- At least `least` and at most `most` rounds; the groups after `before` up to `last` lie
  inside. -/
  | repeated (body : Node) (least : Nat) (most : Option Nat) (greedy : Bool) (before last : Nat)

end Pattern

/-- A pattern with the number of its groups. -/
structure Pattern where
  root : Pattern.Node
  groups : Nat
  ignoreCase : Bool

namespace Pattern

/-- Letters, digits and the underscore. -/
def isWordUnit (u : CodeUnit) : Bool :=
  CodeUnit.isDigit u || (0x41 ≤ u && u ≤ 0x5A) || (0x61 ≤ u && u ≤ 0x7A) || u == 0x5F

def ClassItem.holds (item : ClassItem) (u : CodeUnit) : Bool :=
  match item with
  | range first last => first ≤ u && u ≤ last
  | digit negated => CodeUnit.isDigit u != negated
  | blank negated => CodeUnit.isBlank u != negated
  | word negated => isWordUnit u != negated

end Pattern

end ChatModeration
