/-
ChatModeration.Bullets — several messages in one.

Two different messages become bullet points with a blank line between them;
equal messages become one, and an empty message adds nothing.
-/
import ChatModeration.Text.Basic

namespace ChatModeration.Bullets

/-- The bullet character `•`. -/
def bullet : CodeUnit := 0x2022

/-- The message as a bullet point; one that starts with a bullet already is one. -/
def mark (message : Text) : Text :=
  if message.head? = some bullet then message else bullet :: 0x20 :: message

/-- Two messages in one. -/
def merge (first second : Text) : Text :=
  if first = [] ∨ first = second then second
  else if second = [] then first
  else mark first ++ 0x0A :: 0x0A :: mark second

@[simp] theorem merge_nil_left (m : Text) : merge [] m = m := by simp [merge]

@[simp] theorem merge_nil_right (m : Text) : merge m [] = m := by
  by_cases h : m = [] <;> simp [merge, h]

@[simp] theorem merge_self (m : Text) : merge m m = m := by simp [merge]

/-- All messages in one, from the first to the last. -/
def mergeAll (messages : List Text) : Text := messages.foldl merge []

/-- All messages in one, from the last to the first. -/
def mergeAllRight (messages : List Text) : Text := messages.foldr merge []

end ChatModeration.Bullets
