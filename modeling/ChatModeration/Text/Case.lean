/-
ChatModeration.Text.Case — capital and small letters of a whole text.

Both maps are the full Unicode ones: a letter may become several (`ß` gives
`SS`, `İ` gives `i̇`), and a capital sigma at the end of a word becomes `ς`.
ASCII never reaches the tables: `upperOf_ascii` and `lowerOf_ascii`.
-/
import ChatModeration.Text.Basic
import ChatModeration.Text.CaseTable

namespace ChatModeration.Text

open CaseTable

/-! ## § Single code points -/

/-- The first run that holds the code point decides. -/
def shiftIn (runs : List CaseRun) (c : Nat) : Nat := (runs.findSome? (·.image? c)).getD c

/-- The capital form of a code point. -/
def upperOf (c : Nat) : List Nat :=
  if c < 0x80 then [if 0x61 ≤ c ∧ c ≤ 0x7A then c - 0x20 else c]
  else (upperSequences.lookup c).getD [shiftIn upperRuns c]

/-- The small form of a code point, away from the end of a word. -/
def lowerOf (c : Nat) : List Nat :=
  if c < 0x80 then [if 0x41 ≤ c ∧ c ≤ 0x5A then c + 0x20 else c]
  else (lowerSequences.lookup c).getD [shiftIn lowerRuns c]

theorem upperOf_ascii {c : Nat} (h : c < 0x80) :
    upperOf c = [if 0x61 ≤ c ∧ c ≤ 0x7A then c - 0x20 else c] := if_pos h

theorem lowerOf_ascii {c : Nat} (h : c < 0x80) :
    lowerOf c = [if 0x41 ≤ c ∧ c ≤ 0x5A then c + 0x20 else c] := if_pos h

def inRanges (ranges : List (Nat × Nat)) (c : Nat) : Bool := ranges.any fun r => r.1 ≤ c && c ≤ r.2

def isCased (c : Nat) : Bool := inRanges casedRanges c

def isCaseIgnorable (c : Nat) : Bool := inRanges caseIgnorableRanges c

/-! ## § Whole texts -/

/-- Whether the nearest code point that is not case-ignorable has a case. -/
def besideCased (cs : List Nat) : Bool :=
  match cs.dropWhile isCaseIgnorable with
  | [] => false
  | c :: _ => isCased c

/-- Small forms from left to right; `before` holds the code points passed, the nearest first.  A
capital sigma that follows a cased letter and precedes none becomes the final sigma. -/
def lowerCodePoints (before : List Nat) : List Nat → List Nat
  | [] => []
  | c :: rest =>
    (if c = 0x3A3 ∧ besideCased before = true ∧ besideCased rest = false then [0x3C2]
      else lowerOf c) ++ lowerCodePoints (c :: before) rest

/-- The text in capital letters. -/
def toUpper (t : Text) : Text := ofCodePoints (t.codePoints.flatMap upperOf)

/-- The text in small letters. -/
def toLower (t : Text) : Text := ofCodePoints (lowerCodePoints [] t.codePoints)

/-- The first code unit, if it is a letter by itself, becomes a capital. -/
def capitalizeFirst (t : Text) : Text := toUpper (t.take 1) ++ t.drop 1

end ChatModeration.Text
