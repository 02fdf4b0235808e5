/-
ChatModeration.Unicode.Normal — canonical composition.

`compose` brings a sequence of code points into normalization form C: every
code point is decomposed, runs of combining marks are put in the order of
their classes, and what belongs together is composed again.
-/
import ChatModeration.Unicode.NormalTable
import ChatModeration.Unicode.RangeMap

namespace ChatModeration.Unicode

/-! ## § Tables -/

/-- One step of a decomposition, and whether it is undone by composition. -/
structure Decomposition where
  parts : List Nat
  composes : Bool

def decompositionOfText (text : List Char) : Decomposition :=
  ⟨codesOf text, !text.contains '~'⟩

def decompositions : RangeMap Decomposition :=
  RangeMap.ofString decompositionOfText NormalTable.decompositions

def decomposition? (c : Nat) : Option (List Nat) := (decompositions.get? c).map (·.parts)

/-- A number for two code points that is different for every two. -/
def pairCode (first second : Nat) : Nat := first * 0x110000 + second

/-- What pairs are composed to, by their numbers. -/
def compositions : RangeMap Nat :=
  let entries := decompositions.entries.toList.filterMap fun entry =>
    match entry.value.composes, entry.value.parts with
    | true, [first, second] =>
      let code := pairCode first second
      some (⟨code, code, entry.first⟩ : RangeEntry Nat)
    | _, _ => none
  RangeMap.ofList (entries.mergeSort fun e f => e.first ≤ f.first)

/-- The code point that two others are composed to by the table, where no second one is below
U+0300. -/
def composition? (first second : Nat) : Option Nat :=
  if second < 0x300 then none else compositions.get? (pairCode first second)

def combiningClasses : RangeMap Nat := RangeMap.ofString hexCode NormalTable.combiningClasses

def combiningClass (c : Nat) : Nat := if c < 0x300 then 0 else (combiningClasses.get? c).getD 0

/-! ## § Hangul -/

/-- The letters of a Hangul syllable. -/
def hangulParts? (c : Nat) : Option (List Nat) :=
  if 0xAC00 ≤ c ∧ c < 0xAC00 + 11172 then
    let index := c - 0xAC00
    let tail := index % 28
    some ([0x1100 + index / 588, 0x1161 + index % 588 / 28] ++
      (if tail = 0 then [] else [0x11A7 + tail]))
  else none

/-- The Hangul syllable of a leading letter and a vowel, or of a syllable and a trailing letter. -/
def hangulPair? (a b : Nat) : Option Nat :=
  if 0x1100 ≤ a ∧ a < 0x1113 ∧ 0x1161 ≤ b ∧ b < 0x1176 then
    some (0xAC00 + ((a - 0x1100) * 21 + (b - 0x1161)) * 28)
  else if 0xAC00 ≤ a ∧ a < 0xAC00 + 11172 ∧ (a - 0xAC00) % 28 = 0 ∧ 0x11A7 < b ∧ b < 0x11C3 then
    some (a + (b - 0x11A7))
  else none

/-! ## § Composition -/

/-- One step of a decomposition; `further` says what becomes of the parts. -/
def decomposeOnce (further : Nat → List Nat) (c : Nat) : List Nat :=
  match hangulParts? c with
  | some parts => parts
  | none =>
    match decomposition? c with
    | some parts => parts.flatMap further
    | none => [c]

/-- The full decomposition of a code point; no decomposition has more than `depth` steps. -/
def decomposeAll (depth : Nat) (c : Nat) : List Nat :=
  match depth with
  | 0 => [c]
  | depth + 1 => if c < 0xC0 then [c] else decomposeOnce (decomposeAll depth) c

/-- Puts a mark behind those of the same or a lower class; `marks` is the run so far in reverse. -/
def insertMark (mark : Nat × Nat) : List (Nat × Nat) → List (Nat × Nat)
  | [] => [mark]
  | other :: rest =>
    if mark.2 < other.2 then other :: insertMark mark rest else mark :: other :: rest

/-- Code points with their classes, every run of marks in the order of the classes.  `run` holds the
marks since the last starter in reverse. -/
def orderMarks (run : List (Nat × Nat)) : List Nat → List (Nat × Nat)
  | [] => run.reverse
  | c :: rest =>
    let k := combiningClass c
    if k = 0 then run.reverse ++ (c, 0) :: orderMarks [] rest
    else orderMarks (insertMark (c, k) run) rest

/-- The code point that two others are composed to. -/
def pair? (a b : Nat) : Option Nat := (hangulPair? a b).orElse fun _ => composition? a b

/-- Composes from left to right.  `starter` is the last code point of class zero, if there is one,
and `kept` holds the marks after it that could not be composed, the last first. -/
def composeFrom (starter : Option Nat) (kept : List (Nat × Nat)) : List (Nat × Nat) → List Nat
  | [] => starter.toList ++ kept.reverse.map (·.1)
  | (c, k) :: rest =>
    let blocked := match kept with
      | [] => false
      | (_, last) :: _ => k ≤ last
    match starter with
    | some s =>
      match if blocked then none else pair? s c with
      | some composed => composeFrom (some composed) kept rest
      | none =>
        if k = 0 then s :: kept.reverse.map (·.1) ++ composeFrom (some c) [] rest
        else composeFrom starter ((c, k) :: kept) rest
    | none =>
      if k = 0 then kept.reverse.map (·.1) ++ composeFrom (some c) [] rest
      else composeFrom none ((c, k) :: kept) rest

/-- Normalization form C. -/
def compose (cs : List Nat) : List Nat :=
  composeFrom none [] (orderMarks [] (cs.flatMap (decomposeAll 8)))

end ChatModeration.Unicode
