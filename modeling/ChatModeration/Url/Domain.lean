/-
ChatModeration.Url.Domain — domain names in ASCII.

A name is mapped code point by code point, composed, and cut into labels.  A
label beyond ASCII must be valid and is encoded; a label with the mark of an
encoded one must be the encoding of a valid label; any other label stays as it
is.  A name in ASCII without encoded labels is only lower-cased.
-/
import ChatModeration.Text.Basic
import ChatModeration.Unicode.Normal
import ChatModeration.Url.DomainTable
import ChatModeration.Url.Punycode

namespace ChatModeration.Url.Domain

open Unicode

/-! ## § Mapping -/

/-- What every `stride`-th code point of a range is replaced by.  A single code point moves along
with the range. -/
structure Replacement where
  stride : Nat
  codes : List Nat

def replacementOfWord (word : List Char) : RangeEntry Replacement :=
  let (range, codes) := cutWord '=' word
  let alternating := range.contains '+'
  let (first, last) := rangeOfWord (if alternating then '+' else '-') range
  ⟨first, last, ⟨if alternating then 2 else 1, codesOf (codes.getD [])⟩⟩

def replacements : RangeMap Replacement :=
  RangeMap.ofList ((tableWords DomainTable.mappings).map replacementOfWord)

/-- The replacement of a code point. -/
def replacement? (c : Nat) : Option (List Nat) :=
  match replacements.find? c with
  | none => none
  | some ⟨first, _, r⟩ =>
    if (c - first) % r.stride = 0 then
      match r.codes with
      | [code] => some [code + (c - first)]
      | codes => some codes
    else none

/-- What becomes of a code point; nothing if no name may contain it.  ASCII never reaches the tables:
a capital letter becomes the small one, and everything else stays. -/
def mapCodePoint? (c : Nat) : Option (List Nat) :=
  if c < 0x80 then some [if 0x41 ≤ c ∧ c ≤ 0x5A then c + 0x20 else c]
  else if DomainTable.disallowed.contains c then none
  else if DomainTable.ignored.contains c then some []
  else some ((replacement? c).getD [c])

def mapAll? (cs : List Nat) : Option (List Nat) := (cs.mapM mapCodePoint?).map List.flatten

/-! ## § Direction -/

/-- How a code point is written: letters from left to right or from right to left, numbers of two
kinds, marks, and signs that follow their surroundings. -/
inductive Direction where
  | leftToRight
  | rightToLeft
  | arabicNumber
  | europeanNumber
  | mark
  | neutral
  deriving DecidableEq

def directionOfLetter? : List Char → Option Direction
  | ['L'] => some .leftToRight
  | ['R'] => some .rightToLeft
  | ['A'] => some .arabicNumber
  | ['E'] => some .europeanNumber
  | ['M'] => some .mark
  | ['N'] => some .neutral
  | _ => none

def directions : RangeMap (Option Direction) :=
  RangeMap.ofString directionOfLetter? DomainTable.directions

/-- The direction of a code point; separators and unassigned codes have none. -/
def direction? (c : Nat) : Option Direction := (directions.get? c).join

/-- Whether a label holds a letter from right to left or an Arabic number. -/
def holdsRightToLeft (label : List (Option Direction)) : Bool :=
  label.any fun d => d == some .rightToLeft || d == some .arabicNumber

/-- What may stand before the last letter of a label that starts from left to right. -/
def inLeftToRight (d : Option Direction) : Bool :=
  d == some .leftToRight || d == some .europeanNumber || d == some .neutral || d == some .mark

/-- What may stand in a label from right to left, up to its last letter. -/
def inRightToLeft (d : Option Direction) : Bool :=
  d == some .rightToLeft || d == some .arabicNumber || d == some .europeanNumber ||
    d == some .neutral || d == some .mark

/-- What a label from right to left may end in. -/
def endsRightToLeft (d : Option Direction) : Bool :=
  d == some .rightToLeft || d == some .arabicNumber || d == some .europeanNumber

/-- Whether the directions of a label go together.  The marks at its end do not count, and there
must be more than marks.  A label without letters from right to left and without Arabic numbers is
not looked at further.  In a label that starts from left to right only the last letter may be of
another direction; a label from right to left does not mix the two kinds of numbers. -/
def directionsValid (label : List (Option Direction)) : Bool :=
  match label.reverse.dropWhile (· == some .mark) with
  | [] => false
  | final :: before =>
    if !holdsRightToLeft label then true
    else if label.head? == some (some .leftToRight) then before.all inLeftToRight
    else
      before.all inRightToLeft && endsRightToLeft final &&
        !((final :: before).contains (some .arabicNumber) &&
          (final :: before).contains (some .europeanNumber))

/-! ## § Validity of labels -/

/-- Whether a joiner may stand between what comes before it, the nearest first, and what follows. -/
def joinerValid (joiner : Nat) (before after : List Nat) : Bool :=
  let joinsNext (c : Nat) : Bool :=
    DomainTable.leftJoining.contains c || DomainTable.dualJoining.contains c
  let joinsPrevious (c : Nat) : Bool :=
    DomainTable.rightJoining.contains c || DomainTable.dualJoining.contains c
  before.head?.any DomainTable.viramas.contains ||
    (joiner == 0x200C && before.any joinsNext && after.any joinsPrevious)

/-- Whether the first joiner of a label may stand where it stands; `none` if there is no joiner. -/
def firstJoinerValid? (before : List Nat) : List Nat → Option Bool
  | [] => none
  | c :: rest =>
    if c = 0x200C ∨ c = 0x200D then some (joinerValid c before rest)
    else firstJoinerValid? (c :: before) rest

/-- Whether a label of allowed code points is valid; one with a joiner is judged by its first joiner
and not by its direction. -/
def labelValid (label : List Nat) : Bool :=
  !label.head?.any DomainTable.marks.contains &&
    (firstJoinerValid? [] label).getD (directionsValid (label.map direction?))

/-! ## § Names -/

/-- `xn--`, the mark of an encoded label. -/
def encodedMark : List Nat := [0x78, 0x6E, 0x2D, 0x2D]

/-- Whether the code points after the mark of an encoded label denote a valid label, one that
mapping and composing leave as it is. -/
def encodedValid (code : List Nat) : Bool :=
  match Punycode.read? code with
  | none => false
  | some label =>
    !label.isEmpty && mapAll? label == some label && compose label == label && labelValid label

/-- The ASCII form of a mapped label. -/
def labelToAscii? (label : List Nat) : Option (List Nat) :=
  if encodedMark.isPrefixOf label then
    if label.all (· < 0x80) && encodedValid (label.drop 4) then some label else none
  else if label.all (· < 0x80) then some label
  else if labelValid label then (Punycode.write? label).map (encodedMark ++ ·)
  else none

/-- The parts between dots. -/
def labelsOf : List Nat → List (List Nat)
  | [] => [[]]
  | c :: rest =>
    if c = 0x2E then [] :: labelsOf rest
    else match labelsOf rest with
      | [] => [[c]]
      | label :: labels => (c :: label) :: labels

/-- The ASCII form of a name, given by its code points. -/
def toAscii? (cs : List Nat) : Option Text := do
  let mapped ← mapAll? cs
  let labels ← (labelsOf (compose mapped)).mapM labelToAscii?
  return Text.join [0x2E] (labels.map (·.map UInt16.ofNat))

end ChatModeration.Url.Domain
