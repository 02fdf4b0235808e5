/-
ChatModeration.Unicode.RangeMap — values for ranges of code points.

A table is written as words with blanks between them, `code=value` or
`first-last=value` with hexadecimal codes in ascending order
(`RangeMap.ofString`), and is searched by halving (`RangeMap.get?`).
-/

namespace ChatModeration.Unicode

/-! ## § Words of a table -/

/-- The value of a hexadecimal digit in capital letters. -/
def hexDigit? (c : Char) : Option Nat :=
  if '0' ≤ c ∧ c ≤ '9' then some (c.toNat - 48)
  else if 'A' ≤ c ∧ c ≤ 'F' then some (c.toNat - 55)
  else none

/-- A hexadecimal code; other characters count for nothing. -/
def hexCode (s : List Char) : Nat :=
  s.foldl (fun acc c => match hexDigit? c with
    | some d => acc * 16 + d
    | none => acc) 0

/-- The words of a table between blanks. -/
def tableWords (s : String) : List (List Char) :=
  let (words, word) := s.toList.foldr (fun c (words, word) =>
    if c = ' ' ∨ c = '\n' then (if word.isEmpty then (words, []) else (word :: words, []))
    else (words, c :: word)) (([], []) : List (List Char) × List Char)
  if word.isEmpty then words else word :: words

/-- The part of a word before a separator, and the part after it if there is one. -/
def cutWord (sep : Char) (word : List Char) : List Char × Option (List Char) :=
  match word.dropWhile (· != sep) with
  | [] => (word, none)
  | _ :: rest => (word.takeWhile (· != sep), some rest)

/-- The ends of a range; a single code is a range of its own. -/
def rangeOfWord (sep : Char) (word : List Char) : Nat × Nat :=
  let (first, last) := cutWord sep word
  (hexCode first, hexCode (last.getD first))

/-- The codes between dots. -/
def codesOf (word : List Char) : List Nat :=
  let (codes, code) := word.foldr (fun c (codes, code) =>
    if c = '.' then (hexCode code :: codes, []) else (codes, c :: code))
    (([], []) : List Nat × List Char)
  if code.isEmpty then codes else hexCode code :: codes

/-! ## § Tables -/

/-- A range of codes from `first` to `last` with a value. -/
structure RangeEntry (α : Type) where
  first : Nat
  last : Nat
  value : α

/-- Sorted ranges without overlap, each with a value. -/
structure RangeMap (α : Type) where
  entries : Array (RangeEntry α)

namespace RangeMap

def ofList {α : Type} (entries : List (RangeEntry α)) : RangeMap α := ⟨entries.toArray⟩

/-- The table of the words `first-last=value`. -/
def ofString {α : Type} (value : List Char → α) (s : String) : RangeMap α :=
  ofList ((tableWords s).map fun word =>
    let (range, text) := cutWord '=' word
    let (first, last) := rangeOfWord '-' range
    ⟨first, last, value (text.getD [])⟩)

/-- The range that holds `c`, if it lies between two positions. -/
def searchFrom {α : Type} (entries : Array (RangeEntry α)) (c low high : Nat) :
    Option (RangeEntry α) :=
  if low < high then
    let middle := (low + high) / 2
    match entries[middle]? with
    | none => none
    | some entry =>
      if c < entry.first then searchFrom entries c low middle
      else if entry.last < c then searchFrom entries c (middle + 1) high
      else some entry
  else none
termination_by high - low

/-- The range that holds `c`. -/
def find? {α : Type} (m : RangeMap α) (c : Nat) : Option (RangeEntry α) :=
  searchFrom m.entries c 0 m.entries.size

/-- The value at `c`. -/
def get? {α : Type} (m : RangeMap α) (c : Nat) : Option α := (m.find? c).map (·.value)

end RangeMap

end ChatModeration.Unicode
