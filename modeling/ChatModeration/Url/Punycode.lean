/-
ChatModeration.Url.Punycode — labels beyond ASCII written in ASCII.

The code points beyond ASCII are written after the others, in ascending order,
as differences in a variable-length base-36 notation whose thresholds adapt to
the differences seen so far.  Labels are lists of code points, and so are their
ASCII forms.  Differences have 31 bits; a label that needs greater ones cannot
be written, and an ASCII form that holds greater ones cannot be read.
-/

namespace ChatModeration.Url.Punycode

/-- The greatest difference. -/
def maxDifference : Nat := 0x7FFFFFFF

/-- Digits 0–25 are the small letters and 26–35 the decimal digits. -/
def digitCode (d : Nat) : Nat := if d < 26 then 0x61 + d else 0x30 + d - 26

def digitValue? (c : Nat) : Option Nat :=
  if 0x61 ≤ c && c ≤ 0x7A then some (c - 0x61)
  else if 0x30 ≤ c && c ≤ 0x39 then some (c - 0x30 + 26)
  else none

/-- The least digit that does not end a number, at a position that is a multiple of 36. -/
def threshold (position bias : Nat) : Nat :=
  if position ≤ bias then 1 else if bias + 26 ≤ position then 26 else position - bias

theorem threshold_pos (position bias : Nat) : 1 ≤ threshold position bias := by
  unfold threshold; split <;> (try split) <;> omega

theorem threshold_le (position bias : Nat) : threshold position bias ≤ 26 := by
  unfold threshold; split <;> (try split) <;> omega

/-- Divides a difference by 35 until it is small; each division adds 36. -/
def shrink (delta added : Nat) : Nat × Nat :=
  if 455 < delta then shrink (delta / 35) (added + 36) else (delta, added)
termination_by delta
decreasing_by exact Nat.div_lt_self (by omega) (by omega)

/-- The bias after a difference. -/
def adapt (delta count : Nat) (first : Bool) : Nat :=
  let delta := if first then delta / 700 else delta / 2
  let (delta, added) := shrink (delta + delta / count) 0
  added + 36 * delta / (delta + 38)

/-! ## § Writing -/

/-- The digits of a difference, the least significant first. -/
def writeNumber (bias position number : Nat) : List Nat :=
  let t := threshold position bias
  if number < t then [digitCode number]
  else
    digitCode (t + (number - t) % (36 - t)) ::
      writeNumber bias (position + 36) ((number - t) / (36 - t))
termination_by number
decreasing_by
  have _h₁ := threshold_pos position bias
  have _h₂ := threshold_le position bias
  exact Nat.lt_of_le_of_lt (Nat.div_le_self _ _) (by omega)

/-- How far the writing has come; `numbers` holds the digits of the numbers
written so far, the last number first. -/
structure Progress where
  numbers : List (List Nat)
  delta : Nat
  bias : Nat
  count : Nat

/-- One code point of the label while the code points equal to `m` are inserted. -/
def writeStep? (basic m : Nat) (p : Progress) (c : Nat) : Option Progress :=
  if c < m then
    if p.delta = maxDifference then none else some { p with delta := p.delta + 1 }
  else if c = m then
    some {
      numbers := writeNumber p.bias 36 p.delta :: p.numbers
      delta := 0
      bias := adapt p.delta (p.count + 1) (p.count = basic)
      count := p.count + 1 }
  else some p

/-- Inserts the given code points in ascending order; `next` is the least that is still possible. -/
def writeAll? (label : List Nat) (basic : Nat) : List Nat → Nat → Progress → Option Progress
  | [], _, p => some p
  | m :: more, next, p =>
    if (maxDifference - p.delta) / (p.count + 1) < m - next then none
    else do
      let p ← label.foldlM (writeStep? basic m)
        { p with delta := p.delta + (m - next) * (p.count + 1) }
      writeAll? label basic more (m + 1) { p with delta := p.delta + 1 }

/-- The ASCII form of a label, without a mark in front. -/
def write? (label : List Nat) : Option (List Nat) :=
  let basic := label.filter (· < 0x80)
  let others := (label.filter (0x80 ≤ ·)).mergeSort.eraseDups
  (writeAll? label basic.length others 0x80 ⟨[], 0, 72, basic.length⟩).map fun p =>
    basic ++ (if basic.isEmpty then [] else [0x2D]) ++ p.numbers.reverse.flatten

/-! ## § Reading -/

/-- Adds one number to a sum, and gives what follows it. -/
def readNumber? (bias : Nat) : List Nat → Nat → Nat → Nat → Option (Nat × List Nat)
  | [], _, _, _ => none
  | c :: rest, position, weight, sum =>
    match digitValue? c with
    | none => none
    | some d =>
      let t := threshold position bias
      if (maxDifference - sum) / weight < d then none
      else if d < t then some (sum + d * weight, rest)
      else if maxDifference / (36 - t) < weight then none
      else readNumber? bias rest (position + 36) (weight * (36 - t)) (sum + d * weight)

/-- Inserts the code points that the numbers denote; at most `fuel` numbers are read. -/
def readAll? (fuel : Nat) (label : List Nat) (code index bias : Nat) (digits : List Nat) :
    Option (List Nat) :=
  match fuel, digits with
  | _, [] => some label
  | 0, _ => none
  | fuel + 1, digits =>
    match readNumber? bias digits 36 1 index with
    | none => none
    | some (sum, rest) =>
      let count := label.length + 1
      let code := code + sum / count
      let place := sum % count
      if 0x10FFFF < code then none
      else
        readAll? fuel (label.take place ++ code :: label.drop place) code (place + 1)
          (adapt (sum - index) count (index = 0)) rest

/-- The code points of a label from its ASCII form: those before the last hyphen are written out,
and numbers follow it. -/
def read? (t : List Nat) : Option (List Nat) :=
  let digits := (t.reverse.takeWhile (· != 0x2D)).reverse
  readAll? t.length (t.take (t.length - digits.length - 1)) 0x80 0 72 digits

end ChatModeration.Url.Punycode
