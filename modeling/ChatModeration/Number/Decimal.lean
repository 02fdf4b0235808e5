/-
ChatModeration.Number.Decimal — the decimal text of a number.

A number is written with the fewest significant digits that read back as the
same number, and among those with the digits nearest to it
(`Number.shortest`).  The layout of those digits is `Number.toText`:
positional from 10⁻⁶ up to below 10²¹, and a mantissa with a signed exponent
outside that range.
-/
import ChatModeration.Number.Basic
import ChatModeration.Text.Basic

namespace ChatModeration.Number

/-! ## § Shortest digits -/

/-- The least and the greatest rational that round to the positive number `q`, and whether the two
ends round to it as well: they do when the last bit of `q` is zero. -/
structure RoundingInterval where
  low : Rat
  high : Rat
  closed : Bool

def roundingInterval (q : Rat) : RoundingInterval :=
  let unit := spacing q
  let below := if q = (2 : Rat) ^ binaryExponent q ∧ (2 : Rat) ^ (-1074 : Int) < unit
    then unit / 2 else unit
  { low := q - below / 2, high := q + unit / 2, closed := (q / unit).num % 2 = 0 }

def RoundingInterval.holds (i : RoundingInterval) (q : Rat) : Bool :=
  (i.low < q && q < i.high) || (i.closed && (q = i.low || q = i.high))

/-- The exponent `k` with `10 ^ (k - 1) ≤ q < 10 ^ k`, for positive `q`: the number of digits
before the decimal point. -/
def pointPosition (q : Rat) : Int :=
  let whole := q.floor.toNat
  if whole = 0 then
    1 - (Nat.toDigits 10 ((1 / q).ceil.toNat - 1)).length
  else (Nat.toDigits 10 whole).length

/-- The digits of `q` on the grid of `count` significant digits, if some point of that grid rounds
to `q`: the nearer of the two neighbours of `q`, and of two equally near ones the even one. -/
def onGrid? (q : Rat) (point : Int) (count : Nat) : Option Nat :=
  let unit := (10 : Rat) ^ (point - count)
  let interval := roundingInterval q
  let below := (q / unit).floor.toNat
  let above := below + 1
  let fits (d : Nat) : Bool := interval.holds (d * unit)
  match fits below, fits above with
  | false, false => none
  | true, false => some below
  | false, true => some above
  | true, true =>
    let left := q - below * unit
    let right := above * unit - q
    if left < right then some below
    else if right < left then some above
    else if below % 2 = 0 then some below else some above

/-- The least digit count from `count` on whose grid holds a point that rounds to `q`. -/
def shortestFrom (q : Rat) (point : Int) (count : Nat) : Nat → Nat × Nat
  | 0 => ((q / (10 : Rat) ^ (point - count)).floor.toNat, count)
  | more + 1 =>
    match onGrid? q point count with
    | some digits => (digits, count)
    | none => shortestFrom q point (count + 1) more

/-- The digits of a positive number, the first and the last other than zero, and the position of
the decimal point counted from before the first digit. -/
def shortest (q : Rat) : List Char × Int :=
  let point := pointPosition q
  let (digits, count) := shortestFrom q point 1 17
  let written := Nat.toDigits 10 digits
  let point := if written.length > count then point + 1 else point
  ((written.reverse.dropWhile (· == '0')).reverse, point)

/-! ## § Layout -/

/-- Positional notation is used for numbers from 10⁻⁶ up to below 10²¹. -/
def layout (digits : List Char) (point : Int) : String :=
  let count := digits.length
  if count ≤ point ∧ point ≤ 21 then
    String.ofList (digits ++ List.replicate (point.toNat - count) '0')
  else if 0 < point ∧ point ≤ 21 then
    String.ofList (digits.take point.toNat ++ '.' :: digits.drop point.toNat)
  else if -6 < point ∧ point ≤ 0 then
    String.ofList ('0' :: '.' :: List.replicate (-point).toNat '0' ++ digits)
  else
    let exponent := point - 1
    let sign := if exponent < 0 then "-" else "+"
    let mantissa := match digits with
      | [] => "0"
      | [d] => String.singleton d
      | d :: ds => String.ofList (d :: '.' :: ds)
    mantissa ++ "e" ++ sign ++ Nat.repr exponent.natAbs

/-- The text of a number; both zeros are written `0`. -/
def toString : Number → String
  | nan => "NaN"
  | infinity false => "Infinity"
  | infinity true => "-Infinity"
  | negativeZero => "0"
  | finite q =>
    if q = 0 then "0"
    else
      let (digits, point) := shortest (if q < 0 then -q else q)
      (if q < 0 then "-" else "") ++ layout digits point

def toText (x : Number) : Text := Text.ofString x.toString

end ChatModeration.Number
