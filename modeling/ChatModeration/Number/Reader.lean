/-
ChatModeration.Number.Reader — numbers written as text.

`Number.ofDecimal` is the number nearest to a decimal; `Number.ofText` reads a
whole text as a number the way a settings field does: surrounding white space
is ignored, an empty text is zero, integers may be written in base 16, 8 or 2,
and a text of any other form is `nan`.
-/
import ChatModeration.Number.Basic
import ChatModeration.Text.Blank

namespace ChatModeration.Number

/-- The value of a run of digits in the given base. -/
def digitsValue (base : Nat) (digits : List Nat) : Nat :=
  digits.foldl (fun acc d => acc * base + d) 0

/-- The number nearest to `± mantissa · 10 ^ exponent`.  Magnitudes far outside the range are told
apart by their leading digit, so that no huge power is computed. -/
def ofDecimal (negative : Bool) (mantissa : Nat) (exponent : Int) : Number :=
  let magnitude : Int := (Nat.toDigits 10 mantissa).length + exponent
  let value : Number :=
    if mantissa = 0 then 0
    else if 400 < magnitude then infinity false
    else if magnitude < -400 then 0
    else ofRat (mantissa * (10 : Rat) ^ exponent)
  if negative then neg value else value

/-- The leading digits of a text, as values, and what follows them. -/
def spanDigits (t : Text) : List Nat × Text :=
  ((t.takeWhile CodeUnit.isDigit).map (·.toNat - 0x30), t.dropWhile CodeUnit.isDigit)

/-- An exponent part, `e` with an optional sign and at least one digit, up to the end of the text;
an absent one counts as zero. -/
def readExponent? : Text → Option Int
  | [] => some 0
  | e :: rest =>
    if e == 0x65 || e == 0x45 then
      let (negative, rest) := match rest with
        | 0x2D :: r => (true, r)
        | 0x2B :: r => (false, r)
        | r => (false, r)
      match spanDigits rest with
      | ([], _) => none
      | (digits, []) =>
        let value : Int := digitsValue 10 digits
        some (if negative then -value else value)
      | _ => none
    else none

/-- A decimal without sign: digits with at most one point and an optional exponent. -/
def readDecimal? (t : Text) : Option (Nat × Int) :=
  let (whole, rest) := spanDigits t
  let (fraction, rest) := match rest with
    | 0x2E :: r => spanDigits r
    | r => ([], r)
  if whole.isEmpty && fraction.isEmpty then none
  else (readExponent? rest).map fun exponent =>
    (digitsValue 10 (whole ++ fraction), exponent - fraction.length)

/-- An integer in a base that is announced by a letter after a zero. -/
def readInBase? (t : Text) : Option Nat :=
  match t with
  | 0x30 :: letter :: digits =>
    let base? : Option Nat :=
      if letter == 0x78 || letter == 0x58 then some 16
      else if letter == 0x6F || letter == 0x4F then some 8
      else if letter == 0x62 || letter == 0x42 then some 2
      else none
    match base? with
    | none => none
    | some base =>
      if digits.isEmpty then none
      else (digits.mapM fun d => (CodeUnit.hexValue? d).filter (· < base)).map (digitsValue base)
  | _ => none

/-- The number that a text denotes as a whole. -/
def ofText (t : Text) : Number :=
  let t := t.trim
  if t.isEmpty then 0
  else match readInBase? t with
    | some n => ofInt n
    | none =>
      let (negative, t) := match t with
        | 0x2D :: r => (true, r)
        | 0x2B :: r => (false, r)
        | r => (false, r)
      if t = Text.ofString "Infinity" then infinity negative
      else match readDecimal? t with
        | some (mantissa, exponent) => ofDecimal negative mantissa exponent
        | none => nan

end ChatModeration.Number
