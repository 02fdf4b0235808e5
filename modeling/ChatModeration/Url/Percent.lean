/-
ChatModeration.Url.Percent — bytes written as a percent sign and two digits.

`percentDecode` leaves a percent sign alone that no two hexadecimal digits
follow; `percentDecodeStrict?` takes it for an error.
-/
import ChatModeration.Text.Utf8

namespace ChatModeration.Url

/-- The value of a hexadecimal digit given as a byte. -/
def hexByte? (b : UInt8) : Option Nat := CodeUnit.hexValue? b.toUInt16

/-- Bytes with every percent sign before two hexadecimal digits decoded. -/
def percentDecode : List UInt8 → List UInt8
  | 0x25 :: a :: b :: rest =>
    match hexByte? a, hexByte? b with
    | some x, some y => UInt8.ofNat (x * 16 + y) :: percentDecode rest
    | _, _ => 0x25 :: percentDecode (a :: b :: rest)
  | b :: rest => b :: percentDecode rest
  | [] => []
termination_by bytes => bytes.length

/-- Bytes with every percent sign decoded, except for those that stand for a byte that `kept`
accepts; nothing if two hexadecimal digits do not follow each of them. -/
def percentDecodeStrict? (kept : UInt8 → Bool) : List UInt8 → Option (List UInt8)
  | 0x25 :: a :: b :: rest =>
    match hexByte? a, hexByte? b with
    | some x, some y =>
      let byte := UInt8.ofNat (x * 16 + y)
      (percentDecodeStrict? kept rest).map ((if kept byte then [0x25, a, b] else [byte]) ++ ·)
    | _, _ => none
  | b :: rest => if b = 0x25 then none else (percentDecodeStrict? kept rest).map (b :: ·)
  | [] => some []

/-- A byte as a percent sign and two digits, with capital letters. -/
def percentByte (b : UInt8) : Text :=
  let digits := (Nat.toDigits 16 b.toNat).map Char.toUpper
  Text.ofString (String.ofList ('%' :: (if b < 0x10 then ['0'] else []) ++ digits))

/-- The bytes of a text: visible ASCII that `hidden` does not accept as it is, all else with percent
signs. -/
def percentEncode (hidden : CodeUnit → Bool) (t : Text) : Text :=
  (Text.utf8OfCodePoints t.codePoints).flatMap fun b =>
    if 0x20 ≤ b && b ≤ 0x7E && !hidden b.toUInt16 then [b.toUInt16] else percentByte b

end ChatModeration.Url
