/-
ChatModeration.Url.Ipv4 — numeric host names.

A name whose last label is a number is an address of 32 bits.  It has up to
four parts, in base 10, 8 or 16; the last part fills the bytes that are left.
-/
import ChatModeration.Number.Reader

namespace ChatModeration.Url.Ipv4

/-- A part of an address.  `0x` alone is zero. -/
def readPart? (t : Text) : Option Nat :=
  let readIn (base : Nat) (digits : Text) : Option Nat :=
    (digits.mapM fun d => (CodeUnit.hexValue? d).filter (· < base)).map (Number.digitsValue base)
  match t with
  | [] => none
  | 0x30 :: x :: rest => if x = 0x78 ∨ x = 0x58 then readIn 16 rest else readIn 8 (x :: rest)
  | t => readIn 10 t

/-- The parts of a name; a single dot at its end is left out. -/
def partsOf (t : Text) : List Text :=
  let parts := Text.splitOn (· == 0x2E) t
  if 1 < parts.length ∧ parts.getLast? = some [] then parts.dropLast else parts

/-- Whether the last label is a number. -/
def endsInNumber (t : Text) : Bool :=
  match (partsOf t).getLast? with
  | none => false
  | some last => (!last.isEmpty && last.all CodeUnit.isDigit) || (readPart? last).isSome

/-- The address that the parts denote. -/
def address? (parts : List Nat) : Option Nat :=
  match parts.reverse with
  | [] => none
  | last :: others =>
    if 4 < parts.length ∨ others.any (255 < ·) ∨ Nat.pow 256 (5 - parts.length) ≤ last then none
    else
      let leading := others.reverse
      some (leading.zipIdx.foldl (fun sum (part, k) => sum + part * Nat.pow 256 (3 - k)) last)

def readAddress? (t : Text) : Option Nat :=
  let parts := partsOf t
  if 4 < parts.length then none else (parts.mapM readPart?).bind address?

/-- Four decimal numbers with dots between them. -/
def write (address : Nat) : Text :=
  Text.join [0x2E] ([3, 2, 1, 0].map fun k =>
    Text.ofString (Nat.repr (address / Nat.pow 256 k % 256)))

end ChatModeration.Url.Ipv4
