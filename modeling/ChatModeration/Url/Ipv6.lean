/-
ChatModeration.Url.Ipv6 — host names in brackets.

An address has eight pieces of 16 bits; one run of zero pieces may be left out,
and the last two pieces may be written as four bytes.  An address is written
with its first longest run of at least two zero pieces left out.
-/
import ChatModeration.Number.Reader

namespace ChatModeration.Url.Ipv6

/-- One byte in decimal without superfluous zeros, and what follows it. -/
def readByte? (t : Text) : Option (Nat × Text) :=
  match t.takeWhile CodeUnit.isDigit with
  | [] => none
  | digits =>
    let value := Number.digitsValue 10 (digits.map (·.toNat - 0x30))
    if 255 < value ∨ (1 < digits.length ∧ digits.head? = some 0x30) then none
    else some (value, t.dropWhile CodeUnit.isDigit)

/-- Two pieces written as four bytes up to the end of the text. -/
def readBytes? (t : Text) : Option (Nat × Nat) :=
  match (Text.splitOn (· == 0x2E) t).mapM readByte? with
  | some [(a, []), (b, []), (c, []), (d, [])] => some (a * 256 + b, c * 256 + d)
  | _ => none

/-- A piece of up to four hexadecimal digits, their number, and what follows them. -/
def readPiece (t : Text) : Nat × Nat × Text :=
  let digits := (t.take 4).takeWhile fun u => (CodeUnit.hexValue? u).isSome
  (Number.digitsValue 16 (digits.filterMap CodeUnit.hexValue?), digits.length, t.drop digits.length)

/-- Pieces up to the end of the text.  `pieces` holds those so far, and `gap` the place in them
where zeros have been left out. -/
def readPieces? (fuel : Nat) (pieces : List Nat) (gap : Option Nat) (t : Text) :
    Option (List Nat × Option Nat) :=
  match fuel with
  | 0 => none
  | fuel + 1 =>
    match t with
    | [] => some (pieces, gap)
    | u :: afterColon =>
      if pieces.length = 8 then none
      else if u = 0x3A then
        if gap.isSome then none
        else readPieces? fuel (pieces ++ [0]) (some (pieces.length + 1)) afterColon
      else
        let (value, count, rest) := readPiece t
        match rest with
        | [] => if count = 0 then none else some (pieces ++ [value], gap)
        | v :: more =>
          if v = 0x2E then
            if count = 0 ∨ 6 < pieces.length then none
            else (readBytes? t).map fun (a, b) => (pieces ++ [a, b], gap)
          else if v = 0x3A ∧ count ≠ 0 ∧ more ≠ [] then
            readPieces? fuel (pieces ++ [value]) gap more
          else none

/-- The eight pieces of an address, read between its brackets. -/
def read? (t : Text) : Option (List Nat) :=
  let start? : Option (List Nat × Option Nat × Text) :=
    match t with
    | 0x3A :: 0x3A :: rest => some ([0], some 1, rest)
    | 0x3A :: _ => none
    | t => some ([], none, t)
  start?.bind fun (pieces, gap, rest) =>
    (readPieces? (t.length + 1) pieces gap rest).bind fun (pieces, gap) =>
      match gap with
      | some k => some (pieces.take k ++ List.replicate (8 - pieces.length) 0 ++ pieces.drop k)
      | none => if pieces.length = 8 then some pieces else none

/-! ## § Writing -/

/-- The number of zeros at the start. -/
def zeroRun (pieces : List Nat) : Nat := (pieces.takeWhile (· == 0)).length

/-- The place and the length of the first longest run of zeros. -/
def longestRun (pieces : List Nat) : Nat × Nat :=
  (List.range pieces.length).foldl (fun (place, length) k =>
    let run := zeroRun (pieces.drop k)
    if length < run then (k, run) else (place, length)) (0, 0)

def writePieces (pieces : List Nat) : Text :=
  Text.join [0x3A] (pieces.map fun p => Text.ofString (String.ofList (Nat.toDigits 16 p)))

def write (pieces : List Nat) : Text :=
  let (place, length) := longestRun pieces
  if length ≤ 1 then writePieces pieces
  else writePieces (pieces.take place) ++ [0x3A, 0x3A] ++ writePieces (pieces.drop (place + length))

end ChatModeration.Url.Ipv6
