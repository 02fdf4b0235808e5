/-
ChatModeration.Text.Utf8 — text as bytes.

Decoding never fails: each longest part of a sequence that could still have
become a character, and every other byte that belongs to none, is read as
U+FFFD.  A byte order mark is kept.
-/
import ChatModeration.Text.Basic

namespace ChatModeration.Text

/-- A lone surrogate read as the replacement character. -/
def replaceSurrogate (c : Nat) : Nat := if 0xD800 ≤ c ∧ c ≤ 0xDFFF then 0xFFFD else c

/-- The bytes of one code point. -/
def utf8OfCodePoint (c : Nat) : List UInt8 :=
  if c < 0x80 then [UInt8.ofNat c]
  else if c < 0x800 then [UInt8.ofNat (0xC0 + c / 64), UInt8.ofNat (0x80 + c % 64)]
  else if c < 0x10000 then
    [UInt8.ofNat (0xE0 + c / 4096), UInt8.ofNat (0x80 + c / 64 % 64), UInt8.ofNat (0x80 + c % 64)]
  else
    [UInt8.ofNat (0xF0 + c / 262144), UInt8.ofNat (0x80 + c / 4096 % 64),
      UInt8.ofNat (0x80 + c / 64 % 64), UInt8.ofNat (0x80 + c % 64)]

def utf8OfCodePoints (cs : List Nat) : List UInt8 :=
  cs.flatMap fun c => utf8OfCodePoint (replaceSurrogate c)

/-- What a lead byte announces: its own bits, the number of bytes that follow, and the bounds of the
first of them. -/
def leadByte? (b : UInt8) : Option (Nat × Nat × UInt8 × UInt8) :=
  if 0xC2 ≤ b && b ≤ 0xDF then some (b.toNat - 0xC0, 1, 0x80, 0xBF)
  else if b == 0xE0 then some (0, 2, 0xA0, 0xBF)
  else if b == 0xED then some (0xD, 2, 0x80, 0x9F)
  else if 0xE1 ≤ b && b ≤ 0xEF then some (b.toNat - 0xE0, 2, 0x80, 0xBF)
  else if b == 0xF0 then some (0, 3, 0x90, 0xBF)
  else if 0xF1 ≤ b && b ≤ 0xF3 then some (b.toNat - 0xF0, 3, 0x80, 0xBF)
  else if b == 0xF4 then some (4, 3, 0x80, 0x8F)
  else none

/-- The bytes that are still missing from a character: its bits so far, their number, and the bounds
of the next one. -/
structure Pending where
  bits : Nat
  missing : Nat
  low : UInt8
  high : UInt8

/-- A byte at the start of a character. -/
def startByte (b : UInt8) : List Nat × Option Pending :=
  if b < 0x80 then ([b.toNat], none)
  else match leadByte? b with
    | some (bits, missing, low, high) => ([], some ⟨bits, missing, low, high⟩)
    | none => ([0xFFFD], none)

/-- One byte: the code points that it completes, and what is pending after it. -/
def feedByte (pending : Option Pending) (b : UInt8) : List Nat × Option Pending :=
  match pending with
  | none => startByte b
  | some p =>
    if p.low ≤ b && b ≤ p.high then
      let bits := p.bits * 64 + (b.toNat - 0x80)
      if p.missing ≤ 1 then ([bits], none) else ([], some ⟨bits, p.missing - 1, 0x80, 0xBF⟩)
    else
      let (codes, pending) := startByte b
      (0xFFFD :: codes, pending)

def codePointsFrom (pending : Option Pending) : List UInt8 → List Nat
  | [] => if pending.isSome then [0xFFFD] else []
  | b :: rest =>
    let (codes, pending) := feedByte pending b
    codes ++ codePointsFrom pending rest

/-- The code points of a sequence of bytes. -/
def codePointsOfUtf8 (bytes : List UInt8) : List Nat := codePointsFrom none bytes

/-- Whether bytes are the bytes of some code points: decoding then replaces nothing. -/
def isUtf8 (bytes : List UInt8) : Bool := utf8OfCodePoints (codePointsOfUtf8 bytes) == bytes

/-- The text of a sequence of bytes. -/
def ofUtf8 (bytes : List UInt8) : Text := ofCodePoints (codePointsOfUtf8 bytes)

end ChatModeration.Text
