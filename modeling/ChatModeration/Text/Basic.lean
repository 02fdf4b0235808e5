/-
ChatModeration.Text.Basic — text as a sequence of UTF-16 code units.

Chat platforms count, cut and compare text in 16-bit units, and a cut may
leave half of a surrogate pair behind.  `Text` is therefore a list of units
rather than a `String`: every list is a text, also one with lone surrogates.

`Text.codePoints` reads a text as Unicode code points, a lone surrogate
standing for itself, and `Text.ofCodePoints` writes them back.  The main
statement is that nothing is lost: `ofCodePoints_codePoints`.
-/

namespace ChatModeration

/-- One 16-bit unit of UTF-16. -/
abbrev CodeUnit := UInt16

/-- A text is any sequence of code units. -/
abbrev Text := List CodeUnit

instance : LawfulBEq Text := inferInstance

namespace CodeUnit

/-- The first half of a surrogate pair. -/
def isHighSurrogate (u : CodeUnit) : Bool := 0xD800 ≤ u && u ≤ 0xDBFF

/-- The second half of a surrogate pair. -/
def isLowSurrogate (u : CodeUnit) : Bool := 0xDC00 ≤ u && u ≤ 0xDFFF

def isDigit (u : CodeUnit) : Bool := 0x30 ≤ u && u ≤ 0x39

/-- A letter `A`–`Z` becomes the small letter; every other unit stays. -/
def asciiLower (u : CodeUnit) : CodeUnit := if 0x41 ≤ u && u ≤ 0x5A then u + 0x20 else u

/-- The value of a hexadecimal digit. -/
def hexValue? (u : CodeUnit) : Option Nat :=
  if 0x30 ≤ u && u ≤ 0x39 then some (u.toNat - 0x30)
  else if 0x41 ≤ u && u ≤ 0x46 then some (u.toNat - 0x37)
  else if 0x61 ≤ u && u ≤ 0x66 then some (u.toNat - 0x57)
  else none

end CodeUnit

namespace Text

/-! ## § Code points -/

/-- The units of one code point: one below U+10000, a surrogate pair above. -/
def ofCodePoint (c : Nat) : Text :=
  if c < 0x10000 then [UInt16.ofNat c]
  else
    [UInt16.ofNat (0xD800 + (c - 0x10000) / 0x400), UInt16.ofNat (0xDC00 + (c - 0x10000) % 0x400)]

def ofCodePoints (cs : List Nat) : Text := cs.flatMap ofCodePoint

def ofChar (c : Char) : Text := ofCodePoint c.toNat

def ofString (s : String) : Text := s.toList.flatMap ofChar

instance : Coe String Text := ⟨ofString⟩

/-- The code point of a surrogate pair. -/
def pairValue (high low : CodeUnit) : Nat :=
  0x10000 + (high.toNat - 0xD800) * 0x400 + (low.toNat - 0xDC00)

/-- The code points of a text; a lone surrogate stands for itself. -/
def codePoints : Text → List Nat
  | [] => []
  | [u] => [u.toNat]
  | u :: v :: rest =>
    if CodeUnit.isHighSurrogate u && CodeUnit.isLowSurrogate v then
      pairValue u v :: codePoints rest
    else u.toNat :: codePoints (v :: rest)

theorem ofCodePoint_toNat (u : CodeUnit) : ofCodePoint u.toNat = [u] := by
  have h : u.toNat < 0x10000 := u.toNat_lt
  simp [ofCodePoint, h]

theorem ofCodePoint_pairValue {u v : CodeUnit} (hu : CodeUnit.isHighSurrogate u = true)
    (hv : CodeUnit.isLowSurrogate v = true) : ofCodePoint (pairValue u v) = [u, v] := by
  simp only [CodeUnit.isHighSurrogate, CodeUnit.isLowSurrogate, Bool.and_eq_true,
    decide_eq_true_eq, UInt16.le_iff_toNat_le] at hu hv
  simp at hu hv
  have h1 : ¬ pairValue u v < 0x10000 := by unfold pairValue; omega
  have h2 : (pairValue u v - 0x10000) / 0x400 = u.toNat - 0xD800 := by unfold pairValue; omega
  have h3 : (pairValue u v - 0x10000) % 0x400 = v.toNat - 0xDC00 := by unfold pairValue; omega
  simp only [ofCodePoint, h1, if_false, h2, h3]
  have h4 : 0xD800 + (u.toNat - 0xD800) = u.toNat := by omega
  have h5 : 0xDC00 + (v.toNat - 0xDC00) = v.toNat := by omega
  simp [h4, h5]

/-- Reading code points and writing them back gives the same text. -/
theorem ofCodePoints_codePoints (t : Text) : ofCodePoints (codePoints t) = t := by
  fun_induction codePoints t with
  | case1 => rfl
  | case2 u => simp [ofCodePoints, ofCodePoint_toNat]
  | case3 u v rest h ih =>
    simp only [Bool.and_eq_true] at h
    simp only [ofCodePoints, List.flatMap_cons] at ih ⊢
    rw [ofCodePoint_pairValue h.1 h.2, ih]; rfl
  | case4 u v rest _ ih =>
    simp only [ofCodePoints, List.flatMap_cons] at ih ⊢
    rw [ofCodePoint_toNat, ih]; rfl

/-- A code point lies below the end of Unicode. -/
theorem lt_of_mem_codePoints {t : Text} {c : Nat} (h : c ∈ t.codePoints) : c < 0x110000 := by
  have hunit (u : CodeUnit) : u.toNat < 0x110000 := Nat.lt_trans u.toNat_lt (by decide)
  fun_induction codePoints t with
  | case1 => cases h
  | case2 u => exact List.mem_singleton.mp h ▸ hunit u
  | case3 u v rest hpair ih =>
    have hvalue : pairValue u v < 0x110000 := by
      simp only [CodeUnit.isHighSurrogate, CodeUnit.isLowSurrogate, Bool.and_eq_true,
        decide_eq_true_eq, UInt16.le_iff_toNat_le, UInt16.reduceToNat] at hpair
      unfold pairValue
      omega
    exact (List.mem_cons.mp h).elim (fun hc => hc ▸ hvalue) ih
  | case4 u v rest _ ih => exact (List.mem_cons.mp h).elim (fun hc => hc ▸ hunit u) ih

/-- Whether the text is ASCII throughout. -/
def isAscii (t : Text) : Bool := t.all (· < 0x80)

/-! ## § Cutting and joining -/

/-- The parts between the units that `sep` accepts; always one more than there are such units. -/
def splitOn (sep : CodeUnit → Bool) : Text → List Text
  | [] => [[]]
  | u :: rest =>
    if sep u then [] :: splitOn sep rest
    else match splitOn sep rest with
      | [] => [[u]]
      | part :: parts => (u :: part) :: parts

/-- The parts with `sep` between neighbours. -/
def join (sep : Text) (parts : List Text) : Text := List.intercalate sep parts

/-- The text before and after the first unit that `sep` accepts. -/
def cutAt? (sep : CodeUnit → Bool) : Text → Option (Text × Text)
  | [] => none
  | u :: rest =>
    if sep u then some ([], rest)
    else (cutAt? sep rest).map fun (a, b) => (u :: a, b)

/-- Whether `part` occurs as a contiguous block. -/
def hasPart (part : Text) : Text → Bool
  | [] => part.isEmpty
  | u :: rest => part.isPrefixOf (u :: rest) || hasPart part rest

/-- Every occurrence of the non-empty text `old`, found from the left without overlap, becomes
`new`. -/
def replaceAll (old new : Text) : Text → Text
  | [] => []
  | u :: rest =>
    if old.isPrefixOf (u :: rest) then new ++ replaceAll old new (rest.drop (old.length - 1))
    else u :: replaceAll old new rest
termination_by t => t.length
decreasing_by all_goals simp only [List.length_drop, List.length_cons]; omega

/-- The units of a text whose code points are all characters; a lone surrogate is written as its
hexadecimal code between `<U+` and `>`. -/
def toString (t : Text) : String :=
  let hex (n : Nat) : String := String.ofList ((Nat.toDigits 16 n).map Char.toUpper)
  String.join (t.codePoints.map fun c =>
    if 0xD800 ≤ c && c ≤ 0xDFFF then "<U+" ++ hex c ++ ">" else String.singleton (Char.ofNat c))

end Text

end ChatModeration
