/-
ChatModeration.Proofs.InfractionNames — which texts name an infraction.

A written name is compared in capital letters, and capital letters are the full
Unicode ones.  Four letters beyond ASCII have capitals that stand in the names
of infractions: `ſ`, `ı`, and the ligatures `ﬅ` and `ﬆ`.  A text with one of
them names what it names with `s`, `i` and `st` in their place, and there are no
further letters of this kind (`plain_of_toUpper`).

The main statement is `read_spelledOut_iff`.
-/
import ChatModeration.Infraction
import ChatModeration.Proofs.AsciiNames
import Mathlib.Data.List.Forall2

namespace ChatModeration

/-! ## § Letters that stand for others -/

namespace CodeUnit

/-- A letter `a`–`z` becomes the capital; every other unit stays. -/
def asciiUpper (u : CodeUnit) : CodeUnit := if 0x61 ≤ u && u ≤ 0x7A then u - 0x20 else u

/-- The letters beyond ASCII whose capitals stand in names of infractions: `ı`, `ſ`, `ﬅ`, `ﬆ`. -/
def standIns : List CodeUnit := [0x131, 0x17F, 0xFB05, 0xFB06]

/-- The small ASCII letters with the same capitals; every other unit stays. -/
def spelledOut (u : CodeUnit) : Text :=
  if u = 0x131 then [0x69]
  else if u = 0x17F then [0x73]
  else if u = 0xFB05 ∨ u = 0xFB06 then [0x73, 0x74]
  else [u]

/-- Beyond ASCII no letter changes its case. -/
theorem asciiUpper_of_not_lt {u : CodeUnit} (h : ¬ u < 0x80) : asciiUpper u = u := by
  refine if_neg fun hsmall => h ?_
  simp only [Bool.and_eq_true, decide_eq_true_eq] at hsmall
  exact UInt16.lt_of_le_of_lt hsmall.2 (by decide)

theorem asciiLower_of_not_lt {u : CodeUnit} (h : ¬ u < 0x80) : asciiLower u = u := by
  refine if_neg fun hcap => h ?_
  simp only [Bool.and_eq_true, decide_eq_true_eq] at hcap
  exact UInt16.lt_of_le_of_lt hcap.2 (by decide)

/-- A unit in ASCII, or one of the letters that stand for others. -/
def Plain (u : CodeUnit) : Prop := u < 0x80 ∨ u ∈ standIns

/-- What holds of all units of a list is checked one by one. -/
theorem of_mem {P : CodeUnit → Prop} [DecidablePred P] {units : List CodeUnit}
    (h : (units.all fun u => P u) = true) : ∀ u ∈ units, P u := by
  simpa using h

theorem spelledOut_of_not_mem {u : CodeUnit} (h : u ∉ standIns) : spelledOut u = [u] := by
  simp only [standIns, List.mem_cons, List.not_mem_nil, or_false, not_or] at h
  simp [spelledOut, h]

theorem spelledOut_ne_nil (u : CodeUnit) : spelledOut u ≠ [] := by
  rw [spelledOut]
  split
  · simp
  split
  · simp
  split <;> simp

theorem not_mem_standIns {u : CodeUnit} (h : u < 0x80) : u ∉ standIns :=
  of_ascii (P := fun u => u ∉ standIns) (by decide) h

theorem Plain.not_high {u : CodeUnit} (h : Plain u) : isHighSurrogate u = false := by
  rcases h with h | h
  · exact of_ascii (P := fun u => isHighSurrogate u = false) (by decide) h
  · exact of_mem (P := fun u => isHighSurrogate u = false) (by decide) u h

/-- The capital form of a plain unit is the ASCII one of what it stands for. -/
theorem Plain.upperOf {u : CodeUnit} (h : Plain u) :
    Text.upperOf u.toNat = ((spelledOut u).map asciiUpper).map (·.toNat) := by
  rcases h with h | h
  · exact of_ascii (P := fun u => Text.upperOf u.toNat =
      ((spelledOut u).map asciiUpper).map (·.toNat)) (by decide +kernel) h
  · exact of_mem (P := fun u => Text.upperOf u.toNat =
      ((spelledOut u).map asciiUpper).map (·.toNat)) (by decide +kernel) u h

end CodeUnit

namespace Text

open CaseTable

variable {t : Text}

def spelledOut (t : Text) : Text := t.flatMap CodeUnit.spelledOut

theorem spelledOut_of_forall (h : ∀ u ∈ t, u ∉ CodeUnit.standIns) : spelledOut t = t := by
  induction t with
  | nil => rfl
  | cons u rest ih =>
    obtain ⟨hu, hrest⟩ := List.forall_mem_cons.mp h
    rw [spelledOut, List.flatMap_cons, CodeUnit.spelledOut_of_not_mem hu]
    exact congrArg (u :: ·) (ih hrest)

theorem spelledOut_eq_nil : spelledOut t = [] ↔ t = [] := by
  constructor
  · intro h
    cases t with
    | nil => rfl
    | cons u rest =>
      have hu : CodeUnit.spelledOut u = [] := (List.append_eq_nil_iff.mp h).1
      exact absurd hu (CodeUnit.spelledOut_ne_nil u)
  · rintro rfl
    rfl

/-- Units that are no high surrogates are code points. -/
theorem codePoints_of_not_high (h : ∀ u ∈ t, CodeUnit.isHighSurrogate u = false) :
    codePoints t = t.map (·.toNat) := by
  induction t with
  | nil => rfl
  | cons u rest ih =>
    obtain ⟨hu, hrest⟩ := List.forall_mem_cons.mp h
    rw [List.map_cons, ← ih hrest]
    cases rest with
    | nil => rfl
    | cons v more => simp [codePoints, hu]

/-- The capital letters of a plain text are the ASCII ones of what it stands for. -/
theorem toUpper_of_plain (h : ∀ u ∈ t, CodeUnit.Plain u) :
    toUpper t = (spelledOut t).map CodeUnit.asciiUpper := by
  have hpoints : codePoints t = t.map (·.toNat) :=
    codePoints_of_not_high fun u hu => (h u hu).not_high
  have hupper : (t.map (·.toNat)).flatMap upperOf =
      ((spelledOut t).map CodeUnit.asciiUpper).map (·.toNat) := by
    rw [List.flatMap_map, spelledOut, List.map_flatMap, List.map_flatMap]
    exact List.flatMap_congr fun u hu => (h u hu).upperOf
  rw [toUpper, hpoints, hupper, ofCodePoints_map_toNat]

/-! ## § Capital letters in ASCII -/

/-- All code points beyond ASCII with a capital form in ASCII: besides the letters that stand for
others these are `ß` and the ligatures of `f`. -/
def asciiCapitals : List Nat :=
  [0xDF, 0x131, 0x17F, 0xFB00, 0xFB01, 0xFB02, 0xFB03, 0xFB04, 0xFB05, 0xFB06]

theorem upperSequences_ascii :
    ∀ entry ∈ upperSequences, (∀ d ∈ entry.2, d < 0x80) → entry.1 ∈ asciiCapitals := by
  decide +kernel

/-- Only two letters are moved into ASCII. -/
theorem upperRuns_ascii :
    ∀ run ∈ upperRuns, 0x80 ≤ run.first + run.shift ∨
      run.first = run.last ∧ run.first ∈ asciiCapitals := by
  decide +kernel

/-- Beyond ASCII a capital form stands in the table of sequences, or comes from a run, or is the code
point itself. -/
theorem upperOf_cases {c : Nat} (hc : 0x80 ≤ c) :
    (c, upperOf c) ∈ upperSequences ∨
      (∃ run ∈ upperRuns, run.first ≤ c ∧ c ≤ run.last ∧ upperOf c = [Int.toNat (c + run.shift)]) ∨
      upperOf c = [c] := by
  have hupper : upperOf c = (upperSequences.lookup c).getD [shiftIn upperRuns c] :=
    if_neg (by omega)
  cases hlookup : upperSequences.lookup c with
  | some capitals =>
    obtain ⟨before, after, heq, -⟩ := List.lookup_eq_some_iff.mp hlookup
    rw [hlookup, Option.getD_some] at hupper
    exact .inl (by simp [heq, hupper])
  | none =>
    rw [hlookup, Option.getD_none, shiftIn] at hupper
    refine .inr ?_
    cases hfound : upperRuns.findSome? (·.image? c) with
    | none => exact .inr (by rw [hupper, hfound, Option.getD_none])
    | some d =>
      obtain ⟨run, hrun, himage⟩ := List.exists_of_findSome?_eq_some hfound
      simp only [CaseRun.image?, Bool.and_eq_true, decide_eq_true_eq, Option.ite_none_right_eq_some,
        Option.some.injEq] at himage
      obtain ⟨⟨⟨hfirst, hlast⟩, -⟩, rfl⟩ := himage
      exact .inl ⟨run, hrun, hfirst, hlast, by rw [hupper, hfound, Option.getD_some]⟩

theorem mem_asciiCapitals {c : Nat} (hc : 0x80 ≤ c) (h : ∀ d ∈ upperOf c, d < 0x80) :
    c ∈ asciiCapitals := by
  rcases upperOf_cases hc with hmem | ⟨run, hrun, hfirst, hlast, heq⟩ | heq
  · exact upperSequences_ascii _ hmem h
  · have hshift : Int.toNat (c + run.shift) < 0x80 := h _ (by simp [heq])
    rcases upperRuns_ascii run hrun with hbeyond | ⟨hsingle, hmem⟩
    · omega
    · obtain rfl : c = run.first := by omega
      exact hmem
  · have hself : c < 0x80 := h c (by simp [heq])
    omega

/-- Capital forms lie below the end of Unicode as well. -/
theorem lt_of_mem_upperOf {c d : Nat} (hc : c < 0x110000) (hd : d ∈ upperOf c) : d < 0x110000 := by
  have hsequences : ∀ entry ∈ upperSequences, ∀ d ∈ entry.2, d < 0x110000 := by decide +kernel
  have hruns : ∀ run ∈ upperRuns, run.last + run.shift < 0x110000 := by decide +kernel
  by_cases hascii : c < 0x80
  · rw [upperOf_ascii hascii, List.mem_singleton] at hd
    split at hd <;> omega
  rcases upperOf_cases (Nat.le_of_not_lt hascii) with hmem | ⟨run, hrun, hfirst, hlast, heq⟩ | heq
  · exact hsequences _ hmem d hd
  · have hbound := hruns run hrun
    rw [heq, List.mem_singleton] at hd
    omega
  · rw [heq, List.mem_singleton] at hd
    omega

/-- A code point whose units are in ASCII is in ASCII. -/
theorem lt_of_ofCodePoint {d : Nat} (hd : d < 0x110000) (h : ∀ u ∈ ofCodePoint d, u < 0x80) :
    d < 0x80 := by
  rw [ofCodePoint] at h
  split at h
  · have hunit := UInt16.lt_iff_toNat_lt.mp (h _ List.mem_cons_self)
    simp at hunit
    omega
  · have hunit := UInt16.lt_iff_toNat_lt.mp (h _ List.mem_cons_self)
    simp at hunit
    omega

theorem map_toNat_ofCodePoints {ds : List Nat} (h : ∀ d ∈ ds, d < 0x80) :
    (ofCodePoints ds).map (·.toNat) = ds := by
  induction ds with
  | nil => rfl
  | cons d rest ih =>
    obtain ⟨hd, hrest⟩ := List.forall_mem_cons.mp h
    have hunit : ofCodePoint d = [UInt16.ofNat d] := if_pos (by omega)
    show ((ofCodePoint d ++ ofCodePoints rest).map (·.toNat)) = d :: rest
    rw [hunit, List.map_append, ih hrest]
    simp
    omega

/-- The capital forms of a text whose capital letters are in ASCII. -/
theorem flatMap_upperOf (h : isAscii (toUpper t) = true) :
    t.codePoints.flatMap upperOf = (toUpper t).map (·.toNat) := by
  refine (map_toNat_ofCodePoints fun d hd => lt_of_ofCodePoint ?_ fun u hu => ?_).symm
  · obtain ⟨c, hc, hdc⟩ := List.mem_flatMap.mp hd
    exact lt_of_mem_upperOf (lt_of_mem_codePoints hc) hdc
  · exact isAscii_iff.mp h u (List.mem_flatMap.mpr ⟨d, hd, hu⟩)

end Text

namespace Infraction

open Text CodeUnit

variable {t : Text} {i : Infraction}

/-! ## § Names in capital letters -/

/-- The units of names: capital letters and the underscore. -/
def nameUnits : List CodeUnit := 0x5F :: (List.range 26).map fun n => UInt16.ofNat (0x41 + n)

theorem mem_nameUnits : ∀ u ∈ i.nameText, u ∈ nameUnits :=
  of_mem (by cases i <;> decide)

theorem lt_of_mem_nameUnits {u : CodeUnit} (h : u ∈ nameUnits) : u < 0x80 :=
  of_mem (P := fun u => u < 0x80) (by decide) u h

theorem isAscii_nameText : isAscii i.nameText = true :=
  isAscii_iff.mpr fun u hu => lt_of_mem_nameUnits (mem_nameUnits u hu)

/-- No name has an `F` or a double `S`, so only four letters beyond ASCII can take part in one. -/
theorem mem_standIns_of_within :
    ∀ c ∈ asciiCapitals, upperOf c <:+: i.nameText.map (·.toNat) → UInt16.ofNat c ∈ standIns := by
  cases i <;> decide +kernel

/-- A text with the capital letters of a name is plain. -/
theorem plain_of_toUpper (h : toUpper t = i.nameText) : ∀ u ∈ t, Plain u := by
  have hcapitals : t.codePoints.flatMap upperOf = i.nameText.map (·.toNat) := by
    rw [← h]
    exact flatMap_upperOf (h ▸ isAscii_nameText)
  have hbmp : ∀ c ∈ asciiCapitals, c < 0x10000 := by decide
  have hpoint : ∀ c ∈ t.codePoints, c < 0x10000 ∧ Plain (UInt16.ofNat c) := by
    intro c hc
    have hwithin : upperOf c <:+: i.nameText.map (·.toNat) := by
      obtain ⟨before, after, hsplit⟩ := List.append_of_mem hc
      refine ⟨before.flatMap upperOf, after.flatMap upperOf, ?_⟩
      rw [← hcapitals, hsplit]
      simp
    by_cases hascii : c < 0x80
    · refine ⟨by omega, Or.inl (UInt16.lt_iff_toNat_lt.mpr ?_)⟩
      simp
      omega
    · have hmem : c ∈ asciiCapitals := by
        refine mem_asciiCapitals (by omega) fun d hd => ?_
        obtain ⟨u, hu, rfl⟩ := List.mem_map.mp (hwithin.subset hd)
        exact UInt16.lt_iff_toNat_lt.mp (lt_of_mem_nameUnits (mem_nameUnits u hu))
      exact ⟨hbmp c hmem, Or.inr (mem_standIns_of_within c hmem hwithin)⟩
  intro u hu
  rw [← ofCodePoints_codePoints t] at hu
  obtain ⟨c, hc, huc⟩ := List.mem_flatMap.mp hu
  obtain ⟨hlt, hplain⟩ := hpoint c hc
  rw [ofCodePoint, if_pos hlt, List.mem_singleton] at huc
  exact huc ▸ hplain

/-- A text has the capital letters of a name when what it stands for has them. -/
theorem toUpper_eq_nameText :
    toUpper t = i.nameText ↔ (Text.spelledOut t).map asciiUpper = i.nameText := by
  constructor
  · intro h
    rw [← toUpper_of_plain (plain_of_toUpper h), h]
  · intro h
    rw [toUpper_of_plain ?_, h]
    intro u hu
    by_cases hstand : u ∈ standIns
    · exact Or.inr hstand
    · have hcapital : asciiUpper u ∈ i.nameText := by
        rw [← h]
        refine List.mem_map_of_mem (List.mem_flatMap.mpr ⟨u, hu, ?_⟩)
        simp [spelledOut_of_not_mem hstand]
      refine Or.inl (Decidable.of_not_not fun hbeyond => hbeyond ?_)
      rw [asciiUpper_of_not_lt hbeyond] at hcapital
      exact lt_of_mem_nameUnits (mem_nameUnits _ hcapital)

/-! ## § The spelling of a name -/

/-- The unit `u` of a name is written as `w`: in either case, and an underscore also as a space. -/
def Writes (w u : CodeUnit) : Prop := CodeUnit.asciiLower w = CodeUnit.asciiLower u ∨
  u = 0x5F ∧ w = 0x20

instance (w u : CodeUnit) : Decidable (Writes w u) := inferInstanceAs (Decidable (_ ∨ _))

/-- The text is the name of the infraction, unit by unit. -/
def Spells (t : Text) (i : Infraction) : Prop := List.Forall₂ Writes t i.nameText

instance (t : Text) (i : Infraction) : Decidable (Spells t i) :=
  inferInstanceAs (Decidable (List.Forall₂ _ _ _))

/-- An empty text denotes no infraction, and any other text the one whose name it spells. -/
def Denotes (t : Text) (i : Infraction) : Prop := t = [] ∧ i = none ∨ Spells t i

/-- The signs that names are written with. -/
def isNameSign (w : CodeUnit) : Bool := Url.isLetter w || w = 0x5F || w = 0x20

theorem asciiLower_lt_of_mem_nameUnits {u : CodeUnit} (h : u ∈ nameUnits) :
    CodeUnit.asciiLower u < 0x80 :=
  of_mem (P := fun u => CodeUnit.asciiLower u < 0x80) (by decide) u h

theorem writes_iff {w u : CodeUnit} (hu : u ∈ nameUnits) :
    Writes w u ↔ asciiUpper (if w = 0x20 then 0x5F else w) = u := by
  by_cases hw : w < 0x80
  · have hascii : (nameUnits.all fun u =>
        Writes w u ↔ asciiUpper (if w = 0x20 then 0x5F else w) = u) = true :=
      of_ascii (P := fun w => (nameUnits.all fun u =>
        Writes w u ↔ asciiUpper (if w = 0x20 then 0x5F else w) = u) = true) (by decide +kernel) hw
    exact of_mem (P := fun u => Writes w u ↔ asciiUpper (if w = 0x20 then 0x5F else w) = u)
      hascii u hu
  · have hspace : w ≠ 0x20 := fun h => hw (h ▸ by decide)
    rw [Writes, if_neg hspace, asciiLower_of_not_lt hw, asciiUpper_of_not_lt hw]
    constructor
    · rintro (heq | ⟨-, rfl⟩)
      · exact absurd (heq ▸ asciiLower_lt_of_mem_nameUnits hu) hw
      · exact absurd rfl hspace
    · rintro rfl
      exact absurd (lt_of_mem_nameUnits hu) hw

/-- Only the signs of names are written for their units. -/
theorem isNameSign_of_writes {w u : CodeUnit} (hu : u ∈ nameUnits) (h : Writes w u) :
    isNameSign w = true := by
  have hw : w < 0x80 := by
    refine Decidable.of_not_not fun hbeyond => hbeyond ?_
    have hspace : w ≠ 0x20 := fun h => hbeyond (h ▸ by decide)
    rw [writes_iff hu, if_neg hspace, asciiUpper_of_not_lt hbeyond] at h
    exact h ▸ lt_of_mem_nameUnits hu
  have hascii : (nameUnits.all fun u => Writes w u → isNameSign w = true) = true :=
    of_ascii (P := fun w => (nameUnits.all fun u => Writes w u → isNameSign w = true) = true)
      (by decide +kernel) hw
  exact of_mem (P := fun u => Writes w u → isNameSign w = true) hascii u hu h

variable {name : Text}

theorem forall₂_writes_iff (hname : ∀ u ∈ name, u ∈ nameUnits) : List.Forall₂ Writes t name ↔
    (t.map fun w => if w = 0x20 then 0x5F else w).map asciiUpper = name := by
  induction t generalizing name with
  | nil => cases name <;> simp
  | cons w rest ih =>
    cases name with
    | nil => simp
    | cons u more =>
      obtain ⟨hu, hmore⟩ := List.forall_mem_cons.mp hname
      rw [List.forall₂_cons, writes_iff hu, ih hmore]
      simp

/-- What spells a name has that name in capital letters, with underscores for spaces. -/
theorem spells_iff :
    Spells t i ↔ (t.map fun w => if w = 0x20 then 0x5F else w).map asciiUpper = i.nameText :=
  forall₂_writes_iff mem_nameUnits

theorem isNameSign_of_forall₂ (hname : ∀ u ∈ name, u ∈ nameUnits)
    (h : List.Forall₂ Writes t name) : ∀ w ∈ t, isNameSign w = true := by
  induction h with
  | nil => simp
  | cons hwrites _ ih =>
    obtain ⟨hu, hmore⟩ := List.forall_mem_cons.mp hname
    exact List.forall_mem_cons.mpr ⟨isNameSign_of_writes hu hwrites, ih hmore⟩

theorem lt_of_isNameSign {w : CodeUnit} (h : isNameSign w = true) : w < 0x80 := by
  simp only [isNameSign, Url.isLetter, Bool.or_eq_true, Bool.and_eq_true, decide_eq_true_eq] at h
  rcases h with (⟨-, h⟩ | rfl) | rfl
  · exact h
  · decide
  · decide

/-- Whatever denotes an infraction is written with the signs of names. -/
theorem isNameSign_of_denotes (h : Denotes t i) : ∀ w ∈ t, isNameSign w = true := by
  rcases h with ⟨rfl, -⟩ | h
  · simp
  · exact isNameSign_of_forall₂ mem_nameUnits h

/-- So it has none of the letters that stand for others. -/
theorem not_mem_standIns_of_denotes (h : Denotes t i) : ∀ w ∈ t, w ∉ standIns := by
  intro w hw hstand
  have hsign : isNameSign w = true := isNameSign_of_denotes h w hw
  revert hstand
  exact not_mem_standIns (lt_of_isNameSign hsign)

/-! ## § Reading -/

theorem ofName?_eq_some : ofName? name = some i ↔ name = i.nameText := by
  constructor
  · intro h
    have hfound : i.nameText = name := by simpa using List.find?_some h
    exact hfound.symm
  · rintro rfl
    exact ofName?_nameText i

/-- Spelling out does not touch the spaces. -/
theorem spelledOut_underscored (t : Text) :
    Text.spelledOut (t.map fun w => if w = 0x20 then 0x5F else w) =
      (Text.spelledOut t).map fun w => if w = 0x20 then 0x5F else w := by
  have hstands : ∀ w ∈ standIns, w ≠ 0x20 ∧
      CodeUnit.spelledOut w = (CodeUnit.spelledOut w).map fun w => if w = 0x20 then 0x5F else w :=
    of_mem (by decide)
  rw [Text.spelledOut, Text.spelledOut, List.flatMap_map, List.map_flatMap]
  refine List.flatMap_congr fun w _ => ?_
  by_cases hstand : w ∈ standIns
  · obtain ⟨hspace, heq⟩ := hstands w hstand
    rw [if_neg hspace, ← heq]
  · have hunderscored : (if w = 0x20 then 0x5F else w) ∉ standIns := by
      split
      · decide
      · exact hstand
    rw [spelledOut_of_not_mem hstand, spelledOut_of_not_mem hunderscored, List.map_singleton]

/-- A trimmed text is looked up under the name that it spells out. -/
theorem normalizeName_eq_nameText (written : Text) :
    normalizeName written = i.nameText ↔ Spells (Text.spelledOut written.trim) i := by
  rw [normalizeName, toUpper_eq_nameText, spelledOut_underscored, spells_iff]

/-- A text that is read to no infraction is named in the refusal. -/
theorem read_cases (written : Text) :
    (∃ i, read written = .ok i) ∨ read written = .error (.unknownInfraction written) := by
  rw [read]
  split
  · exact Or.inl ⟨none, rfl⟩
  · cases ofName? (normalizeName written) with
    | some i => exact Or.inl ⟨i, rfl⟩
    | none => exact Or.inr rfl

theorem read_eq_ok (written : Text) :
    read written = .ok i ↔ Denotes (Text.spelledOut written.trim) i := by
  rw [read, Denotes, ← normalizeName_eq_nameText, Text.spelledOut_eq_nil]
  by_cases hempty : written.trim = []
  · have hname : normalizeName written ≠ i.nameText := by
      rw [normalizeName, hempty]
      cases i <;> decide
    simp [hempty, hname, eq_comm]
  · rw [if_neg (by simpa using hempty), ← ofName?_eq_some]
    cases hname : ofName? (normalizeName written) <;> simp [hempty]

/-- A text that has none of the letters that stand for others is spelled out already. -/
theorem denotes_spelledOut (h : ∀ w ∈ t, w ∉ standIns) :
    Denotes (Text.spelledOut t) i ↔ Denotes t i := by
  rw [Text.spelledOut_of_forall h]

/-- **How a name is read.**  Reading takes the letters that stand for others as spelled out, and
apart from that allows for the case of letters, spaces for underscores and white space around.  All
other texts are refused, and named in the refusal as they were written.  So a text is read as what
it denotes, unless it has such a letter and denotes an infraction once that is spelled out. -/
theorem read_spelledOut_iff (written : Text) :
    (∀ i, read written = .ok i ↔ Denotes (Text.spelledOut written.trim) i) ∧
    (read written = .error (.unknownInfraction written) ↔
      ∀ i, ¬ Denotes (Text.spelledOut written.trim) i) ∧
    (Fault.unknownInfraction written).message =
      Text.ofString "Unknown infraction type \"" ++ written ++ Text.ofString "\"" ∧
    ((∀ i, read written = .ok i ↔ Denotes written.trim i) ↔
      (∀ w ∈ written.trim, w ∉ standIns) ∨ ∀ i, ¬ Denotes (Text.spelledOut written.trim) i) ∧
    (∀ i, read written = .ok i → ∀ w ∈ written.trim, isNameSign w = true ∨ w ∈ standIns) := by
  refine ⟨fun i => read_eq_ok written, ?refused, rfl, ?agrees, ?signs⟩
  case refused =>
    simp only [← read_eq_ok]
    rcases read_cases written with ⟨i, hread⟩ | hread <;> simp [hread]
  case agrees =>
    simp only [read_eq_ok]
    constructor
    · intro hagrees
      by_contra hnot
      obtain ⟨hstand, i, hdenotes⟩ : (¬ ∀ w ∈ written.trim, w ∉ standIns) ∧
          ∃ i, Denotes (Text.spelledOut written.trim) i := by simpa using hnot
      exact hstand (not_mem_standIns_of_denotes ((hagrees i).mp hdenotes))
    · rintro (hnone | hrefused) i
      · exact denotes_spelledOut hnone
      · refine iff_of_false (hrefused i) fun hdenotes => hrefused i ?_
        exact (denotes_spelledOut (not_mem_standIns_of_denotes hdenotes)).mpr hdenotes
  case signs =>
    intro i hread w hw
    by_cases hstand : w ∈ standIns
    · exact Or.inr hstand
    · refine Or.inl (isNameSign_of_denotes ((read_eq_ok written).mp hread) w ?_)
      refine List.mem_flatMap.mpr ⟨w, hw, ?_⟩
      simp [spelledOut_of_not_mem hstand]

/-- A misspelled name is read, though it denotes nothing as it is written. -/
theorem read_dotless : read (Text.ofString "kıck") = .ok kick ∧
    ∀ i, ¬ Denotes (Text.ofString "kıck").trim i := by
  refine ⟨(read_eq_ok _).mpr (Or.inr ?_), fun i h => ?_⟩
  · decide +kernel
  · exact not_mem_standIns_of_denotes h 0x131 (by decide +kernel) (by decide)

end Infraction

end ChatModeration
