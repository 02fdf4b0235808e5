/-
ChatModeration.Proofs.AsciiNames — names of hosts in ASCII.

A name in ASCII is mapped, composed and cut into labels like any other, but
nothing of that does more than write its letters small: `toAscii?_ascii` says
which names pass, and that they pass as they are.  What is left of a host is
whether its end reads as a number, which the label that begins with a letter
decides (`endsInNumber_eq_false`).

The main statement is `domain?_of_isName`: a name of labels is its own domain.
-/
import ChatModeration.Text.Case
import ChatModeration.Url.Host
import Mathlib.Data.List.Basic

namespace ChatModeration

/-! ## § ASCII units -/

namespace CodeUnit

/-- What holds of all ASCII units is checked one by one. -/
theorem of_ascii {P : CodeUnit → Prop} [DecidablePred P]
    (h : ((List.range 0x80).all fun n => P (UInt16.ofNat n)) = true) {u : CodeUnit}
    (hu : u < 0x80) : P u := by
  have hlt : u.toNat < 0x80 := UInt16.lt_iff_toNat_lt.mp hu
  simpa using List.all_eq_true.mp h u.toNat (List.mem_range.mpr hlt)

/-- Only letters change, and they become letters that stay. -/
theorem asciiLower_cases (u : CodeUnit) :
    asciiLower u = u ∨ (Url.isLetter u = true ∧ Url.isLetter (asciiLower u) = true ∧
      asciiLower (asciiLower u) = asciiLower u) := by
  by_cases hu : u < 0x80
  · exact of_ascii (P := fun u => asciiLower u = u ∨ (Url.isLetter u = true ∧
      Url.isLetter (asciiLower u) = true ∧ asciiLower (asciiLower u) = asciiLower u))
      (by decide) hu
  · refine .inl (if_neg fun hcap => hu ?_)
    simp only [Bool.and_eq_true, decide_eq_true_eq] at hcap
    exact UInt16.lt_of_le_of_lt hcap.2 (by decide)

theorem asciiLower_idem (u : CodeUnit) : asciiLower (asciiLower u) = asciiLower u := by
  obtain hstays | ⟨-, -, hstays⟩ := asciiLower_cases u
  · rw [hstays, hstays]
  · exact hstays

/-- A sign that is no letter is written small by itself alone. -/
theorem asciiLower_eq_iff {u v : CodeUnit} (hv : Url.isLetter v = false) :
    asciiLower u = v ↔ u = v := by
  obtain hstays | ⟨hletter, hlower, -⟩ := asciiLower_cases u
  · rw [hstays]
  · constructor
    · rintro rfl
      exact absurd hlower (by simp [hv])
    · rintro rfl
      exact absurd hletter (by simp [hv])

end CodeUnit

namespace Text

/-- A text with small letters for the letters `A`–`Z`. -/
def asciiLower (t : Text) : Text := t.map CodeUnit.asciiLower

variable {a b t : Text}

@[simp] theorem asciiLower_append : asciiLower (a ++ b) = asciiLower a ++ asciiLower b :=
  List.map_append

@[simp] theorem length_asciiLower (t : Text) : (asciiLower t).length = t.length := List.length_map _

theorem asciiLower_idem (t : Text) : asciiLower (asciiLower t) = asciiLower t := by
  simp [asciiLower, CodeUnit.asciiLower_idem]

theorem isAscii_iff : isAscii t = true ↔ ∀ u ∈ t, u < 0x80 := by simp [isAscii]

theorem isAscii_asciiLower (h : isAscii t = true) : isAscii (asciiLower t) = true := by
  rw [isAscii_iff] at h ⊢
  intro v hv
  obtain ⟨u, hu, rfl⟩ := List.mem_map.mp hv
  exact CodeUnit.of_ascii (P := fun u => CodeUnit.asciiLower u < 0x80) (by decide) (h u hu)

/-- ASCII units are code points, whatever follows them. -/
theorem codePoints_append (h : isAscii a = true) (b : Text) :
    codePoints (a ++ b) = a.map (·.toNat) ++ codePoints b := by
  induction a with
  | nil => rfl
  | cons u rest ih =>
    rw [isAscii, List.all_cons, Bool.and_eq_true, decide_eq_true_eq] at h
    have hhigh : CodeUnit.isHighSurrogate u = false :=
      CodeUnit.of_ascii (P := fun u => CodeUnit.isHighSurrogate u = false) (by decide) h.1
    rw [List.cons_append, List.map_cons, List.cons_append, ← ih h.2]
    cases rest ++ b with
    | nil => rfl
    | cons v more => simp [codePoints, hhigh]

theorem codePoints_of_isAscii (h : isAscii t = true) : codePoints t = t.map (·.toNat) := by
  simpa [codePoints] using codePoints_append h []

theorem ofCodePoints_map_toNat (t : Text) : ofCodePoints (t.map (·.toNat)) = t := by
  induction t with
  | nil => rfl
  | cons u rest ih =>
    simp only [ofCodePoints, List.map_cons, List.flatMap_cons, ofCodePoint_toNat] at ih ⊢
    rw [ih]
    rfl

theorem ofCodePoints_append (cs ds : List Nat) :
    ofCodePoints (cs ++ ds) = ofCodePoints cs ++ ofCodePoints ds := List.flatMap_append

theorem lowerCodePoints_ascii (before : List Nat) (h : isAscii t = true) :
    lowerCodePoints before (t.map (·.toNat)) = (asciiLower t).map (·.toNat) := by
  induction t generalizing before with
  | nil => rfl
  | cons u rest ih =>
    rw [isAscii, List.all_cons, Bool.and_eq_true, decide_eq_true_eq] at h
    have hsigma : u.toNat ≠ 0x3A3 :=
      CodeUnit.of_ascii (P := fun u => u.toNat ≠ 0x3A3) (by decide) h.1
    have hlower : (if 0x41 ≤ u.toNat ∧ u.toNat ≤ 0x5A then u.toNat + 0x20 else u.toNat) =
        (CodeUnit.asciiLower u).toNat :=
      CodeUnit.of_ascii (P := fun u => (if 0x41 ≤ u.toNat ∧ u.toNat ≤ 0x5A then u.toNat + 0x20
        else u.toNat) = (CodeUnit.asciiLower u).toNat) (by decide) h.1
    have hlt : u.toNat < 0x80 := UInt16.lt_iff_toNat_lt.mp h.1
    simp only [List.map_cons, lowerCodePoints, hsigma, false_and, if_false, lowerOf_ascii hlt,
      hlower, ih _ h.2]
    rfl

/-- The small letters of an ASCII text are the ASCII ones. -/
theorem toLower_of_isAscii (h : isAscii t = true) : toLower t = asciiLower t := by
  rw [toLower, codePoints_of_isAscii h, lowerCodePoints_ascii [] h, ofCodePoints_map_toNat]

/-! ## § Parts -/

variable {sep : CodeUnit → Bool}

theorem splitOn_ne_nil (sep : CodeUnit → Bool) (t : Text) : splitOn sep t ≠ [] := by
  cases t with
  | nil => simp [splitOn]
  | cons u rest => rw [splitOn]; split <;> (try split) <;> simp

/-- A unit that does not separate belongs to the first part. -/
theorem splitOn_cons {u : CodeUnit} {first : Text} {more : List Text} (hu : sep u = false)
    (h : splitOn sep t = first :: more) : splitOn sep (u :: t) = (u :: first) :: more := by
  simp [splitOn, hu, h]

/-- Where two texts meet, the last part of the one and the first part of the other are one part. -/
theorem splitOn_append {init more : List Text} {last first : Text}
    (ha : splitOn sep a = init ++ [last]) (hb : splitOn sep b = first :: more) :
    splitOn sep (a ++ b) = init ++ (last ++ first) :: more := by
  induction a generalizing init last with
  | nil =>
    obtain ⟨rfl, hlast⟩ := (List.append_eq_singleton_iff.mp ha.symm).resolve_right (by simp)
    cases hlast
    exact hb
  | cons u rest ih =>
    cases hu : sep u with
    | true =>
      rw [splitOn, if_pos hu] at ha
      cases init with
      | nil => exact absurd (List.cons.inj ha).2 (splitOn_ne_nil sep rest)
      | cons part init =>
        obtain ⟨rfl, hrest⟩ := List.cons.inj ha
        simp [splitOn, hu, ih hrest]
    | false =>
      obtain ⟨part, parts, hparts⟩ := List.exists_cons_of_ne_nil (splitOn_ne_nil sep rest)
      rw [splitOn_cons hu hparts] at ha
      cases init with
      | nil =>
        obtain ⟨rfl, rfl⟩ := List.cons.inj ha
        exact splitOn_cons hu (@ih [] part hparts)
      | cons part' init =>
        obtain ⟨rfl, rfl⟩ := List.cons.inj ha
        exact splitOn_cons hu (@ih (part :: init) last hparts)

theorem splitOn_map (f : CodeUnit → CodeUnit) (h : ∀ u, sep (f u) = sep u) (t : Text) :
    splitOn sep (t.map f) = (splitOn sep t).map (·.map f) := by
  induction t with
  | nil => rfl
  | cons u rest ih =>
    rw [List.map_cons, splitOn, splitOn, h, ih]
    split
    · rfl
    · cases splitOn sep rest <;> rfl

/-- A text is made of its parts and of what separates them. -/
theorem mem_splitOn (sep : CodeUnit → Bool) {u : CodeUnit} (hu : u ∈ t) :
    sep u = true ∨ ∃ part ∈ splitOn sep t, u ∈ part := by
  fun_induction splitOn sep t with
  | case1 => cases hu
  | case2 v rest hv ih => rcases List.mem_cons.mp hu with rfl | hu <;> simp_all
  | case3 v rest hv hnone => exact absurd hnone (splitOn_ne_nil sep rest)
  | case4 v rest hv part parts hparts ih =>
    rcases List.mem_cons.mp hu with rfl | hu
    · simp
    · grind

theorem mem_of_mem_splitOn {part : Text} (hpart : part ∈ splitOn sep t) {u : CodeUnit}
    (hu : u ∈ part) : u ∈ t := by
  fun_induction splitOn sep t generalizing part with
  | case1 => simp_all
  | case2 v rest hv ih => grind
  | case3 v rest hv hnone => exact absurd hnone (splitOn_ne_nil sep rest)
  | case4 v rest hv first more hparts ih => grind

/-- Parts that are joined in two portions. -/
theorem join_append (sep : Text) {front back : List Text} (hfront : front ≠ []) (hback : back ≠ []) :
    join sep (front ++ back) = join sep front ++ sep ++ join sep back := by
  unfold join
  induction front with
  | nil => exact absurd rfl hfront
  | cons part rest ih =>
    cases rest with
    | nil =>
      rw [List.singleton_append, List.intercalate_cons_of_ne_nil hback, List.intercalate_singleton]
    | cons next more =>
      have hmore : next :: more ≠ [] := List.cons_ne_nil next more
      rw [List.cons_append, List.intercalate_cons_of_ne_nil (by simp), ih hmore,
        List.intercalate_cons_of_ne_nil hmore]
      simp only [List.append_assoc]

theorem join_splitOn (mark : CodeUnit) (t : Text) : join [mark] (splitOn (· == mark) t) = t := by
  fun_induction splitOn (· == mark) t with
  | case1 => rfl
  | case2 v rest hv ih =>
    obtain ⟨first, more, hparts⟩ := List.exists_cons_of_ne_nil (splitOn_ne_nil (· == mark) rest)
    rw [hparts] at ih ⊢
    obtain rfl := beq_iff_eq.mp hv
    simpa [join] using ih
  | case3 v rest hv hnone => exact absurd hnone (splitOn_ne_nil _ rest)
  | case4 v rest hv part parts hparts ih =>
    rw [hparts] at ih
    cases parts <;> simp_all [join]

end Text

/-! ## § Names in ASCII -/

namespace Url

namespace Domain

open Unicode

variable {t : Text}

theorem mapAll?_ascii (h : t.isAscii = true) :
    mapAll? (t.map (·.toNat)) = some (t.asciiLower.map (·.toNat)) := by
  have hmap : (t.map (·.toNat)).mapM mapCodePoint? =
      some (t.asciiLower.map fun u => [u.toNat]) := by
    induction t with
    | nil => rfl
    | cons u rest ih =>
      rw [Text.isAscii, List.all_cons, Bool.and_eq_true, decide_eq_true_eq] at h
      have hlower : (if 0x41 ≤ u.toNat ∧ u.toNat ≤ 0x5A then u.toNat + 0x20 else u.toNat) =
          (CodeUnit.asciiLower u).toNat :=
        CodeUnit.of_ascii (P := fun u => (if 0x41 ≤ u.toNat ∧ u.toNat ≤ 0x5A then u.toNat + 0x20
          else u.toNat) = (CodeUnit.asciiLower u).toNat) (by decide) h.1
      have hlt : u.toNat < 0x80 := UInt16.lt_iff_toNat_lt.mp h.1
      rw [List.map_cons, List.mapM_cons, ih h.2, mapCodePoint?, if_pos hlt, hlower]
      rfl
  rw [mapAll?, hmap, Option.map_some, ← List.flatMap_def, List.map_eq_flatMap]

/-- Nothing below U+00C0 is decomposed. -/
theorem decomposeAll_of_lt (depth : Nat) {c : Nat} (h : c < 0xC0) : decomposeAll depth c = [c] := by
  cases depth with
  | zero => rw [decomposeAll]
  | succ depth => rw [decomposeAll, if_pos h]

theorem decomposeAll_ascii (depth : Nat) {cs : List Nat} (h : ∀ c ∈ cs, c < 0x80) :
    cs.flatMap (decomposeAll depth) = cs := by
  have heach : ∀ c ∈ cs, decomposeAll depth c = [c] := fun c hc =>
    decomposeAll_of_lt depth (Nat.lt_trans (h c hc) (by decide))
  rw [List.flatMap_congr heach, List.flatMap_singleton']

/-- All of ASCII are starters. -/
theorem orderMarks_ascii {cs : List Nat} (h : ∀ c ∈ cs, c < 0x80) :
    orderMarks [] cs = cs.map (·, 0) := by
  induction cs with
  | nil => rfl
  | cons c rest ih =>
    obtain ⟨hc, hrest⟩ := List.forall_mem_cons.mp h
    have hclass : combiningClass c = 0 := if_pos (Nat.lt_trans hc (by decide))
    simp [orderMarks, hclass, ih hrest]

/-- No ASCII sign is the second of a pair. -/
theorem pair?_ascii (first : Nat) {second : Nat} (h : second < 0x80) :
    pair? first second = none := by
  have hhangul : hangulPair? first second = none := by
    rw [hangulPair?, if_neg (by omega), if_neg (by omega)]
  rw [pair?, hhangul, composition?, if_pos (by omega)]
  rfl

theorem composeFrom_ascii {cs : List Nat} (h : ∀ c ∈ cs, c < 0x80) (starter : Option Nat) :
    composeFrom starter [] (cs.map (·, 0)) = starter.toList ++ cs := by
  induction cs generalizing starter with
  | nil => simp [composeFrom]
  | cons c rest ih =>
    obtain ⟨hc, hrest⟩ := List.forall_mem_cons.mp h
    cases starter with
    | none => simp [composeFrom, ih hrest]
    | some s => simp [composeFrom, pair?_ascii s hc, ih hrest]

theorem compose_ascii {cs : List Nat} (h : ∀ c ∈ cs, c < 0x80) : compose cs = cs := by
  rw [compose, decomposeAll_ascii 8 h, orderMarks_ascii h, composeFrom_ascii h]
  rfl

theorem labelsOf_map_toNat (t : Text) :
    labelsOf (t.map (·.toNat)) = (Text.splitOn (· == 0x2E) t).map (·.map (·.toNat)) := by
  induction t with
  | nil => rfl
  | cons u rest ih =>
    have hdot : u.toNat = 0x2E ↔ (u == 0x2E) = true := by
      rw [beq_iff_eq, ← UInt16.toNat_inj]
      rfl
    rw [List.map_cons, labelsOf, Text.splitOn, ih]
    simp only [hdot]
    split
    · rfl
    · cases Text.splitOn (· == 0x2E) rest <;> rfl

/-- Whether a label in ASCII passes: it is not marked as encoded, or is the encoding of a label. -/
def passes (label : List Nat) : Bool :=
  !encodedMark.isPrefixOf label || encodedValid (label.drop 4)

theorem labelToAscii?_ascii {label : List Nat} (h : ∀ c ∈ label, c < 0x80) :
    labelToAscii? label = if passes label then some label else none := by
  have hall : label.all (· < 0x80) = true := by simpa using h
  rw [labelToAscii?, hall, passes]
  cases encodedMark.isPrefixOf label <;> simp

theorem mapM_labelToAscii? {labels : List (List Nat)} (h : ∀ l ∈ labels, ∀ c ∈ l, c < 0x80) :
    labels.mapM labelToAscii? = if labels.all passes then some labels else none := by
  induction labels with
  | nil => rfl
  | cons label rest ih =>
    obtain ⟨hlabel, hrest⟩ := List.forall_mem_cons.mp h
    rw [List.mapM_cons, labelToAscii?_ascii hlabel, ih hrest, List.all_cons]
    cases passes label <;> cases rest.all passes <;> rfl

/-- The labels of a name, in small letters. -/
def labels (t : Text) : List Text := Text.splitOn (· == 0x2E) t.asciiLower

/-- A name in ASCII is only written small, if all its labels pass. -/
theorem toAscii?_ascii (h : t.isAscii = true) :
    toAscii? t.codePoints =
      if (labels t).all fun label => passes (label.map (·.toNat)) then some t.asciiLower
      else none := by
  have hlower := Text.isAscii_iff.mp (Text.isAscii_asciiLower h)
  have hcodes : ∀ c ∈ t.asciiLower.map (·.toNat), c < 0x80 := by
    intro c hc
    obtain ⟨u, hu, rfl⟩ := List.mem_map.mp hc
    exact UInt16.lt_iff_toNat_lt.mp (hlower u hu)
  have hlabels : ∀ l ∈ (labels t).map (·.map (·.toNat)), ∀ c ∈ l, c < 0x80 := by
    intro l hl c hc
    obtain ⟨label, hlabel, rfl⟩ := List.mem_map.mp hl
    obtain ⟨u, hu, rfl⟩ := List.mem_map.mp hc
    exact UInt16.lt_iff_toNat_lt.mp (hlower u (Text.mem_of_mem_splitOn hlabel hu))
  have hback : ((labels t).map (·.map (·.toNat))).map (·.map UInt16.ofNat) = labels t := by
    simp [Function.comp_def]
  rw [toAscii?, Text.codePoints_of_isAscii h, mapAll?_ascii h, Option.bind_eq_bind,
    Option.bind_some, compose_ascii hcodes, labelsOf_map_toNat]
  change (((labels t).map _).mapM labelToAscii? >>= _) = _
  rw [mapM_labelToAscii? hlabels, List.all_map, Function.comp_def]
  cases (labels t).all fun label => passes (label.map (·.toNat)) with
  | false => rfl
  | true =>
    have hjoin : Text.join [0x2E] (((labels t).map (·.map (·.toNat))).map (·.map UInt16.ofNat)) =
        t.asciiLower := by rw [hback, labels, Text.join_splitOn]
    exact congrArg some hjoin

end Domain

/-! ## § Numbers -/

namespace Ipv4

/-- Whether a part of a name is empty or begins with something other than a digit. -/
def Worded (part : Text) : Prop := ∀ u ∈ part.head?, CodeUnit.isDigit u = false

theorem ten_le_of_hexValue? {u : CodeUnit} {n : Nat} (h : CodeUnit.hexValue? u = some n)
    (hu : CodeUnit.isDigit u = false) : 10 ≤ n := by
  rw [CodeUnit.isDigit] at hu
  rw [CodeUnit.hexValue?, hu, if_neg (by decide)] at h
  simp only [Bool.and_eq_true, decide_eq_true_eq, UInt16.le_iff_toNat_le] at h
  split at h
  · next hcap =>
    have hlow : 0x41 ≤ u.toNat := hcap.1
    have hn := Option.some.inj h
    omega
  · split at h
    · next hsmall =>
      have hlow : 0x61 ≤ u.toNat := hsmall.1
      have hn := Option.some.inj h
      omega
    · cases h

/-- What does not begin with a digit is no number. -/
theorem readPart?_of_worded {part : Text} (h : Worded part) : readPart? part = none := by
  cases part with
  | nil => rfl
  | cons u rest =>
    have hu := h u rfl
    have hzero : u ≠ 0x30 := by rintro rfl; exact absurd hu (by decide)
    unfold readPart?
    split
    · rfl
    · next heq => exact absurd (List.cons.inj heq).1 hzero
    · have hfirst : (CodeUnit.hexValue? u).filter (· < 10) = none := by
        rw [Option.filter_eq_none_iff]
        intro n hn
        simpa using ten_le_of_hexValue? hn hu
      change ((u :: rest).mapM fun d => (CodeUnit.hexValue? d).filter (· < 10)).map _ = none
      rw [List.mapM_cons, hfirst]
      rfl

theorem not_number_of_worded {part : Text} (h : Worded part) :
    (!part.isEmpty && part.all CodeUnit.isDigit) = false := by
  cases part with
  | nil => rfl
  | cons u rest => rw [List.all_cons, h u rfl]; rfl

/-- A name does not end in a number if none of its last parts, beginning with one that is not empty,
begins with a digit. -/
theorem endsInNumber_eq_false {t last : Text} {init more : List Text}
    (hparts : Text.splitOn (· == 0x2E) t = init ++ last :: more) (hlast : last ≠ [])
    (hworded : ∀ part ∈ last :: more, Worded part) : endsInNumber t = false := by
  have hend : ∃ part ∈ last :: more, (partsOf t).getLast? = some part := by
    simp only [partsOf, hparts]
    rcases List.eq_nil_or_concat more with rfl | ⟨more, part, rfl⟩
    · refine ⟨last, List.mem_cons_self, ?_⟩
      rw [if_neg (by simp [hlast])]
      simp
    · rw [List.concat_eq_append, ← List.cons_append, ← List.append_assoc]
      split
      · refine ⟨(last :: more).getLast (by simp), ?_, ?_⟩
        · exact List.mem_append_left _ (List.getLast_mem _)
        · rw [List.dropLast_concat, List.getLast?_append_of_ne_nil _ (by simp),
            List.getLast?_eq_some_getLast]
      · exact ⟨part, by simp, List.getLast?_concat⟩
  obtain ⟨part, hmem, hend⟩ := hend
  have hpart := hworded part hmem
  rw [endsInNumber, hend]
  simp only [not_number_of_worded hpart, readPart?_of_worded hpart]
  rfl

end Ipv4

/-! ## § Labels and names -/

namespace Domain

variable {t : Text}

/-- Letters, digits and hyphens. -/
def isLabelUnit (u : CodeUnit) : Bool := isLetter u || CodeUnit.isDigit u || u == 0x2D

/-- A label that is not marked as encoded. -/
def isLabel (t : Text) : Bool :=
  !t.isEmpty && t.all isLabelUnit && !encodedMark.isPrefixOf (t.asciiLower.map (·.toNat))

/-- Labels between dots, the last of which begins with a letter. -/
def isName (t : Text) : Bool :=
  let parts := Text.splitOn (· == 0x2E) t
  parts.all isLabel && (parts.getLast?.bind List.head?).any isLetter

theorem isLabelUnit_of_isLetter {u : CodeUnit} (h : isLetter u = true) : isLabelUnit u = true := by
  rw [isLabelUnit, h, Bool.true_or, Bool.true_or]

theorem isAscii_of_isLabelUnit {u : CodeUnit} (h : isLabelUnit u = true) : u < 0x80 := by
  simp only [isLabelUnit, isLetter, CodeUnit.isDigit, Bool.or_eq_true, Bool.and_eq_true,
    decide_eq_true_eq, beq_iff_eq] at h
  obtain (⟨-, h⟩ | ⟨-, h⟩) | rfl := h
  · exact h
  · exact UInt16.lt_of_le_of_lt h (by decide)
  · decide

/-- What holds of letters, digits and hyphens is checked one by one. -/
theorem of_isLabelUnit {P : CodeUnit → Prop} [DecidablePred P]
    (h : ((List.range 0x80).all fun n =>
      isLabelUnit (UInt16.ofNat n) = true → P (UInt16.ofNat n)) = true)
    {u : CodeUnit} (hu : isLabelUnit u = true) : P u :=
  CodeUnit.of_ascii (P := fun u => isLabelUnit u = true → P u) h (isAscii_of_isLabelUnit hu) hu

/-- What holds of letters, digits, hyphens and dots holds throughout a name. -/
theorem forall_of_isName {P : CodeUnit → Prop} [DecidablePred P] (hdot : P 0x2E)
    (hunit : ((List.range 0x80).all fun n =>
      isLabelUnit (UInt16.ofNat n) = true → P (UInt16.ofNat n)) = true)
    (h : isName t = true) : ∀ u ∈ t, P u := by
  intro u hu
  rw [isName, Bool.and_eq_true, List.all_eq_true] at h
  obtain hsep | ⟨part, hpart, hu⟩ := Text.mem_splitOn (· == 0x2E) hu
  · exact beq_iff_eq.mp hsep ▸ hdot
  · have hlabel := h.1 part hpart
    rw [isLabel, Bool.and_eq_true, Bool.and_eq_true, List.all_eq_true] at hlabel
    exact of_isLabelUnit hunit (hlabel.1.2 u hu)

theorem isAscii_of_isName (h : isName t = true) : t.isAscii = true :=
  Text.isAscii_iff.mpr (forall_of_isName (by decide) (by decide) h)

theorem ne_nil_of_isName (h : isName t = true) : t ≠ [] := by
  rintro rfl
  exact absurd h (by decide)

theorem labels_eq_map (t : Text) : labels t = (Text.splitOn (· == 0x2E) t).map Text.asciiLower := by
  have hdot (u : CodeUnit) : (CodeUnit.asciiLower u == 0x2E) = (u == 0x2E) := by
    rw [Bool.eq_iff_iff, beq_iff_eq, beq_iff_eq, CodeUnit.asciiLower_eq_iff (by decide)]
  exact Text.splitOn_map CodeUnit.asciiLower hdot t

theorem passes_of_isName (h : isName t = true) :
    ((labels t).all fun label => passes (label.map (·.toNat))) = true := by
  rw [isName, Bool.and_eq_true, List.all_eq_true] at h
  rw [labels_eq_map, List.all_map, List.all_eq_true]
  intro label hlabel
  have hplain := h.1 label hlabel
  rw [isLabel, Bool.and_eq_true] at hplain
  rw [Function.comp_apply, passes, hplain.2, Bool.true_or]

/-- A name ends in a label that does not begin with a digit. -/
theorem exists_last_of_isName (h : isName t = true) :
    ∃ init last, labels t = init ++ [last] ∧ last ≠ [] ∧ Ipv4.Worded last := by
  rw [isName, Bool.and_eq_true] at h
  rcases List.eq_nil_or_concat (Text.splitOn (· == 0x2E) t) with hnil | ⟨init, last, hparts⟩
  · exact absurd hnil (Text.splitOn_ne_nil _ t)
  · rw [List.concat_eq_append] at hparts
    rw [hparts, List.getLast?_concat, Option.bind_some] at h
    refine ⟨init.map Text.asciiLower, last.asciiLower, ?_, ?_, ?_⟩
    · rw [labels_eq_map, hparts, List.map_append]
      rfl
    · rintro hnil
      rw [List.map_eq_nil_iff.mp hnil] at h
      exact absurd h.2 (by decide)
    · cases last with
      | nil => exact fun u hu => absurd hu (by simp [Text.asciiLower])
      | cons v rest =>
        intro u hu
        obtain rfl : CodeUnit.asciiLower v = u := by simpa [Text.asciiLower] using hu
        have hletter : isLetter v = true := h.2
        exact of_isLabelUnit (P := fun v => isLetter v = true →
          CodeUnit.isDigit (CodeUnit.asciiLower v) = false) (by decide)
          (isLabelUnit_of_isLetter hletter) hletter

/-- The last unit of a name belongs to a label. -/
theorem isLabelUnit_of_last {init : Text} {u : CodeUnit} (h : isName (init ++ [u]) = true) :
    isLabelUnit u = true := by
  have hunit := forall_of_isName (P := fun u => u = 0x2E ∨ isLabelUnit u = true) (.inl rfl)
    (by decide) h u (by simp)
  refine hunit.resolve_left fun hdot => ?_
  subst hdot
  rcases List.eq_nil_or_concat (Text.splitOn (· == 0x2E) init) with hnil | ⟨parts, last, hparts⟩
  · exact Text.splitOn_ne_nil _ init hnil
  · -- the part after the dot would be an empty label
    rw [List.concat_eq_append] at hparts
    have hdot : Text.splitOn (· == 0x2E) [0x2E] = [] :: [[]] := by decide
    rw [isName, Text.splitOn_append hparts hdot, Bool.and_eq_true, List.all_eq_true] at h
    exact absurd (h.1 [] (by simp)) (by decide)

/-- A name is no number, and what follows it without digits does not make it one. -/
theorem endsInNumber_of_isName (h : isName t = true) (marks : Text)
    (hmarks : ∀ u ∈ marks, CodeUnit.isDigit u = false) :
    Ipv4.endsInNumber (t.asciiLower ++ marks) = false := by
  obtain ⟨init, last, hlabels, hne, hworded⟩ := exists_last_of_isName h
  obtain ⟨first, more, hparts⟩ :=
    List.exists_cons_of_ne_nil (Text.splitOn_ne_nil (· == 0x2E) marks)
  refine Ipv4.endsInNumber_eq_false (Text.splitOn_append hlabels hparts) (by simp [hne]) ?_
  intro part hpart u hu
  rcases List.mem_cons.mp hpart with rfl | hpart
  · rw [List.head?_append_of_ne_nil _ hne] at hu
    exact hworded u hu
  · have hmem : part ∈ Text.splitOn (· == 0x2E) marks := hparts ▸ List.mem_cons_of_mem _ hpart
    exact hmarks u (Text.mem_of_mem_splitOn hmem (List.mem_of_mem_head? hu))

end Domain

/-! ## § Domains -/

variable {t : Text}

/-- What is no number is a domain if it passes and nothing in it is forbidden. -/
theorem domain?_ascii (hascii : t.isAscii = true) (hpercent : 0x25 ∉ t)
    (hnumber : Ipv4.endsInNumber t.asciiLower = false) :
    domain? t.codePoints =
      if !t.isEmpty && ((Domain.labels t).all fun label => Domain.passes (label.map (·.toNat))) &&
          !t.asciiLower.any forbiddenInDomain then some t.asciiLower
      else none := by
  have hplain : t.codePoints.contains 0x25 = false := by
    rw [List.contains_eq_mem, decide_eq_false_iff_not, Text.codePoints_of_isAscii hascii]
    intro hmem
    obtain ⟨u, hu, heq⟩ := List.mem_map.mp hmem
    have hpercent' : u = 0x25 := UInt16.toNat_inj.mp heq
    exact hpercent (hpercent' ▸ hu)
  have hempty : t.asciiLower.isEmpty = t.isEmpty := by simp [Text.asciiLower]
  simp only [domain?, hplain, Bool.false_eq_true, if_false, Domain.toAscii?_ascii hascii]
  cases (Domain.labels t).all fun label => Domain.passes (label.map (·.toNat)) with
  | false => simp
  | true =>
    simp only [if_true, hempty, hnumber]
    cases t.isEmpty <;> cases t.asciiLower.any forbiddenInDomain <;> rfl

/-- A name is its own domain, in small letters. -/
theorem domain?_of_isName (h : Domain.isName t = true) :
    domain? t.codePoints = some t.asciiLower := by
  have hunits : ∀ u ∈ t, u ≠ 0x25 ∧ forbiddenInDomain (CodeUnit.asciiLower u) = false :=
    Domain.forall_of_isName (by decide) (by decide) h
  have hpercent : 0x25 ∉ t := fun hmem => (hunits _ hmem).1 rfl
  have hnumber : Ipv4.endsInNumber t.asciiLower = false := by
    simpa using Domain.endsInNumber_of_isName h [] (by simp)
  have hforbidden : t.asciiLower.any forbiddenInDomain = false := by
    rw [List.any_eq_false]
    intro v hv
    obtain ⟨u, hu, rfl⟩ := List.mem_map.mp hv
    simp [(hunits u hu).2]
  have hne : t.isEmpty = false := List.isEmpty_eq_false_iff.mpr (Domain.ne_nil_of_isName h)
  rw [domain?_ascii (Domain.isAscii_of_isName h) hpercent hnumber, hne,
    Domain.passes_of_isName h, hforbidden]
  rfl

end Url

end ChatModeration
