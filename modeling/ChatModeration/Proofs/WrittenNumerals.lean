/-
ChatModeration.Proofs.WrittenNumerals — whole numbers by their digits.

`Digits base n t` says that `t` is made of the digits of `n`, in either case of
the letters and with any number of zeros before them; a `Numeral` is decimal, or
hexadecimal after `0x`.

The main statement is `ofText_numeral`: as long as a number is not rounded, its
numerals are read as it.
-/
import ChatModeration.Number.Reader
import ChatModeration.Proofs.WholeNumbers
import ChatModeration.Proofs.WrittenLines
import Mathlib.Data.List.TakeWhile
import Mathlib.Data.Nat.Digits.Defs

namespace ChatModeration

namespace Number

/-! ## § Digits -/

/-- Whether a unit is the digit of that value, a letter being small or capital. -/
def IsDigit (d : Nat) (u : CodeUnit) : Prop :=
  u ∈ (Text.ofString "0123456789abcdef")[d]? ∨ u ∈ (Text.ofString "0123456789ABCDEF")[d]?

instance (d : Nat) (u : CodeUnit) : Decidable (IsDigit d u) := inferInstanceAs (Decidable (_ ∨ _))

/-- The texts of digits that write a number in a base, the last digit being that of the units. -/
inductive Digits (base : Nat) : Nat → Text → Prop
  | one {d : Nat} {u : CodeUnit} (hd : d < base) (hu : IsDigit d u) : Digits base d [u]
  | more {n d : Nat} {t : Text} {u : CodeUnit} (ht : Digits base n t) (hd : d < base)
      (hu : IsDigit d u) : Digits base (n * base + d) (t ++ [u])

/-- The texts that write a number in base 10, or after `0x` in base 16. -/
inductive Numeral (n : Nat) : Text → Prop
  | decimal {t : Text} (ht : Digits 10 n t) : Numeral n t
  | hexadecimal {t : Text} (ht : Digits 16 n t) : Numeral n (0x30 :: 0x78 :: t)

variable {base n d : Nat} {t : Text} {u : CodeUnit}

/-- What holds of the sixteen digits, small and capital, holds of every digit. -/
theorem IsDigit.of_values {P : Nat → CodeUnit → Prop} (hu : IsDigit d u) (hd : d < base)
    (hsmall : ∀ d < base, P d ((Text.ofString "0123456789abcdef")[d]?.getD 0))
    (hcapital : ∀ d < base, P d ((Text.ofString "0123456789ABCDEF")[d]?.getD 0)) : P d u := by
  rcases hu with hu | hu
  · simpa [Option.mem_def.mp hu] using hsmall d hd
  · simpa [Option.mem_def.mp hu] using hcapital d hd

theorem IsDigit.hexValue?_eq (hu : IsDigit d u) (hd : d < 16) : CodeUnit.hexValue? u = some d :=
  hu.of_values (P := fun d u => CodeUnit.hexValue? u = some d) hd (by decide) (by decide)

theorem IsDigit.decimal (hu : IsDigit d u) (hd : d < 10) :
    CodeUnit.isDigit u = true ∧ u.toNat - 0x30 = d :=
  hu.of_values (P := fun d u => CodeUnit.isDigit u = true ∧ u.toNat - 0x30 = d) hd (by decide)
    (by decide)

theorem IsDigit.not_blank (hu : IsDigit d u) (hd : d < 16) :
    CodeUnit.isBlank u = false ∧ CodeUnit.isLineEnd u = false :=
  hu.of_values (P := fun _ u => CodeUnit.isBlank u = false ∧ CodeUnit.isLineEnd u = false) hd
    (by decide) (by decide)

/-- Every number has digits. -/
theorem exists_digits (n : Nat) : ∃ t, Digits 10 n t := by
  have hdigit : ∀ d < 10, ∃ u, IsDigit d u := by
    intro d hd
    exact ⟨(Text.ofString "0123456789abcdef")[d]?.getD 0, .inl (by revert d; decide)⟩
  induction n using Nat.strong_induction_on with
  | _ n ih =>
    by_cases hn : n < 10
    · obtain ⟨u, hu⟩ := hdigit n hn
      exact ⟨[u], .one hn hu⟩
    · obtain ⟨t, ht⟩ := ih (n / 10) (by omega)
      obtain ⟨u, hu⟩ := hdigit (n % 10) (by omega)
      have hsum : n / 10 * 10 + n % 10 = n := Nat.div_add_mod' n 10
      exact ⟨t ++ [u], hsum ▸ .more ht (by omega) hu⟩

namespace Digits

theorem ne_nil (h : Digits base n t) : t ≠ [] := by
  cases h <;> simp

/-- What holds of every digit holds of every unit. -/
theorem forall_mem {P : CodeUnit → Prop} (h : Digits base n t)
    (hP : ∀ d < base, ∀ u, IsDigit d u → P u) : ∀ u ∈ t, P u := by
  induction h with
  | one hd hu => simpa using hP _ hd _ hu
  | more _ hd hu ih => simpa [or_imp, forall_and] using ⟨ih, hP _ hd _ hu⟩

theorem digitsValue_append (base : Nat) (ds : List Nat) (d : Nat) :
    digitsValue base (ds ++ [d]) = digitsValue base ds * base + d := by
  simp [digitsValue]

/-- The value of the digits is the number that they write, whatever reads each digit. -/
theorem digitsValue_map {value : CodeUnit → Nat} (h : Digits base n t)
    (hvalue : ∀ d < base, ∀ u, IsDigit d u → value u = d) : digitsValue base (t.map value) = n := by
  induction h with
  | one hd hu => simp [digitsValue, hvalue _ hd _ hu]
  | more _ hd hu ih =>
    rw [List.map_append, List.map_singleton, digitsValue_append, ih, hvalue _ hd _ hu]

theorem isDigit (h : Digits 10 n t) : ∀ u ∈ t, CodeUnit.isDigit u = true :=
  h.forall_mem fun _ hd _ hu => (hu.decimal hd).1

theorem mapM_hexValue? (h : Digits base n t) (hbase : base ≤ 16) :
    ∃ ds, t.mapM (fun u => (CodeUnit.hexValue? u).filter (· < base)) = some ds ∧
      digitsValue base ds = n := by
  have hread {d : Nat} {u : CodeUnit} (hd : d < base) (hu : IsDigit d u) :
      (CodeUnit.hexValue? u).filter (· < base) = some d := by
    rw [hu.hexValue?_eq (by omega)]
    simp [hd]
  induction h with
  | @one d u hd hu => exact ⟨[d], by simp [hread hd hu], by simp [digitsValue]⟩
  | @more n d t u _ hd hu ih =>
    obtain ⟨ds, hds, hvalue⟩ := ih
    exact ⟨ds ++ [d], by simp [List.mapM_append, hds, hread hd hu],
      by rw [digitsValue_append, hvalue]⟩

end Digits

/-! ## § Numerals -/

namespace Numeral

/-- A numeral starts with a decimal digit. -/
theorem exists_cons (h : Numeral n t) : ∃ u rest, t = u :: rest ∧ CodeUnit.isDigit u = true := by
  cases h with
  | decimal ht =>
    obtain ⟨u, rest, rfl⟩ := List.exists_cons_of_ne_nil ht.ne_nil
    exact ⟨u, rest, rfl, ht.isDigit u List.mem_cons_self⟩
  | hexadecimal ht => exact ⟨0x30, _, rfl, by decide⟩

theorem not_blank (h : Numeral n t) :
    ∀ u ∈ t, CodeUnit.isBlank u = false ∧ CodeUnit.isLineEnd u = false := by
  cases h with
  | decimal ht => exact ht.forall_mem fun d hd u hu => hu.not_blank (by omega)
  | hexadecimal ht =>
    have ht := ht.forall_mem fun d hd u hu => hu.not_blank hd
    exact List.forall_mem_cons.mpr ⟨by decide, List.forall_mem_cons.mpr ⟨by decide, ht⟩⟩

theorem solid (h : Numeral n t) : t.Solid := by
  obtain ⟨u, rest, rfl, -⟩ := h.exists_cons
  exact Text.solid_of_forall (List.cons_ne_nil u rest) fun v hv => (h.not_blank v hv).1

end Numeral

/-! ## § Reading -/

theorem ne_of_isDigit (hu : CodeUnit.isDigit u = true) {v : CodeUnit}
    (hv : CodeUnit.isDigit v = false) : u ≠ v := by
  rintro rfl
  exact absurd hu (by simp [hv])

/-- No letter after a zero announces another base. -/
theorem readInBase?_decimal (h : Digits 10 n t) : readInBase? t = none := by
  unfold readInBase?
  split
  · next letter rest =>
    have hletter : CodeUnit.isDigit letter = true := h.isDigit letter (by simp)
    have hne {v : CodeUnit} (hv : CodeUnit.isDigit v = false) : letter ≠ v :=
      ne_of_isDigit hletter hv
    simp [@hne 0x78 rfl, @hne 0x58 rfl, @hne 0x6F rfl, @hne 0x4F rfl, @hne 0x62 rfl,
      @hne 0x42 rfl]
  · rfl

theorem readInBase?_hexadecimal (h : Digits 16 n t) :
    readInBase? (0x30 :: 0x78 :: t) = some n := by
  obtain ⟨ds, hread, hvalue⟩ := h.mapM_hexValue? (Nat.le_refl 16)
  simp [readInBase?, h.ne_nil, hread, hvalue]

theorem readDecimal?_eq (h : Digits 10 n t) : readDecimal? t = some (n, 0) := by
  have hspan : spanDigits t = (t.map (·.toNat - 0x30), []) := by
    have hall : ∀ u ∈ t, CodeUnit.isDigit u = true := h.isDigit
    rw [spanDigits, List.takeWhile_eq_self_iff.mpr hall, List.dropWhile_eq_nil_iff.mpr hall]
  have hvalue : digitsValue 10 (t.map (·.toNat - 0x30)) = n :=
    h.digitsValue_map fun d hd u hu => (hu.decimal hd).2
  simp [readDecimal?, hspan, readExponent?, h.ne_nil, hvalue]

/-- A whole number that is not rounded. -/
theorem ofDecimal_natCast (hn : n < 2 ^ 53) : ofDecimal false n 0 = finite n := by
  by_cases hzero : n = 0
  · subst hzero
    rfl
  have hlength : (Nat.toDigits 10 n).length ≤ 53 :=
    Nat.toDigits_length 10 n 53 (by decide) (hn.trans (by decide))
  have hrat : ofRat (n * (10 : Rat) ^ (0 : Int)) = finite n := by
    rw [zpow_zero, mul_one]
    exact ofInt_of_lt (n := n) (by simpa using hn)
  have habove : ¬ 400 < ((Nat.toDigits 10 n).length : Int) + 0 := by omega
  have hbelow : ¬ ((Nat.toDigits 10 n).length : Int) + 0 < -400 := by omega
  simp only [ofDecimal, if_neg hzero, if_neg habove, if_neg hbelow, hrat, Bool.false_eq_true,
    if_false]

/-- The numerals of a number are read as it. -/
theorem ofText_numeral (h : Numeral n t) (hn : n < 2 ^ 53) : ofText t = finite n := by
  have htrim : t.trim = t := h.solid.trim_append (List.forall_mem_nil _)
  obtain ⟨u, rest, hcons, hdigit⟩ := h.exists_cons
  have hempty : t.isEmpty = false := by rw [hcons]; rfl
  rw [ofText, htrim, hempty, if_neg (by decide)]
  cases h with
  | hexadecimal ht =>
    rw [readInBase?_hexadecimal ht]
    exact ofInt_of_lt (n := n) (by simpa using hn)
  | decimal ht =>
    have hminus : u ≠ 0x2D := ne_of_isDigit hdigit (by decide)
    have hplus : u ≠ 0x2B := ne_of_isDigit hdigit (by decide)
    have hinfinity : u :: rest ≠ Text.ofString "Infinity" := by
      intro heq
      exact ne_of_isDigit hdigit (v := 0x49) (by decide) (List.cons.inj heq).1
    subst hcons
    rw [readInBase?_decimal ht]
    dsimp only
    split
    · next r heq => exact absurd (List.cons.inj heq).1 hminus
    · next r heq => exact absurd (List.cons.inj heq).1 hplus
    · simp only [if_neg hinfinity, readDecimal?_eq ht, ofDecimal_natCast hn]

end Number

end ChatModeration
