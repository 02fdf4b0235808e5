/-
ChatModeration.Proofs.WholeNumbers — arithmetic of whole numbers.

A number is rounded to 53 significant bits, so that whole numbers stay as they
are as long as they end in enough zeros (`ofInt_of_dvd`), and one that is too
long is rounded to a whole number that is no shorter (`le_ofInt`).  `toInt?`
reads a whole number off, whichever zero it is; the operations are those of the
integers wherever their result does not have to be rounded.

The main statement is `ofNumber_add_seconds`: a number of seconds after a moment
is the moment that one expects, up to the farthest moment, and none beyond it.
-/
import ChatModeration.Instant
import Mathlib.Algebra.Order.Field.Rat
import Mathlib.Tactic.Linarith

namespace ChatModeration

namespace Number

variable {x y : Number} {m n k : Int} {q : Rat}

/-! ## § Rounding -/

theorem nearestEven_intCast (n : Int) : nearestEven n = n := by
  have hhalf : ((n : Rat) - n < 1 / 2) := by norm_num
  simp only [nearestEven, Rat.floor_intCast, if_pos hhalf]

theorem le_nearestEven (h : (m : Rat) ≤ q) : m ≤ nearestEven q := by
  have hfloor : m ≤ q.floor := Rat.le_floor_iff.mpr h
  unfold nearestEven
  dsimp only
  split
  · exact hfloor
  · split
    · omega
    · split <;> omega

theorem spacing_pos (q : Rat) : 0 < spacing q := Rat.zpow_pos (by decide)

/-- What is a multiple of its spacing is not rounded. -/
theorem ofRat_of_multiple (hm : q = m * spacing q) (hlt : |q| < (2 : Rat) ^ (1024 : Nat)) :
    ofRat q = finite q := by
  by_cases hq : q = 0
  · rw [hq]
    rfl
  have hquotient : q / spacing q = m := by
    rw [div_eq_iff (ne_of_gt (spacing_pos q))]
    exact hm
  have hrounded : nearestEven (q / spacing q) * spacing q = q := by
    rw [hquotient, nearestEven_intCast]
    exact hm.symm
  obtain ⟨hgt, hlt⟩ := abs_lt.mp hlt
  simp only [ofRat, if_neg hq, hrounded]
  rw [if_neg (not_le.mpr hlt), if_neg (not_le.mpr hgt)]

/-- The exponent of a whole number is the place of its first bit. -/
theorem binaryExponent_intCast (hn : n ≠ 0) : binaryExponent n = Nat.log2 n.natAbs := by
  have hlog : 2 ^ n.natAbs.log2 ≤ n.natAbs := Nat.log2_self_le (Int.natAbs_ne_zero.mpr hn)
  have hone : Nat.log2 1 = 0 := by decide
  unfold binaryExponent
  simp only [Rat.num_intCast, Rat.den_intCast, hone]
  rw [if_neg]
  · simp
  · simpa using hlog

theorem spacing_intCast (hn : n ≠ 0) : spacing n = (2 : Rat) ^ ((n.natAbs.log2 : Int) - 52) := by
  rw [spacing, binaryExponent_intCast hn, max_eq_left (by omega)]

/-- A whole number that ends in enough zeros stays as it is. -/
theorem ofInt_of_dvd (hlt : n.natAbs < 2 ^ 56) (hdvd : (2 : Int) ^ (n.natAbs.log2 - 52) ∣ n) :
    ofInt n = finite n := by
  by_cases hn : n = 0
  · rw [hn]
    rfl
  obtain ⟨m, hm⟩ : ∃ m : Int, (n : Rat) = m * spacing n := by
    obtain ⟨m, hm⟩ := hdvd
    rw [spacing_intCast hn]
    by_cases hlong : 52 ≤ n.natAbs.log2
    · refine ⟨m, ?_⟩
      have hexponent : (n.natAbs.log2 : Int) - 52 = ((n.natAbs.log2 - 52 : Nat) : Int) := by omega
      rw [hexponent, Rat.zpow_natCast]
      conv_lhs => rw [hm]
      push_cast
      exact mul_comm _ _
    · -- the spacing is a fraction, of which every whole number is a multiple
      refine ⟨n * 2 ^ (52 - n.natAbs.log2), ?_⟩
      have hexponent : (n.natAbs.log2 : Int) - 52 = -((52 - n.natAbs.log2 : Nat) : Int) := by omega
      rw [hexponent, Rat.zpow_neg, Rat.zpow_natCast]
      push_cast
      rw [mul_assoc, mul_inv_cancel₀ (by positivity), mul_one]
  have hshort : |(n : Rat)| < (2 : Rat) ^ (56 : Nat) := by
    rw [← Int.cast_abs, Int.abs_eq_natAbs]
    exact_mod_cast hlt
  exact ofRat_of_multiple hm (hshort.trans (pow_lt_pow_right₀ one_lt_two (by decide)))

/-- Whole numbers of at most 53 bits stay as they are. -/
theorem ofInt_of_lt (h : n.natAbs < 2 ^ 53) : ofInt n = finite n := by
  have hlog : n.natAbs.log2 - 52 = 0 := by
    by_cases hn : n = 0
    · simp [hn]
    · have hlog := (Nat.log2_lt (Int.natAbs_ne_zero.mpr hn)).mpr h
      omega
  refine ofInt_of_dvd (h.trans (by decide)) ?_
  rw [hlog]
  exact one_dvd n

/-- Seconds in milliseconds stay as they are up to 56 bits, since they end in three zeros. -/
theorem ofInt_mul_thousand (h : (k * 1000).natAbs < 2 ^ 56) :
    ofInt (k * 1000) = finite ((k * 1000 : Int)) := by
  refine ofInt_of_dvd h ?_
  have height : (2 : Int) ^ 3 ∣ k * 1000 := ⟨k * 125, by omega⟩
  refine (pow_dvd_pow (2 : Int) ?_).trans height
  by_cases hk : k * 1000 = 0
  · simp [hk]
  · have hlog := (Nat.log2_lt (Int.natAbs_ne_zero.mpr hk)).mpr h
    omega

/-- What is rounded to something positive may become infinite, but not negative. -/
theorem ofRat_of_rounded_pos {r : Rat} (hq : q ≠ 0)
    (hr : nearestEven (q / spacing q) * spacing q = r) (hpos : 0 < r) :
    ofRat q = infinity false ∨ ofRat q = finite r := by
  have hnot : ¬ r ≤ -(2 : Rat) ^ (1024 : Nat) :=
    not_le.mpr (lt_trans (neg_lt_zero.mpr (by positivity)) hpos)
  simp only [ofRat, if_neg hq]
  rw [hr, if_neg (ne_of_gt hpos), if_neg hnot]
  split
  · exact .inl rfl
  · exact .inr rfl

/-- The 53 bits that are kept of a number have the first one in its place. -/
theorem two_pow_le_quotient {n zeros : Nat} (hn : n ≠ 0) (hzeros : n.log2 = 52 + zeros) :
    2 ^ 52 ≤ nearestEven (((n : Int) : Rat) / (2 : Rat) ^ zeros) := by
  have hself : 2 ^ (52 + zeros) ≤ n := hzeros ▸ Nat.log2_self_le hn
  refine le_nearestEven ?_
  rw [le_div_iff₀ (by positivity)]
  rw [pow_add] at hself
  exact_mod_cast hself

/-- A long whole number is rounded to a whole number that is as long, or to an infinity. -/
theorem le_ofInt (bits : Nat) (hbits : 52 ≤ bits) (h : 2 ^ bits ≤ n) :
    ofInt n = infinity false ∨ ∃ r : Int, ofInt n = finite r ∧ 2 ^ bits ≤ r := by
  obtain ⟨N, rfl⟩ := Int.eq_ofNat_of_zero_le (le_trans (by positivity) h)
  have hN : 2 ^ bits ≤ N := by exact_mod_cast h
  have hne : N ≠ 0 := ne_of_gt (lt_of_lt_of_le (by positivity) hN)
  have hn : (N : Int) ≠ 0 := Int.natCast_ne_zero.mpr hne
  have hlog : bits ≤ N.log2 := (Nat.le_log2 hne).mpr hN
  obtain ⟨zeros, hzeros⟩ := Nat.exists_eq_add_of_le (hbits.trans hlog)
  have hspacing : spacing ((N : Int) : Rat) = (2 : Rat) ^ zeros := by
    rw [spacing_intCast hn, Int.natAbs_natCast, hzeros, ← Rat.zpow_natCast]
    congr 1
    omega
  let quotient := nearestEven (((N : Int) : Rat) / (2 : Rat) ^ zeros)
  have hlong : 2 ^ bits ≤ quotient * 2 ^ zeros := by
    calc (2 : Int) ^ bits ≤ 2 ^ (52 + zeros) := pow_le_pow_right₀ one_le_two (hzeros ▸ hlog)
      _ = 2 ^ 52 * 2 ^ zeros := pow_add 2 52 zeros
      _ ≤ quotient * 2 ^ zeros :=
        Int.mul_le_mul_of_nonneg_right (two_pow_le_quotient hne hzeros) (by positivity)
  have hrounded : nearestEven (((N : Int) : Rat) / spacing ((N : Int) : Rat)) *
      spacing ((N : Int) : Rat) = ((quotient * 2 ^ zeros : Int) : Rat) := by
    rw [hspacing]
    push_cast
    rfl
  have hpos : (0 : Rat) < ((quotient * 2 ^ zeros : Int) : Rat) :=
    Int.cast_pos.mpr (lt_of_lt_of_le (by positivity) hlong)
  exact (ofRat_of_rounded_pos (Int.cast_ne_zero.mpr hn) hrounded hpos).imp_right
    fun hfinite => ⟨_, hfinite, hlong⟩

/-! ## § Operations -/

/-- A whole number is finite, or the negative zero. -/
theorem toInt?_eq_some : x.toInt? = some n ↔ x = finite n ∨ (x = negativeZero ∧ n = 0) := by
  cases x with
  | nan => simp [toInt?, toRat?]
  | infinity negative => simp [toInt?, toRat?]
  | negativeZero => simp [toInt?, toRat?, eq_comm]
  | finite q =>
    have hwhole : (if q.den = 1 then some q.num else none) = some n ↔ q = n := by
      constructor
      · intro h
        split at h
        · next hden => exact (Option.some.inj h) ▸ (Rat.den_eq_one_iff q).mp hden |>.symm
        · cases h
      · rintro rfl
        simp
    simpa [toInt?, toRat?] using hwhole

@[simp] theorem toInt?_intCast (n : Int) : (finite n).toInt? = some n :=
  toInt?_eq_some.mpr (.inl rfl)

/-- A sum that is not rounded. -/
theorem toInt?_add (hx : x.toInt? = some m) (hy : y.toInt? = some n)
    (hsum : ofInt (m + n) = finite ((m + n : Int))) : (x + y).toInt? = some (m + n) := by
  obtain rfl | ⟨rfl, rfl⟩ := toInt?_eq_some.mp hx
  · obtain rfl | ⟨rfl, rfl⟩ := toInt?_eq_some.mp hy
    · show (ofRat ((m : Rat) + n)).toInt? = some (m + n)
      rw [ofInt] at hsum
      rw [← Int.cast_add, hsum, toInt?_intCast]
    · rw [add_zero]
      exact hx
  · rw [zero_add]
    obtain rfl | ⟨rfl, rfl⟩ := toInt?_eq_some.mp hy
    · exact toInt?_intCast n
    · rfl

theorem toInt?_neg (hx : x.toInt? = some n) : (-x).toInt? = some (-n) := by
  obtain rfl | ⟨rfl, rfl⟩ := toInt?_eq_some.mp hx
  · show (neg (finite n)).toInt? = some (-n)
    rw [neg]
    split
    · next hzero =>
      rw [Int.cast_eq_zero.mp hzero]
      rfl
    · rw [← Int.cast_neg, toInt?_intCast]
  · rfl

theorem toInt?_sub (hx : x.toInt? = some m) (hy : y.toInt? = some n)
    (hdiff : ofInt (m - n) = finite ((m - n : Int))) : (x - y).toInt? = some (m - n) :=
  toInt?_add hx (toInt?_neg hy) hdiff

/-- Seconds in milliseconds; only from the negative zero does one not get a positive one. -/
theorem mul_thousand (hx : x.toInt? = some k) (hk : 0 ≤ k) :
    x * 1000 = ofInt (k * 1000) ∨ (k = 0 ∧ x * 1000 = negativeZero) := by
  obtain rfl | ⟨rfl, rfl⟩ := toInt?_eq_some.mp hx
  · refine .inl ?_
    have hsign : (finite (k : Rat)).isNegative = false := by simpa [isNegative] using hk
    have hthousand : (1000 : Number) = finite ((1000 : Int) : Rat) := rfl
    have hproduct : ((k : Rat) * ((1000 : Int) : Rat)) = ((k * 1000 : Int) : Rat) := by push_cast; rfl
    show mul (finite k) 1000 = _
    simp only [hthousand, mul, hsign, toRat?, Option.getD_some]
    split
    · next hzero =>
      rw [Int.cast_eq_zero.mp (hproduct.symm.trans hzero)]
      rfl
    · exact congrArg ofRat hproduct
  · exact .inr ⟨rfl, by decide +kernel⟩

theorem toInt?_mul_thousand (hx : x.toInt? = some k) (hk : 0 ≤ k)
    (hlt : (k * 1000).natAbs < 2 ^ 56) : (x * 1000).toInt? = some (k * 1000) := by
  obtain h | ⟨rfl, h⟩ := mul_thousand hx hk
  · rw [h, ofInt_mul_thousand hlt, toInt?_intCast]
  · rw [h]
    rfl

@[simp] theorem lt_intCast (m n : Int) : lt (finite m) (finite n) = decide (m < n) := by
  simp [lt, toRat?]

theorem max_zero (hx : x.toInt? = some n) : x.max 0 = finite ((Max.max n 0 : Int)) := by
  obtain rfl | ⟨rfl, rfl⟩ := toInt?_eq_some.mp hx
  · have hzero : (0 : Number) = finite ((0 : Int) : Rat) := rfl
    simp only [hzero, Number.max, lt_intCast, reduceCtorEq, false_or, if_false, decide_eq_true_eq]
    split
    · next hneg => rw [max_eq_right hneg.le]
    · next hneg =>
      rw [max_eq_left (not_lt.mp hneg)]
      split <;> rfl
  · rfl

theorem min_intCast (m n : Int) : (finite m).min (finite n) = finite ((Min.min m n : Int)) := by
  simp only [Number.min, lt_intCast, reduceCtorEq, or_false, if_false, decide_eq_true_eq]
  split
  · next hlt => rw [min_eq_left hlt.le]
  · next hlt =>
    split
    · next hlt' => rw [min_eq_right hlt'.le]
    · next hlt' => rw [le_antisymm (not_lt.mp hlt') (not_lt.mp hlt), min_self]

end Number

/-! ## § Moments -/

namespace Instant

open Number

variable {x y : Number} {m n : Int}

theorem ofNumber_whole (hx : x.toInt? = some n) :
    ofNumber x = if n ≤ farthest ∧ -farthest ≤ n then .at n else .invalid := by
  obtain rfl | ⟨rfl, rfl⟩ := toInt?_eq_some.mp hx
  · have hbounds : ((n : Rat) ≤ farthest ∧ -(farthest : Rat) ≤ n) ↔
        (n ≤ farthest ∧ -farthest ≤ n) := by
      rw [← Int.cast_neg, Int.cast_le, Int.cast_le]
    simp only [ofNumber, toRat?, hbounds, Rat.num_intCast, Rat.den_intCast]
    rw [Nat.cast_one, Int.tdiv_one]
  · rfl

/-- A number of milliseconds after a moment, up to the farthest moment. -/
theorem ofNumber_add (hx : x.toInt? = some m) (hm : |m| ≤ farthest) (hy : y.toInt? = some n)
    (hn : 0 ≤ n) :
    ofNumber (x + y) = if m + n ≤ farthest then .at (m + n) else .invalid := by
  have hfarthest : farthest = 8640000000000000 := rfl
  obtain ⟨hfirst, hlast⟩ := abs_le.mp hm
  by_cases hshort : (m + n).natAbs < 2 ^ 53
  · rw [ofNumber_whole (toInt?_add hx hy (ofInt_of_lt hshort))]
    have hafter : -farthest ≤ m + n := by omega
    simp only [hafter, and_true]
  · have hlate : farthest < m + n := by omega
    rw [if_neg (not_le.mpr hlate)]
    obtain rfl | ⟨rfl, rfl⟩ := toInt?_eq_some.mp hy
    · obtain rfl | ⟨rfl, rfl⟩ := toInt?_eq_some.mp hx
      · have hsum : finite (m : Rat) + finite (n : Rat) = ofInt (m + n) := by
          rw [ofInt, Int.cast_add]
          rfl
        rw [hsum]
        obtain h | ⟨r, h, hr⟩ := le_ofInt (n := m + n) 53 (by decide) (by omega)
        · rw [h]
          rfl
        · rw [h, ofNumber_whole (toInt?_intCast r), if_neg (by omega)]
      · show ofNumber (finite n) = .invalid
        rw [ofNumber_whole (toInt?_intCast n), if_neg (by omega)]
    · omega

/-- A number of seconds after a moment, up to the farthest moment. -/
theorem ofNumber_add_seconds {k : Int} (hx : x.toInt? = some m) (hm : |m| ≤ farthest)
    (hy : y.toInt? = some k) (hk : 0 ≤ k) :
    ofNumber (x + y * 1000) = if m + k * 1000 ≤ farthest then .at (m + k * 1000) else .invalid := by
  have hfarthest : farthest = 8640000000000000 := rfl
  by_cases hshort : (k * 1000).natAbs < 2 ^ 56
  · exact ofNumber_add hx hm (toInt?_mul_thousand hy hk hshort) (by omega)
  · -- the milliseconds may have been rounded, and lead beyond the farthest moment all the same
    obtain ⟨hfirst, hlast⟩ := abs_le.mp hm
    have hlate : ¬ m + k * 1000 ≤ farthest := by omega
    rw [if_neg hlate]
    obtain h | ⟨rfl, -⟩ := mul_thousand hy hk
    · rw [h]
      obtain h | ⟨r, h, hr⟩ := le_ofInt (n := k * 1000) 56 (by decide) (by omega)
      · rw [h]
        obtain rfl | ⟨rfl, rfl⟩ := toInt?_eq_some.mp hx <;> rfl
      · rw [h, ofNumber_add hx hm (toInt?_intCast r) (by omega), if_neg (by omega)]
    · exact absurd (show (0 * 1000 : Int).natAbs < 2 ^ 56 by decide) hshort

/-- From a moment some seconds later back to the first one. -/
theorem toInt?_since {k : Int} (hx : x.toInt? = some m) (hm : |m| ≤ farthest)
    (hk : 0 ≤ k) (h : m + k * 1000 ≤ farthest) :
    ((Instant.at (m + k * 1000)).toNumber - x).toInt? = some (k * 1000) := by
  have hfarthest : farthest = 8640000000000000 := rfl
  obtain ⟨hfirst, hlast⟩ := abs_le.mp hm
  have hmoment : ofInt (m + k * 1000) = finite ((m + k * 1000 : Int)) := ofInt_of_lt (by omega)
  have hback : m + k * 1000 - m = k * 1000 := by omega
  rw [toNumber, hmoment, toInt?_sub (toInt?_intCast _) hx, hback]
  rw [hback]
  exact ofInt_mul_thousand (by omega)

end Instant

end ChatModeration
