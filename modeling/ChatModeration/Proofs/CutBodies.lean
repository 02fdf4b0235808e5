/-
ChatModeration.Proofs.CutBodies — where the body of an alert is cut.

A surrogate is lone when its other half does not stand beside it.  A cut takes
the other half away from at most one unit, the last one that is kept: so when
no surrogate of the whole is lone, it suffices to look at this unit.  If it is a
high surrogate it goes as well, and the unit before it cannot be another one,
because that one would have no low surrogate after it.

The main statement is `truncate_keeps_longest`.
-/
import ChatModeration.Alert

namespace ChatModeration

/-! ## § Lone surrogates -/

namespace CodeUnit

/-- No unit is both halves of a pair. -/
theorem not_low_of_high {u : CodeUnit} (h : isHighSurrogate u = true) : isLowSurrogate u = false := by
  simp only [isHighSurrogate, isLowSurrogate, Bool.and_eq_true, Bool.and_eq_false_iff,
    decide_eq_true_eq, decide_eq_false_iff_not, UInt16.le_iff_toNat_le] at h ⊢
  simp at h ⊢
  omega

end CodeUnit

namespace Text

/-- No surrogate is lone: a low one stands after each high one, and a high one before each low one. -/
structure Paired (t : Text) : Prop where
  high : ∀ i u, t[i]? = some u → CodeUnit.isHighSurrogate u = true →
    ∃ v, t[i + 1]? = some v ∧ CodeUnit.isLowSurrogate v = true
  low : ∀ i u, t[i]? = some u → CodeUnit.isLowSurrogate u = true →
    ∃ j v, j + 1 = i ∧ t[j]? = some v ∧ CodeUnit.isHighSurrogate v = true

variable {s t : Text} {n : Nat}

theorem paired_of_no_surrogate (h : ∀ u ∈ t, CodeUnit.isHighSurrogate u = false ∧
    CodeUnit.isLowSurrogate u = false) : t.Paired := by
  refine ⟨fun i u hu hhigh => ?_, fun i u hu hlow => ?_⟩
  · simp [(h u (List.mem_of_getElem? hu)).1] at hhigh
  · simp [(h u (List.mem_of_getElem? hu)).2] at hlow

theorem paired_pair {u v : CodeUnit} (hu : CodeUnit.isHighSurrogate u = true)
    (hv : CodeUnit.isLowSurrogate v = true) : Paired [u, v] := by
  refine ⟨fun i w hw hhigh => ?_, fun i w hw hlow => ?_⟩
  · match i with
    | 0 => exact ⟨v, rfl, hv⟩
    | 1 =>
      obtain rfl : v = w := Option.some.inj hw
      simp [CodeUnit.not_low_of_high hhigh] at hv
    | i + 2 => cases hw
  · match i with
    | 0 =>
      obtain rfl : u = w := Option.some.inj hw
      simp [CodeUnit.not_low_of_high hu] at hlow
    | 1 => exact ⟨0, u, rfl, rfl, hu⟩
    | i + 2 => cases hw

theorem Paired.append (hs : s.Paired) (ht : t.Paired) : (s ++ t).Paired := by
  refine ⟨fun i u hu hhigh => ?_, fun i u hu hlow => ?_⟩
  · by_cases hi : i < s.length
    · rw [List.getElem?_append_left hi] at hu
      obtain ⟨v, hv, hlow⟩ := hs.high i u hu hhigh
      have hnext : i + 1 < s.length := (List.getElem?_eq_some_iff.mp hv).1
      exact ⟨v, (List.getElem?_append_left hnext).trans hv, hlow⟩
    · rw [List.getElem?_append_right (by omega)] at hu
      obtain ⟨v, hv, hlow⟩ := ht.high _ u hu hhigh
      refine ⟨v, ?_, hlow⟩
      rw [List.getElem?_append_right (by omega), Nat.sub_add_comm (by omega)]
      exact hv
  · by_cases hi : i < s.length
    · rw [List.getElem?_append_left hi] at hu
      obtain ⟨j, v, rfl, hv, hhigh⟩ := hs.low i u hu hlow
      exact ⟨j, v, rfl, (List.getElem?_append_left (by omega)).trans hv, hhigh⟩
    · rw [List.getElem?_append_right (by omega)] at hu
      obtain ⟨j, v, hj, hv, hhigh⟩ := ht.low _ u hu hlow
      refine ⟨s.length + j, v, by omega, ?_, hhigh⟩
      rw [List.getElem?_append_right (by omega), Nat.add_sub_cancel_left]
      exact hv

theorem getElem?_take_eq_some {i : Nat} {u : CodeUnit} :
    (t.take n)[i]? = some u ↔ i < n ∧ t[i]? = some u := by
  rw [List.getElem?_take]
  split <;> simp [*]

/-- A beginning has no lone surrogate when the cut does not come right after a high one. -/
theorem Paired.take (h : t.Paired)
    (hlast : ∀ i u, i + 1 = n → t[i]? = some u → CodeUnit.isHighSurrogate u = false) :
    Paired (t.take n) := by
  refine ⟨fun i u hu hhigh => ?_, fun i u hu hlow => ?_⟩
  · obtain ⟨hi, hu⟩ := getElem?_take_eq_some.mp hu
    obtain ⟨v, hv, hlow⟩ := h.high i u hu hhigh
    refine ⟨v, getElem?_take_eq_some.mpr ⟨?_, hv⟩, hlow⟩
    have hcut : i + 1 ≠ n := fun hn => by simp [hlast i u hn hu] at hhigh
    omega
  · obtain ⟨hi, hu⟩ := getElem?_take_eq_some.mp hu
    obtain ⟨j, v, rfl, hv, hhigh⟩ := h.low i u hu hlow
    exact ⟨j, v, rfl, getElem?_take_eq_some.mpr ⟨by omega, hv⟩, hhigh⟩

/-- The last unit of a text without lone surrogates is no high one. -/
theorem Paired.last (h : t.Paired) {i : Nat} {u : CodeUnit} (hi : i + 1 = t.length)
    (hu : t[i]? = some u) : CodeUnit.isHighSurrogate u = false := by
  rw [Bool.eq_false_iff]
  intro hhigh
  obtain ⟨v, hv, -⟩ := h.high i u hu hhigh
  have hlt := (List.getElem?_eq_some_iff.mp hv).1
  omega

/-- Before a high surrogate there is no other one. -/
theorem Paired.before (h : t.Paired) {i : Nat} {u v : CodeUnit} (hu : t[i]? = some u)
    (hv : t[i + 1]? = some v) (hhigh : CodeUnit.isHighSurrogate v = true) :
    CodeUnit.isHighSurrogate u = false := by
  rw [Bool.eq_false_iff]
  intro hother
  obtain ⟨w, hw, hlow⟩ := h.high i u hu hother
  obtain rfl : v = w := Option.some.inj (hv.symm.trans hw)
  simp [CodeUnit.not_low_of_high hhigh] at hlow

end Text

/-! ## § The cut -/

namespace Alert

open ChatModeration.Text

variable {body : Text}

/-- What there is room for comes right after a high surrogate. -/
def CutsPair (body : Text) : Prop :=
  ∃ i u, i + 1 = maxLength ∧ body[i]? = some u ∧ CodeUnit.isHighSurrogate u = true

theorem truncate_of_le (h : body.length ≤ maxLength) : truncate body = body := if_pos h

/-- The last unit that there is room for. -/
theorem getLast?_take (h : maxLength < body.length) :
    (body.take maxLength).getLast?.any CodeUnit.isHighSurrogate = true ↔ CutsPair body := by
  have hlength : (body.take maxLength).length = maxLength := by
    rw [List.length_take]
    omega
  have hlast : (body.take maxLength).getLast? = body[maxLength - 1]? := by
    rw [List.getLast?_eq_getElem?, hlength, List.getElem?_take_of_lt (by decide)]
  rw [hlast, Option.any_eq_true]
  constructor
  · rintro ⟨u, hu, hhigh⟩
    exact ⟨maxLength - 1, u, rfl, hu, hhigh⟩
  · rintro ⟨i, u, hi, hu, hhigh⟩
    obtain rfl : i = maxLength - 1 := by omega
    exact ⟨u, hu, hhigh⟩

/-- A long body is kept as far as there is room. -/
theorem truncate_of_whole (h : maxLength < body.length) (hcut : ¬ CutsPair body) :
    truncate body = body.take maxLength ++ cutMark := by
  rw [truncate, if_neg (by omega)]
  simp only [if_neg (mt (getLast?_take h).mp hcut)]

/-- When the cut would part a pair, its first half is left out as well. -/
theorem truncate_of_cutsPair (h : maxLength < body.length) (hcut : CutsPair body) :
    truncate body = body.take (maxLength - 1) ++ cutMark := by
  rw [truncate, if_neg (by omega)]
  simp only [if_pos ((getLast?_take h).mpr hcut)]
  rw [List.dropLast_eq_take, List.length_take, List.take_take]
  congr 2
  omega

/-- What is kept of a long body. -/
structure Keeps (body kept : Text) : Prop where
  truncate_eq : truncate body = kept ++ cutMark
  is_front : kept <+: body
  length : kept.length = maxLength ∨ kept.length + 1 = maxLength
  paired : body.Paired → kept.Paired
  longest : body.Paired → ∀ p, p <+: body → p.length ≤ maxLength → Paired p → p.length ≤ kept.length

theorem exists_keeps (h : maxLength < body.length) : ∃ kept, Keeps body kept := by
  have hlength : (body.take maxLength).length = maxLength := by
    rw [List.length_take]
    omega
  by_cases hcut : CutsPair body
  · refine ⟨_, truncate_of_cutsPair h hcut, List.take_prefix _ _, ?_, fun hbody => ?_,
      fun hbody p hp hle hpaired => ?_⟩
    · rw [List.length_take]
      omega
    · obtain ⟨i, v, hi, hv, hhigh⟩ := hcut
      refine hbody.take fun j u hj hu => hbody.before hu ?_ hhigh
      rwa [hj, ← hi]
    · -- a longer beginning would end with the high surrogate
      obtain ⟨i, v, hi, hv, hhigh⟩ := hcut
      have hshorter : p.length ≠ maxLength := by
        intro hlast
        obtain ⟨rest, rfl⟩ := hp
        rw [List.getElem?_append_left (by omega)] at hv
        simp [hpaired.last (by omega) hv] at hhigh
      rw [List.length_take]
      omega
  · refine ⟨_, truncate_of_whole h hcut, List.take_prefix _ _, Or.inl hlength, fun hbody => ?_,
      fun hbody p hp hle hpaired => by omega⟩
    refine hbody.take fun i u hi hu => ?_
    rw [Bool.eq_false_iff]
    exact fun hhigh => hcut ⟨i, u, hi, hu, hhigh⟩

theorem cutMark_paired : Paired cutMark := by
  have hplain : (cutMark.all fun u =>
      !CodeUnit.isHighSurrogate u && !CodeUnit.isLowSurrogate u) = true := by decide
  refine paired_of_no_surrogate fun u hu => ?_
  simpa using List.all_eq_true.mp hplain u hu

theorem truncate_paired (h : body.Paired) : Paired (truncate body) := by
  by_cases hle : body.length ≤ maxLength
  · rwa [truncate_of_le hle]
  · obtain ⟨kept, hkept⟩ := exists_keeps (Nat.lt_of_not_le hle)
    rw [hkept.truncate_eq]
    exact (hkept.paired h).append cutMark_paired

theorem length_truncate_le (body : Text) :
    (truncate body).length ≤ maxLength + cutMark.length := by
  by_cases hle : body.length ≤ maxLength
  · rw [truncate_of_le hle]
    omega
  · obtain ⟨kept, hkept⟩ := exists_keeps (Nat.lt_of_not_le hle)
    have hlength := hkept.length
    rw [hkept.truncate_eq, List.length_append]
    omega

/-- A long body stays as it is only when it is what a cut leaves behind. -/
theorem truncate_eq_self_iff :
    truncate body = body ↔
      body.length ≤ maxLength ∨ ¬ CutsPair body ∧ body = body.take maxLength ++ cutMark := by
  by_cases hle : body.length ≤ maxLength
  · simp [hle, truncate_of_le hle]
  have hlong : maxLength < body.length := Nat.lt_of_not_le hle
  by_cases hcut : CutsPair body
  · -- the unit at the cut is a high surrogate, and a blank has come in its place
    have hne : truncate body ≠ body := by
      intro h
      obtain ⟨i, u, hi, hu, hhigh⟩ := hcut
      have hlength : (body.take (maxLength - 1)).length = i := by
        rw [List.length_take]
        omega
      have hsame := truncate_of_cutsPair hlong ⟨i, u, hi, hu, hhigh⟩
      rw [← h, hsame, List.getElem?_append_right (by omega), hlength, Nat.sub_self] at hu
      obtain rfl : (0x20 : CodeUnit) = u := Option.some.inj hu
      exact absurd hhigh (by decide)
    simp [hle, hcut, hne]
  · rw [truncate_of_whole hlong hcut]
    simp [hle, hcut, eq_comm]

/-- **Where a body is cut.**  A body for which there is room stays as it is; a longer one does only
when it is what a cut leaves behind.  Of every longer body a beginning is kept, with the mark after
it: all that there is room for, or one unit less.  So the outcome is never longer than the room and
the mark.  If no surrogate of the body is lone, then none of the outcome is, and what is kept is the
longest beginning for which there is room and of which no surrogate is lone. -/
theorem truncate_keeps_longest (body : Text) :
    (truncate body = body ↔
        body.length ≤ maxLength ∨ ¬ CutsPair body ∧ body = body.take maxLength ++ cutMark) ∧
      (maxLength < body.length →
        ∃ kept, truncate body = kept ++ cutMark ∧ kept <+: body ∧
          (kept.length = maxLength ∨ kept.length + 1 = maxLength) ∧
          (body.Paired → kept.Paired ∧
            ∀ p, p <+: body → p.length ≤ maxLength → Paired p → p.length ≤ kept.length)) ∧
      (truncate body).length ≤ maxLength + cutMark.length ∧
      (body.Paired → Paired (truncate body)) := by
  refine ⟨truncate_eq_self_iff, fun hlong => ?_, length_truncate_le body, truncate_paired⟩
  obtain ⟨kept, hkept⟩ := exists_keeps hlong
  exact ⟨kept, hkept.truncate_eq, hkept.is_front, hkept.length,
    fun hbody => ⟨hkept.paired hbody, hkept.longest hbody⟩⟩

/-- A body with a surrogate pair across the limit: the pair is left out as a whole. -/
theorem truncate_keeps_longest_pair :
    let body : Text := List.replicate (maxLength - 1) 0x61 ++ [0xD83D, 0xDE00]
    maxLength < body.length ∧ body.Paired ∧ Paired (truncate body) ∧
      ∃ kept, truncate body = kept ++ cutMark ∧ kept <+: body ∧ kept.length + 1 = maxLength ∧
        kept.Paired := by
  intro body
  have hroom : 0 < maxLength := by decide
  have hletters : (List.replicate (maxLength - 1) (0x61 : CodeUnit)).length = maxLength - 1 :=
    List.length_replicate
  have hlong : maxLength < body.length := by
    rw [List.length_append, hletters, List.length_cons, List.length_singleton]
    omega
  have hpaired : body.Paired := by
    refine (paired_of_no_surrogate fun u hu => ?_).append (paired_pair (by decide) (by decide))
    rw [List.eq_of_mem_replicate hu]
    decide
  obtain ⟨-, hcut, -, hwhole⟩ := truncate_keeps_longest body
  obtain ⟨kept, heq, hfront, hlength, hkept⟩ := hcut hlong
  refine ⟨hlong, hpaired, hwhole hpaired, kept, heq, hfront, ?_, (hkept hpaired).1⟩
  -- with one unit more it would end with the first half of the pair
  refine hlength.resolve_left fun hall => ?_
  have hend : maxLength - 1 + 1 = kept.length := (Nat.sub_add_cancel hroom).trans hall.symm
  have hlast : kept[maxLength - 1]? = some 0xD83D := by
    have hbody : body[maxLength - 1]? = some 0xD83D := by
      rw [List.getElem?_append_right (Nat.le_of_eq hletters), hletters, Nat.sub_self]
      rfl
    obtain ⟨rest, hrest⟩ := hfront
    rwa [← hrest, List.getElem?_append_left (Nat.lt_of_succ_le (Nat.le_of_eq hend))] at hbody
  have hhigh := (hkept hpaired).1.last hend hlast
  exact absurd hhigh (by decide)

/-- A long body that ends with the mark right where it is cut stays as it is. -/
theorem truncate_not_only_short :
    let body : Text := List.replicate maxLength 0x61 ++ cutMark
    ¬ (truncate body = body ↔ body.length ≤ maxLength) := by
  intro body h
  have hletters : (List.replicate maxLength (0x61 : CodeUnit)).length = maxLength :=
    List.length_replicate
  have hlong : ¬ body.length ≤ maxLength := by
    rw [List.length_append, hletters]
    have hmark : 0 < cutMark.length := by decide
    omega
  refine hlong (h.mp (truncate_eq_self_iff.mpr (Or.inr ⟨?_, ?_⟩)))
  · rintro ⟨i, u, hi, hu, hhigh⟩
    rw [List.getElem?_append_left (by omega), List.getElem?_replicate_of_lt (by omega)] at hu
    obtain rfl : (0x61 : CodeUnit) = u := Option.some.inj hu
    exact absurd hhigh (by decide)
  · rw [List.take_left' hletters]

end Alert

end ChatModeration
