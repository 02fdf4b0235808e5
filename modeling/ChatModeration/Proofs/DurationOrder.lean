/-
ChatModeration.Proofs.DurationOrder — durations are ordered, and the longer of
two is their join.

`Number.noGreater` orders the numbers other than `nan` by what they denote,
the negative zero just below the other zero.  `notLonger` puts the permanent
duration above all of them.  `longestOf` picks from a list of durations the
one that no other exceeds, without reference to `longerDuration`; that both
agree is `IsLongest.append` together with `longestOf_eq`.
-/
import ChatModeration.Sanction.Combine

namespace ChatModeration

/-! ## The member that dominates a list -/

/-- The first member that no member exceeds under `le`. -/
def topOf? {α : Type} (le : α → α → Bool) (xs : List α) : Option α :=
  xs.find? fun x => xs.all fun y => le y x

/-- A member that dominates the list is what `topOf?` finds, when no two members
dominate each other. -/
theorem topOf?_eq {α : Type} {le : α → α → Bool} {xs : List α} {x : α}
    (anti : ∀ y, le x y = true → le y x = true → y = x) (hx : x ∈ xs)
    (top : ∀ y ∈ xs, le y x = true) : topOf? le xs = some x := by
  unfold topOf?
  cases h : xs.find? fun x => xs.all fun y => le y x with
  | none =>
    have hx' := List.find?_eq_none.mp h x hx
    exact absurd (List.all_eq_true.mpr top) hx'
  | some y =>
    have hall := List.find?_some h
    have hy : le x y = true := List.all_eq_true.mp hall x hx
    rw [anti y hy (top y (List.mem_of_find?_eq_some h))]

theorem topOf?_nil {α : Type} (le : α → α → Bool) : topOf? le [] = none := rfl

/-! ## Numbers -/

namespace Number

/-- Finite and not below zero; the negative zero counts. -/
def NonNegative (x : Number) : Prop := ∃ q, x.toRat? = some q ∧ 0 ≤ q

theorem NonNegative.ne_nan {x : Number} (h : x.NonNegative) : x ≠ nan := by
  rintro rfl
  obtain ⟨q, hq, -⟩ := h
  cases hq

/-- Not greater than; of the two zeros the negative one is the lesser. -/
def noGreater (x y : Number) : Bool := lt x y || x = y || (x = negativeZero && y = finite 0)

theorem noGreater_refl (x : Number) : noGreater x x = true := by
  simp [noGreater]

theorem noGreater_trans {x y z : Number} (hxy : noGreater x y = true)
    (hyz : noGreater y z = true) : noGreater x z = true := by
  cases x <;> cases y <;> cases z <;> simp_all [noGreater, lt, toRat?] <;> grind

theorem noGreater_antisymm {x y : Number} (hxy : noGreater x y = true)
    (hyx : noGreater y x = true) : x = y := by
  cases x <;> cases y <;> simp_all [noGreater, lt, toRat?] <;> grind

theorem noGreater_total {x y : Number} (hx : x ≠ nan) (hy : y ≠ nan) :
    noGreater x y = true ∨ noGreater y x = true := by
  cases x <;> cases y <;> simp_all [noGreater, lt, toRat?] <;> grind

theorem max_of_noGreater {x y : Number} (hx : x ≠ nan) (hy : y ≠ nan)
    (h : noGreater x y = true) : x.max y = y := by
  cases x <;> cases y <;> simp_all [max, noGreater, lt, toRat?] <;> grind

theorem max_of_noGreater' {x y : Number} (hx : x ≠ nan) (hy : y ≠ nan)
    (h : noGreater y x = true) : x.max y = x := by
  cases x <;> cases y <;> simp_all [max, noGreater, lt, toRat?] <;> grind

end Number

/-! ## Durations -/

/-- At most as long as; the permanent duration is the longest. -/
def notLonger : Option Number → Option Number → Prop
  | _, none => True
  | none, some _ => False
  | some x, some y => x.noGreater y = true

/-- `d` is one of the durations, and none of them is longer. -/
def IsLongest (ds : List (Option Number)) (d : Option Number) : Prop :=
  d ∈ ds ∧ ∀ e ∈ ds, notLonger e d

/-- Permanent if one of the durations is, and otherwise the greatest number among them. -/
def longestOf (ds : List (Option Number)) : Option Number :=
  if none ∈ ds then none else topOf? Number.noGreater (ds.filterMap id)

theorem longestOf_eq {ds : List (Option Number)} {d : Option Number} (h : IsLongest ds d) :
    longestOf ds = d := by
  obtain ⟨hd, top⟩ := h
  unfold longestOf
  cases d with
  | none => rw [if_pos hd]
  | some x =>
    have hnone : none ∉ ds := fun hn => top none hn
    rw [if_neg hnone]
    refine topOf?_eq (fun y hxy hyx => Number.noGreater_antisymm hyx hxy) ?_ ?_
    · exact List.mem_filterMap.mpr ⟨some x, hd, rfl⟩
    · intro y hy
      obtain ⟨e, he, rfl⟩ := List.mem_filterMap.mp hy
      exact top (some y) he

theorem IsLongest.congr {ds es : List (Option Number)} {d : Option Number} (h : IsLongest ds d)
    (hmem : ∀ e, e ∈ ds ↔ e ∈ es) : IsLongest es d :=
  ⟨(hmem d).mp h.1, fun e he => h.2 e ((hmem e).mpr he)⟩

theorem isLongest_singleton (d : Option Number) : IsLongest [d] d := by
  refine ⟨List.mem_singleton.mpr rfl, fun e he => ?_⟩
  rw [List.mem_singleton.mp he]
  cases d with
  | none => trivial
  | some x => exact Number.noGreater_refl x

theorem notLonger_trans {d e f : Option Number} (hde : notLonger d e) (hef : notLonger e f) :
    notLonger d f := by
  cases f with
  | none => trivial
  | some z =>
    cases e with
    | none => exact hef.elim
    | some y =>
      cases d with
      | none => exact hde.elim
      | some x => exact Number.noGreater_trans hde hef

/-- The longer of two durations is one of the two, and neither is longer. -/
theorem longerDuration_spec {d e : Option Number} (hd : d ≠ some .nan) (he : e ≠ some .nan) :
    (longerDuration d e = d ∧ notLonger e d) ∨ (longerDuration d e = e ∧ notLonger d e) := by
  cases d with
  | none => exact Or.inl ⟨rfl, trivial⟩
  | some x =>
    cases e with
    | none => exact Or.inr ⟨rfl, trivial⟩
    | some y =>
      have hx : x ≠ .nan := fun h => hd (congrArg some h)
      have hy : y ≠ .nan := fun h => he (congrArg some h)
      rcases Number.noGreater_total hx hy with h | h
      · exact Or.inr ⟨congrArg some (Number.max_of_noGreater hx hy h), h⟩
      · exact Or.inl ⟨congrArg some (Number.max_of_noGreater' hx hy h), h⟩

/-- The longest of two lists together is the longer of the longest of each. -/
theorem IsLongest.append {ds es : List (Option Number)} {d e : Option Number}
    (hd : IsLongest ds d) (he : IsLongest es e) (hdn : d ≠ some .nan) (hen : e ≠ some .nan) :
    IsLongest (ds ++ es) (longerDuration d e) := by
  rcases longerDuration_spec hdn hen with ⟨h, hle⟩ | ⟨h, hle⟩
  · rw [h]
    refine ⟨List.mem_append_left _ hd.1, fun f hf => ?_⟩
    rcases List.mem_append.mp hf with hf | hf
    · exact hd.2 f hf
    · exact notLonger_trans (he.2 f hf) hle
  · rw [h]
    refine ⟨List.mem_append_right _ he.1, fun f hf => ?_⟩
    rcases List.mem_append.mp hf with hf | hf
    · exact notLonger_trans (hd.2 f hf) hle
    · exact he.2 f hf

end ChatModeration
