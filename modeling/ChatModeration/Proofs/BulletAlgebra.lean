/-
ChatModeration.Proofs.BulletAlgebra — how far merging messages associates.

Two different messages become one text of bullet points, and that text is
longer than both.  So once two messages have been put together, the outcome can
only be met again by a third message that repeats it whole.  `Associates` names
the three ways in which the brackets do not matter: a message is empty, all
three are equal, or no two that meet are equal.  In every other case one
bracketing drops a message that the other one keeps, and the lengths differ.

The main statement is `merge_assoc_iff`.
-/
import ChatModeration.Bullets

namespace ChatModeration.Bullets

variable {a b c : Text}

/-! ## Bullet points -/

theorem head?_mark (m : Text) : (mark m).head? = some bullet := by
  unfold mark
  split
  · rename_i h; exact h
  · rfl

theorem length_le_mark (m : Text) : m.length ≤ (mark m).length := by
  unfold mark
  split
  · exact Nat.le_refl _
  · simp only [List.length_cons]
    omega

/-- A text that begins with a bullet point is one. -/
theorem mark_of_head? {m : Text} (h : m.head? = some bullet) : mark m = m := by
  simp [mark, h]

theorem mark_mark_append (m t : Text) : mark (mark m ++ t) = mark m ++ t := by
  refine mark_of_head? ?_
  rw [List.head?_append, head?_mark]
  rfl

/-! ## Two different messages -/

theorem merge_of_ne (ha : a ≠ []) (hb : b ≠ []) (hab : a ≠ b) :
    merge a b = mark a ++ 0x0A :: 0x0A :: mark b := by
  simp [merge, ha, hb, hab]

theorem length_lt_merge_left (ha : a ≠ []) (hb : b ≠ []) (hab : a ≠ b) :
    a.length < (merge a b).length := by
  have h := length_le_mark a
  rw [merge_of_ne ha hb hab]
  simp only [List.length_append, List.length_cons]
  omega

theorem length_lt_merge_right (ha : a ≠ []) (hb : b ≠ []) (hab : a ≠ b) :
    b.length < (merge a b).length := by
  have h := length_le_mark b
  rw [merge_of_ne ha hb hab]
  simp only [List.length_append, List.length_cons]
  omega

theorem merge_ne_nil (ha : a ≠ []) (hb : b ≠ []) : merge a b ≠ [] := by
  by_cases hab : a = b
  · rw [hab, merge_self]
    exact hb
  · rw [merge_of_ne ha hb hab]
    simp

/-- What two messages have become can be put in front of a third one as it is. -/
theorem mark_merge (ha : a ≠ []) (hb : b ≠ []) (hab : a ≠ b) : mark (merge a b) = merge a b := by
  rw [merge_of_ne ha hb hab, mark_mark_append]

/-! ## Three messages -/

/-- The brackets around three messages do not matter. -/
def Associates (a b c : Text) : Prop :=
  (a = [] ∨ b = [] ∨ c = []) ∨ (a = b ∧ b = c) ∨
    (a ≠ b ∧ b ≠ c ∧ c ≠ merge a b ∧ a ≠ merge b c)

instance (a b c : Text) : Decidable (Associates a b c) :=
  inferInstanceAs (Decidable (_ ∨ _ ∨ _))

theorem merge_assoc_of_ne (ha : a ≠ []) (hb : b ≠ []) (hc : c ≠ []) (hab : a ≠ b) (hbc : b ≠ c)
    (hcab : c ≠ merge a b) (habc : a ≠ merge b c) :
    merge (merge a b) c = merge a (merge b c) := by
  rw [merge_of_ne (merge_ne_nil ha hb) hc hcab.symm, merge_of_ne ha (merge_ne_nil hb hc) habc,
    mark_merge ha hb hab, mark_merge hb hc hbc, merge_of_ne ha hb hab, merge_of_ne hb hc hbc]
  simp

theorem Associates.merge_assoc (h : Associates a b c) :
    merge (merge a b) c = merge a (merge b c) := by
  by_cases ha : a = []
  · simp [ha]
  by_cases hb : b = []
  · simp [hb]
  by_cases hc : c = []
  · simp [hc]
  rcases h with h | ⟨rfl, rfl⟩ | ⟨hab, hbc, hcab, habc⟩
  · rcases h with h | h | h
    · exact absurd h ha
    · exact absurd h hb
    · exact absurd h hc
  · simp
  · exact merge_assoc_of_ne ha hb hc hab hbc hcab habc

/-- A message that is met again only after another one is kept by one bracketing and dropped by the
other. -/
theorem merge_left_ne (ha : a ≠ []) (hc : c ≠ []) (hac : a ≠ c) :
    (merge a c).length < (merge a (merge a c)).length := by
  refine length_lt_merge_right ha (merge_ne_nil ha hc) fun h => ?_
  have hlen := length_lt_merge_left ha hc hac
  rw [← h] at hlen
  exact Nat.lt_irrefl _ hlen

theorem merge_right_ne (ha : a ≠ []) (hb : b ≠ []) (hab : a ≠ b) :
    (merge a b).length < (merge (merge a b) b).length := by
  refine length_lt_merge_left (merge_ne_nil ha hb) hb fun h => ?_
  have hlen := length_lt_merge_right ha hb hab
  rw [h] at hlen
  exact Nat.lt_irrefl _ hlen

/-- Where the brackets do not matter, it is for one of the three reasons. -/
theorem associates_of_merge_assoc (h : merge (merge a b) c = merge a (merge b c)) :
    Associates a b c := by
  by_cases ha : a = []
  · exact Or.inl (Or.inl ha)
  by_cases hb : b = []
  · exact Or.inl (Or.inr (Or.inl hb))
  by_cases hc : c = []
  · exact Or.inl (Or.inr (Or.inr hc))
  refine Or.inr ?_
  have hlen := congrArg List.length h
  by_cases hab : a = b
  · subst hab
    refine Or.inl ⟨rfl, ?_⟩
    by_cases hac : a = c
    · exact hac
    · have hlt := merge_left_ne ha hc hac
      rw [merge_self] at hlen
      omega
  by_cases hbc : b = c
  · subst hbc
    have hlt := merge_right_ne ha hb hab
    rw [merge_self] at hlen
    omega
  refine Or.inr ⟨hab, hbc, fun hcab => ?_, fun habc => ?_⟩
  · -- The third message repeats the first two, and only the right bracketing keeps it twice.
    have hlt := length_lt_merge_right hb hc hbc
    have hne : a ≠ merge b c := by
      intro h'
      have h1 := length_lt_merge_left ha hb hab
      rw [← hcab] at h1
      rw [← h'] at hlt
      omega
    have hlt' := length_lt_merge_right ha (merge_ne_nil hb hc) hne
    rw [← hcab, merge_self] at hlen
    omega
  · have hlt := length_lt_merge_left ha hb hab
    have hne : merge a b ≠ c := by
      intro h'
      have h1 := length_lt_merge_right hb hc hbc
      rw [← habc] at h1
      rw [h'] at hlt
      omega
    have hlt' := length_lt_merge_left (merge_ne_nil ha hb) hc hne
    rw [← habc, merge_self] at hlen
    omega

/-- **When merging associates**: a message is empty, all three are equal, or no two messages that
meet in either bracketing are equal. -/
theorem merge_assoc_iff (a b c : Text) :
    merge (merge a b) c = merge a (merge b c) ↔
      (a = [] ∨ b = [] ∨ c = []) ∨ (a = b ∧ b = c) ∨
        (a ≠ b ∧ b ≠ c ∧ c ≠ merge a b ∧ a ≠ merge b c) := by
  constructor
  · exact associates_of_merge_assoc
  · exact Associates.merge_assoc

/-- The brackets matter when a message repeats the first two as they are listed. -/
example : ¬ Associates (Text.ofString "no spam") (Text.ofString "be kind")
    (Text.ofString "• no spam\n\n• be kind") := by decide +kernel

end ChatModeration.Bullets
