/-
ChatModeration.Proofs.CombineCases — what combining two sanctions can do.

Beside another sanction an infraction plays one of three roles: it is absent,
it is a superstar, which turns into a rename beside a primary infraction, or it
is primary.  One equation for each pair of roles says what `Sanction.combine`
gives; the proofs about combinations cite these and never unfold it.
-/
import ChatModeration.Sanction.Combine

namespace ChatModeration

/-- The part that an infraction plays in a combination. -/
inductive Infraction.Role where
  | absent
  | star
  | primary
deriving DecidableEq

namespace Infraction

def role : Infraction → Role
  | none => .absent
  | superstar => .star
  | _ => .primary

theorem role_eq_absent {i : Infraction} : i.role = .absent ↔ i = none := by
  cases i <;> simp [role]

theorem role_eq_star {i : Infraction} : i.role = .star ↔ i = superstar := by
  cases i <;> simp [role]

theorem role_eq_primary {i : Infraction} : i.role = .primary ↔ i ≠ none ∧ i ≠ superstar := by
  cases i <;> simp [role]

/-- The more severe of two infractions is one of them, and the other one ranks no lower. -/
theorem mostSevere_spec (i j : Infraction) :
    (mostSevere i j = i ∧ i.rank ≤ j.rank) ∨ (mostSevere i j = j ∧ j.rank ≤ i.rank) := by
  unfold mostSevere
  split
  · rename_i h; exact Or.inl ⟨rfl, h⟩
  · rename_i h; exact Or.inr ⟨rfl, by omega⟩

end Infraction

namespace Sanction

def role (s : Sanction) : Infraction.Role := s.infraction.role

variable {a b : Sanction}

/-- The texts of the private message in one. -/
theorem combine_dmContent (a b : Sanction) :
    (a.combine b).dmContent = Bullets.merge a.dmContent b.dmContent := by
  unfold combine
  repeat' split
  all_goals rfl

theorem combine_dmEmbed (a b : Sanction) :
    (a.combine b).dmEmbed = Bullets.merge a.dmEmbed b.dmEmbed := by
  unfold combine
  repeat' split
  all_goals rfl

/-- An absent infraction on the left leaves the other one as it is. -/
theorem combine_absent_left (ha : a.infraction.role = .absent) :
    a.combine b =
      { b with
        dmContent := Bullets.merge a.dmContent b.dmContent
        dmEmbed := Bullets.merge a.dmEmbed b.dmEmbed
        superstar := Superstar.combine? a.superstar b.superstar } := by
  simp [combine, Infraction.role_eq_absent.mp ha]

/-- An absent infraction on the right leaves a present one as it is. -/
theorem combine_absent_right (ha : a.infraction.role ≠ .absent)
    (hb : b.infraction.role = .absent) :
    a.combine b =
      { a with
        dmContent := Bullets.merge a.dmContent b.dmContent
        dmEmbed := Bullets.merge a.dmEmbed b.dmEmbed
        superstar := Superstar.combine? a.superstar b.superstar } := by
  have ha' : a.infraction ≠ .none := fun h => ha (Infraction.role_eq_absent.mpr h)
  simp [combine, ha', Infraction.role_eq_absent.mp hb]

/-- A superstar on the left becomes a rename beside a primary infraction. -/
theorem combine_star_left (ha : a.infraction.role = .star) (hb : b.infraction.role = .primary) :
    a.combine b =
      { b with
        dmContent := Bullets.merge a.dmContent b.dmContent
        dmEmbed := Bullets.merge a.dmEmbed b.dmEmbed
        superstar := foldSuperstar a b } := by
  obtain ⟨hb1, hb2⟩ := Infraction.role_eq_primary.mp hb
  simp [combine, Infraction.role_eq_star.mp ha, hb1, hb2]

/-- A superstar on the right becomes a rename beside a primary infraction. -/
theorem combine_star_right (ha : a.infraction.role = .primary) (hb : b.infraction.role = .star) :
    a.combine b =
      { a with
        dmContent := Bullets.merge a.dmContent b.dmContent
        dmEmbed := Bullets.merge a.dmEmbed b.dmEmbed
        superstar := foldSuperstar b a } := by
  obtain ⟨ha1, ha2⟩ := Infraction.role_eq_primary.mp ha
  simp [combine, Infraction.role_eq_star.mp hb, ha1, ha2]

/-- Two superstars, or two primary infractions, become the more severe one of them. -/
theorem combine_alike (hab : a.infraction.role = b.infraction.role)
    (ha : a.infraction.role ≠ .absent) :
    a.combine b =
      { infraction := Infraction.mostSevere a.infraction b.infraction
        reason := Bullets.merge a.reason b.reason
        duration := severestDuration a b
        dmContent := Bullets.merge a.dmContent b.dmContent
        dmEmbed := Bullets.merge a.dmEmbed b.dmEmbed
        superstar := Superstar.combine? a.superstar b.superstar } := by
  have ha' : a.infraction ≠ .none := fun h => ha (Infraction.role_eq_absent.mpr h)
  have hb' : b.infraction ≠ .none :=
    fun h => ha (hab.trans (Infraction.role_eq_absent.mpr h))
  have hstar : a.infraction = .superstar ↔ b.infraction = .superstar := by
    rw [← Infraction.role_eq_star, ← Infraction.role_eq_star, hab]
  unfold combine
  rw [if_neg ha', if_neg hb', if_neg (by simp [hstar]), if_neg (by simp [hstar])]

/-- Two sanctions combined, by their roles. -/
theorem combine_eq (a b : Sanction) :
    a.combine b =
      let dmContent := Bullets.merge a.dmContent b.dmContent
      let dmEmbed := Bullets.merge a.dmEmbed b.dmEmbed
      let superstar := Superstar.combine? a.superstar b.superstar
      match a.role, b.role with
      | .absent, _ => { b with dmContent, dmEmbed, superstar }
      | _, .absent => { a with dmContent, dmEmbed, superstar }
      | .star, .primary => { b with dmContent, dmEmbed, superstar := foldSuperstar a b }
      | .primary, .star => { a with dmContent, dmEmbed, superstar := foldSuperstar b a }
      | _, _ =>
        { infraction := Infraction.mostSevere a.infraction b.infraction
          reason := Bullets.merge a.reason b.reason
          duration := severestDuration a b
          dmContent, dmEmbed, superstar } := by
  unfold role
  cases ha : a.infraction.role with
  | absent => exact combine_absent_left ha
  | star =>
    cases hb : b.infraction.role with
    | absent => exact combine_absent_right (by simp [ha]) hb
    | star => exact combine_alike (ha.trans hb.symm) (by simp [ha])
    | primary => exact combine_star_left ha hb
  | primary =>
    cases hb : b.infraction.role with
    | absent => exact combine_absent_right (by simp [ha]) hb
    | star => exact combine_star_right ha hb
    | primary => exact combine_alike (ha.trans hb.symm) (by simp [ha])

end Sanction

end ChatModeration
