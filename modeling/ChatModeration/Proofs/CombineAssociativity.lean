/-
ChatModeration.Proofs.CombineAssociativity — when three sanctions can be
combined in either bracketing.

What three sanctions decide never depends on the brackets; their texts may.
The private texts and the reasons associate exactly as far as merging messages
does (`Bullets.Associates`).  The reasons for renames are a case of their own:
a superstar puts its reason in front of what the other side carries, so the
two bracketings may gather the reasons in different orders.  `renameLeft` and
`renameRight` write both gatherings out, and `combine_assoc_iff` says that the
sanctions associate exactly when all these texts do.
-/
import ChatModeration.Proofs.BulletAlgebra
import ChatModeration.Proofs.Decision

namespace ChatModeration

/-- The message that two texts make together, of which either may be missing. -/
def Bullets.merge? : Option Text → Option Text → Option Text
  | none, t => t
  | t, none => t
  | some s, some t => some (Bullets.merge s t)

@[simp] theorem Bullets.merge?_none_left (t : Option Text) : Bullets.merge? none t = t := rfl

/-- The part that two infractions play together. -/
def Infraction.Role.join : Role → Role → Role
  | .absent, r => r
  | r, .absent => r
  | .star, .star => .star
  | _, _ => .primary

namespace Sanction

open Bullets (merge merge?)

/-! ## The texts of a sanction -/

/-- The reason for the rename that the sanction carries. -/
def carried (s : Sanction) : Option Text := s.superstar.map (·.reason)

/-- The reason for the rename that a superstar itself becomes. -/
def own (s : Sanction) : Option Text := if s.role = .star then some s.reason else none

/-- The reason for the rename that is left of the sanction beside a primary infraction. -/
def promoted (s : Sanction) : Option Text := merge? s.own s.carried

variable {a b c : Sanction}

theorem carried_combine? (x y : Option Superstar) :
    (Superstar.combine? x y).map (·.reason)
      = merge? (x.map (·.reason)) (y.map (·.reason)) := by
  cases x <;> cases y <;> rfl

theorem carried_foldSuperstar (ha : a.role = .star) :
    (foldSuperstar a b).map (·.reason) = merge? a.promoted b.carried := by
  rw [foldSuperstar, carried_combine?, carried_combine?, promoted, own, if_pos ha]
  rfl

/-- The role of two sanctions together. -/
theorem role_combine (a b : Sanction) : (a.combine b).role = a.role.join b.role := by
  have hsevere : a.role = b.role →
      (Infraction.mostSevere a.infraction b.infraction).role = a.role := by
    intro h
    rcases Infraction.mostSevere_spec a.infraction b.infraction with ⟨h', -⟩ | ⟨h', -⟩
    · rw [h']; rfl
    · rw [h', h]; rfl
  rw [combine_eq]
  cases ha : a.role <;> cases hb : b.role <;>
    simp_all [role, Infraction.Role.join]

/-- The reason for the infraction of two sanctions together. -/
theorem reason_combine (a b : Sanction) :
    (a.combine b).reason =
      match a.role, b.role with
      | .absent, _ => b.reason
      | _, .absent => a.reason
      | .star, .primary => b.reason
      | .primary, .star => a.reason
      | _, _ => merge a.reason b.reason := by
  rw [combine_eq]
  cases a.role <;> cases b.role <;> rfl

/-- The reason for the rename that two sanctions together carry. -/
theorem carried_combine (a b : Sanction) :
    (a.combine b).carried =
      match a.role, b.role with
      | .star, .primary => merge? a.promoted b.carried
      | .primary, .star => merge? b.promoted a.carried
      | _, _ => merge? a.carried b.carried := by
  unfold carried
  rw [combine_eq]
  cases ha : a.role with
  | absent => exact carried_combine? _ _
  | star =>
    cases hb : b.role with
    | primary => exact carried_foldSuperstar ha
    | absent => exact carried_combine? _ _
    | star => exact carried_combine? _ _
  | primary =>
    cases hb : b.role with
    | star => exact carried_foldSuperstar hb
    | absent => exact carried_combine? _ _
    | primary => exact carried_combine? _ _

/-! ## Three sanctions -/

/-- The reason for a rename once one more sanction has been combined with a primary one: a superstar
puts its reason in front. -/
def renameAfter (s : Sanction) (reason : Option Text) : Option Text :=
  if s.role = .star then merge? s.promoted reason else merge? reason s.promoted

/-- The reason for the rename when the first two of three sanctions are combined first. -/
def renameLeft (a b c : Sanction) : Option Text :=
  match a.role, b.role, c.role with
  | .primary, _, _ => renameAfter c (renameAfter b a.carried)
  | _, .primary, _ => renameAfter c (merge? a.promoted b.carried)
  | _, _, .primary =>
    merge? (merge? (merge? a.own b.own) (merge? a.carried b.carried)) c.carried
  | _, _, _ => merge? (merge? a.carried b.carried) c.carried

/-- The reason for the rename when the last two of three sanctions are combined first. -/
def renameRight (a b c : Sanction) : Option Text :=
  match a.role, b.role, c.role with
  | _, .primary, _ => merge? a.promoted (renameAfter c b.carried)
  | _, _, .primary => merge? a.promoted (merge? b.promoted c.carried)
  | .primary, .absent, .absent => merge? a.carried (merge? b.carried c.carried)
  | .primary, _, _ => merge? (merge? (merge? b.own c.own) (merge? b.carried c.carried)) a.carried
  | _, _, _ => merge? a.carried (merge? b.carried c.carried)

theorem own_of_not_star (h : a.role ≠ .star) : a.own = none := if_neg h

theorem promoted_of_not_star (h : a.role ≠ .star) : a.promoted = a.carried := by
  rw [promoted, own_of_not_star h, Bullets.merge?_none_left]

/-- Two sanctions that are no primary infraction, as the rename that they become together. -/
theorem promoted_combine (ha : a.role ≠ .primary) (hb : b.role ≠ .primary) :
    (a.combine b).promoted = merge? (merge? a.own b.own) (merge? a.carried b.carried) := by
  have hcarried : (a.combine b).carried = merge? a.carried b.carried := by
    rw [carried_combine]
    cases hra : a.role <;> cases hrb : b.role <;> simp_all
  have hown : (a.combine b).own = merge? a.own b.own := by
    unfold own
    rw [role_combine, reason_combine]
    cases hra : a.role <;> cases hrb : b.role <;>
      simp_all [Infraction.Role.join, Bullets.merge?]
  rw [promoted, hown, hcarried]

/-- A sanction combined into a primary one. -/
theorem carried_combine_primary (ha : a.role = .primary) :
    (a.combine b).carried = renameAfter b a.carried := by
  rw [carried_combine, ha, renameAfter]
  cases hb : b.role with
  | star => rfl
  | absent => rw [promoted_of_not_star (by simp [hb] : b.role ≠ .star)]; rfl
  | primary => rw [promoted_of_not_star (by simp [hb] : b.role ≠ .star)]; rfl

/-- A primary sanction combined into any other one. -/
theorem carried_combine_into_primary (hb : b.role = .primary) :
    (a.combine b).carried = merge? a.promoted b.carried := by
  rw [carried_combine, hb]
  cases ha : a.role with
  | star => rfl
  | absent => rw [promoted_of_not_star (by simp [ha] : a.role ≠ .star)]
  | primary => rw [promoted_of_not_star (by simp [ha] : a.role ≠ .star)]

theorem carried_combine_of_not_primary (ha : a.role ≠ .primary) (hb : b.role ≠ .primary) :
    (a.combine b).carried = merge? a.carried b.carried := by
  rw [carried_combine]
  cases hra : a.role <;> cases hrb : b.role <;> simp_all

theorem role_combine_primary (h : a.role = .primary ∨ b.role = .primary) :
    (a.combine b).role = .primary := by
  rw [role_combine]
  cases hra : a.role <;> cases hrb : b.role <;> simp_all [Infraction.Role.join]

theorem role_combine_ne_primary (ha : a.role ≠ .primary) (hb : b.role ≠ .primary) :
    (a.combine b).role ≠ .primary := by
  rw [role_combine]
  cases hra : a.role <;> cases hrb : b.role <;> simp_all [Infraction.Role.join]

/-- The rename of the left bracketing is gathered as `renameLeft` says. -/
theorem carried_combine_combine_left (a b c : Sanction) :
    ((a.combine b).combine c).carried = renameLeft a b c := by
  by_cases ha : a.role = .primary
  · rw [carried_combine_primary (role_combine_primary (Or.inl ha)), carried_combine_primary ha]
    simp [renameLeft, ha]
  by_cases hb : b.role = .primary
  · rw [carried_combine_primary (role_combine_primary (Or.inr hb)),
      carried_combine_into_primary hb]
    cases hra : a.role <;> simp_all [renameLeft]
  by_cases hc : c.role = .primary
  · rw [carried_combine_into_primary hc, promoted_combine ha hb]
    cases hra : a.role <;> cases hrb : b.role <;> simp_all [renameLeft]
  · rw [carried_combine_of_not_primary (role_combine_ne_primary ha hb) hc,
      carried_combine_of_not_primary ha hb]
    cases hra : a.role <;> cases hrb : b.role <;> cases hrc : c.role <;> simp_all [renameLeft]

/-- The rename of the right bracketing is gathered as `renameRight` says. -/
theorem carried_combine_combine_right (a b c : Sanction) :
    (a.combine (b.combine c)).carried = renameRight a b c := by
  by_cases hb : b.role = .primary
  · rw [carried_combine_into_primary (role_combine_primary (Or.inl hb)),
      carried_combine_primary hb]
    cases hra : a.role <;> simp_all [renameRight]
  by_cases hc : c.role = .primary
  · rw [carried_combine_into_primary (role_combine_primary (Or.inr hc)),
      carried_combine_into_primary hc]
    cases hra : a.role <;> cases hrb : b.role <;> simp_all [renameRight]
  by_cases ha : a.role = .primary
  · rw [carried_combine_primary ha, renameAfter, promoted_combine hb hc, role_combine]
    cases hrb : b.role <;> cases hrc : c.role <;>
      simp_all [renameRight, Infraction.Role.join, own]
  · rw [carried_combine_of_not_primary ha (role_combine_ne_primary hb hc),
      carried_combine_of_not_primary hb hc]
    cases hra : a.role <;> cases hrb : b.role <;> cases hrc : c.role <;> simp_all [renameRight]

/-- The reasons for the infraction have to associate only where all three are merged. -/
theorem reason_assoc_iff (a b c : Sanction) :
    ((a.combine b).combine c).reason = (a.combine (b.combine c)).reason ↔
      (a.role = b.role → b.role = c.role → a.role ≠ .absent →
        Bullets.Associates a.reason b.reason c.reason) := by
  have hmerge : merge (merge a.reason b.reason) c.reason
      = merge a.reason (merge b.reason c.reason) ↔
        Bullets.Associates a.reason b.reason c.reason :=
    ⟨Bullets.associates_of_merge_assoc, Bullets.Associates.merge_assoc⟩
  simp only [reason_combine, role_combine]
  cases ha : a.role <;> cases hb : b.role <;> cases hc : c.role <;>
    simp [Infraction.Role.join, hmerge]

/-- What three sanctions decide does not depend on the brackets. -/
theorem decision_assoc (ha : a.ValidDurations) (hb : b.ValidDurations) (hc : c.ValidDurations) :
    ((a.combine b).combine c).decision = (a.combine (b.combine c)).decision := by
  have hvalid : ∀ s ∈ [a, b, c], s.ValidDurations := by
    simpa using ⟨ha, hb, hc⟩
  have hleft : Decides [a, b, c] ((a.combine b).combine c) :=
    (Combination.both (.both (.single a) (.single b)) (.single c)).decides hvalid
  have hright : Decides [a, b, c] (a.combine (b.combine c)) :=
    (Combination.both (.single a) (.both (.single b) (.single c))).decides hvalid
  rw [hleft.decision_eq, hright.decision_eq]

theorem duration_combine_absent (ha : a.role = .absent) : (a.combine b).duration = b.duration := by
  rw [combine_absent_left ha]

/-- The duration does not depend on the brackets either where there is no infraction: the last one
stays. -/
theorem duration_assoc (ha : a.ValidDurations) (hb : b.ValidDurations) (hc : c.ValidDurations) :
    ((a.combine b).combine c).duration = (a.combine (b.combine c)).duration := by
  have hdecision := decision_assoc ha hb hc
  have hi : ((a.combine b).combine c).infraction = (a.combine (b.combine c)).infraction :=
    congrArg Decision.infraction hdecision
  by_cases hnone : ((a.combine b).combine c).infraction = .none
  · have hrole : ((a.combine b).combine c).role = .absent := Infraction.role_eq_absent.mpr hnone
    rw [role_combine, role_combine] at hrole
    have hra : a.role = .absent := by
      cases h : a.role <;> cases h' : b.role <;> cases h'' : c.role <;>
        simp_all [Infraction.Role.join]
    have hrb : b.role = .absent := by
      cases h : b.role <;> cases h'' : c.role <;> simp_all [Infraction.Role.join]
    have hrab : (a.combine b).role = .absent := by
      rw [role_combine, hra, hrb]
      rfl
    rw [duration_combine_absent hrab, duration_combine_absent hra, duration_combine_absent hrb]
  · have hd := congrArg Decision.duration hdecision
    simp only [decision, if_neg hnone, if_neg (hi ▸ hnone)] at hd
    exact Option.some.inj hd

theorem superstar_eq_iff {x y : Option Superstar}
    (hd : x.map (·.duration) = y.map (·.duration)) :
    x = y ↔ x.map (·.reason) = y.map (·.reason) := by
  cases x with
  | none => cases y <;> simp_all
  | some s =>
    cases y with
    | none => simp at hd
    | some t =>
      obtain ⟨r, d⟩ := s
      obtain ⟨r', d'⟩ := t
      simp_all

/-- **When combining associates.**  Three sanctions give the same in both bracketings exactly when
their texts do: the private texts, the reasons where all three are merged, and the reasons for
renames in the order in which either bracketing gathers them. -/
theorem combine_assoc_iff (ha : a.ValidDurations) (hb : b.ValidDurations)
    (hc : c.ValidDurations) :
    (a.combine b).combine c = a.combine (b.combine c) ↔
      Bullets.Associates a.dmContent b.dmContent c.dmContent ∧
      Bullets.Associates a.dmEmbed b.dmEmbed c.dmEmbed ∧
      (a.role = b.role → b.role = c.role → a.role ≠ .absent →
        Bullets.Associates a.reason b.reason c.reason) ∧
      renameLeft a b c = renameRight a b c := by
  have hdecision := decision_assoc ha hb hc
  have hstar := superstar_eq_iff (congrArg Decision.rename hdecision)
  rw [← reason_assoc_iff, ← carried_combine_combine_left, ← carried_combine_combine_right]
  constructor
  · intro h
    refine ⟨Bullets.associates_of_merge_assoc ?_, Bullets.associates_of_merge_assoc ?_, ?_, ?_⟩
    · rw [← combine_dmContent, ← combine_dmContent, h, combine_dmContent, combine_dmContent]
    · rw [← combine_dmEmbed, ← combine_dmEmbed, h, combine_dmEmbed, combine_dmEmbed]
    · rw [h]
    · rw [h]
  · rintro ⟨hcontent, hembed, hreason, hrename⟩
    have hi := congrArg Decision.infraction hdecision
    have hd := duration_assoc ha hb hc
    have hs := hstar.mpr hrename
    have hm : ((a.combine b).combine c).dmContent = (a.combine (b.combine c)).dmContent := by
      simp only [combine_dmContent]
      exact hcontent.merge_assoc
    have he : ((a.combine b).combine c).dmEmbed = (a.combine (b.combine c)).dmEmbed := by
      simp only [combine_dmEmbed]
      exact hembed.merge_assoc
    generalize (a.combine b).combine c = l at *
    generalize a.combine (b.combine c) = r at *
    cases l
    cases r
    simp_all [decision]

/-- A superstar between two mutes that carry a superstar of their own: the one that is folded in
goes before the others in one bracketing and between them in the other. -/
theorem combine_assoc_fails :
    let named : Superstar := ⟨Text.ofString "Name", some 60⟩
    let mute : Sanction := ⟨.mute, Text.ofString "Spam", some 600, [], [], some named⟩
    let star : Sanction := ⟨.superstar, Text.ofString "Avatar", some 3600, [], [], none⟩
    (mute.combine star).combine mute ≠ mute.combine (star.combine mute) := by
  decide +kernel

/-- A superstar, an infraction and another superstar associate when the superstars have one reason,
although it would be gathered in two orders. -/
theorem combine_assoc_iff_same_star :
    let star : Sanction := ⟨.superstar, Text.ofString "Name", some 60, [], [], none⟩
    let mute : Sanction := ⟨.mute, Text.ofString "Spam", some 600, Text.ofString "Stop", [], none⟩
    (star.ValidDurations ∧ mute.ValidDurations) ∧
      ((star.combine mute).combine star = star.combine (mute.combine star) ↔
        Bullets.Associates star.dmContent mute.dmContent star.dmContent ∧
        Bullets.Associates star.dmEmbed mute.dmEmbed star.dmEmbed ∧
        (star.role = mute.role → mute.role = star.role → star.role ≠ .absent →
          Bullets.Associates star.reason mute.reason star.reason) ∧
        renameLeft star mute star = renameRight star mute star) ∧
      renameLeft star mute star = renameRight star mute star := by
  intro star mute
  have hnonneg (n : Nat) : (Number.finite n).NonNegative := ⟨n, rfl, Rat.natCast_nonneg⟩
  have hstar : star.ValidDurations := by
    refine ⟨fun n hn => ?_, fun x hx => by cases hx⟩
    cases hn
    exact hnonneg 60
  have hmute : mute.ValidDurations := by
    refine ⟨fun n hn => ?_, fun x hx => by cases hx⟩
    cases hn
    exact hnonneg 600
  exact ⟨⟨hstar, hmute⟩, combine_assoc_iff hstar hmute hstar, by decide⟩

end Sanction

end ChatModeration
