/-
ChatModeration.Proofs.ReducedTexts — which texts a reduction keeps, and where.

A reduction combines the sanctions of a message from the first to the last.
The private texts are merged whatever the infractions are.  A reason has to
find its place: that of a superstar stays the reason of the infraction until a
primary infraction arrives, and from then on it belongs to the rename.
`Gathers` says where every text of a list of sanctions is, and `Gathers.snoc`
that one more sanction only adds to it.

The main statement is `mergeAll_keeps_texts`: the texts are the merged ones, in
order, and every single text is a contiguous part of what has become of it.
-/
import ChatModeration.Proofs.CombineAssociativity

namespace ChatModeration

/-! ## Parts of a merged message -/

namespace Bullets

theorem infix_mark (m : Text) : m <:+: mark m := by
  unfold mark
  split
  · exact List.infix_rfl
  · exact (List.suffix_append [bullet, 0x20] m).isInfix

theorem infix_merge_left (a b : Text) : a <:+: merge a b := by
  by_cases ha : a = []
  · rw [ha]
    exact List.nil_infix
  by_cases hb : b = []
  · simp only [hb, merge_nil_right, List.infix_rfl]
  by_cases hab : a = b
  · simp only [hab, merge_self, List.infix_rfl]
  rw [merge_of_ne ha hb hab]
  exact (infix_mark a).trans (List.prefix_append _ _).isInfix

theorem infix_merge_right (a b : Text) : b <:+: merge a b := by
  by_cases ha : a = []
  · simp only [ha, merge_nil_left, List.infix_rfl]
  by_cases hb : b = []
  · rw [hb]
    exact List.nil_infix
  by_cases hab : a = b
  · simp only [hab, merge_self, List.infix_rfl]
  rw [merge_of_ne ha hb hab]
  have hblank : mark b <:+ 0x0A :: 0x0A :: mark b := List.suffix_append [0x0A, 0x0A] _
  exact (infix_mark b).trans (hblank.trans (List.suffix_append _ _)).isInfix

theorem mergeAll_snoc (messages : List Text) (m : Text) :
    mergeAll (messages ++ [m]) = merge (mergeAll messages) m := by
  simp [mergeAll]

theorem infix_foldl_merge (m : Text) (later : List Text) : m <:+: later.foldl merge m := by
  induction later generalizing m with
  | nil => exact List.infix_rfl
  | cons next rest ih => exact (infix_merge_left m next).trans (ih _)

theorem infix_mergeAll {messages : List Text} {m : Text} (h : m ∈ messages) :
    m <:+: mergeAll messages := by
  obtain ⟨before, after, rfl⟩ := List.append_of_mem h
  have hm : m <:+: mergeAll (before ++ [m]) := by
    rw [mergeAll_snoc]
    exact infix_merge_right _ _
  have hlater : mergeAll (before ++ m :: after) = after.foldl merge (mergeAll (before ++ [m])) := by
    simp [mergeAll]
  rw [hlater]
  exact hm.trans (infix_foldl_merge _ _)

/-- The text is there and has `m` in it. -/
def Keeps (t : Option Text) (m : Text) : Prop := ∃ whole ∈ t, m <:+: whole

variable {s t : Option Text} {m : Text}

theorem Keeps.merge?_left (h : Keeps s m) : Keeps (merge? s t) m := by
  obtain ⟨whole, rfl, hm⟩ := h
  cases t with
  | none => exact ⟨whole, rfl, hm⟩
  | some other => exact ⟨_, rfl, hm.trans (infix_merge_left _ _)⟩

theorem Keeps.merge?_right (h : Keeps t m) : Keeps (merge? s t) m := by
  obtain ⟨whole, rfl, hm⟩ := h
  cases s with
  | none => exact ⟨whole, rfl, hm⟩
  | some other => exact ⟨_, rfl, hm.trans (infix_merge_right _ _)⟩

end Bullets

namespace Sanction

open Bullets (Keeps)

variable {a b s t : Sanction} {entries : List Sanction} {m : Text}

/-! ## The reasons for renames -/

theorem keeps_promoted_of_carried (h : Keeps s.carried m) : Keeps s.promoted m := h.merge?_right

/-- A rename that goes with a sanction goes with every combination of it. -/
theorem keeps_carried_left (h : Keeps a.carried m) : Keeps (a.combine b).carried m := by
  by_cases ha : a.role = .primary
  · rw [carried_combine_primary ha, renameAfter]
    split
    · exact h.merge?_right
    · exact h.merge?_left
  by_cases hb : b.role = .primary
  · rw [carried_combine_into_primary hb]
    exact (keeps_promoted_of_carried h).merge?_left
  · rw [carried_combine_of_not_primary ha hb]
    exact h.merge?_left

theorem keeps_carried_right (h : Keeps b.carried m) : Keeps (a.combine b).carried m := by
  by_cases ha : a.role = .primary
  · rw [carried_combine_primary ha, renameAfter]
    split
    · exact (keeps_promoted_of_carried h).merge?_left
    · exact (keeps_promoted_of_carried h).merge?_right
  by_cases hb : b.role = .primary
  · rw [carried_combine_into_primary hb]
    exact h.merge?_right
  · rw [carried_combine_of_not_primary ha hb]
    exact h.merge?_right

/-- A superstar's own reason becomes part of the rename. -/
theorem keeps_promoted (ha : a.role = .star) (h : m <:+: a.reason) : Keeps a.promoted m := by
  refine Bullets.Keeps.merge?_left ⟨a.reason, ?_, h⟩
  rw [own, if_pos ha]
  rfl

/-- The reason of a superstar is where it belongs: in the reason of the infraction as long as that
is a superstar, and in the reason of the rename beside a primary infraction. -/
def KeepsStar (s : Sanction) (m : Text) : Prop :=
  match s.role with
  | .absent => False
  | .star => m <:+: s.reason
  | .primary => Keeps s.carried m

theorem keepsStar_reason (h : s.role = .star) : s.KeepsStar s.reason := by
  simp only [KeepsStar, h, List.infix_rfl]

theorem KeepsStar.combine_left (h : a.KeepsStar m) : (a.combine b).KeepsStar m := by
  unfold KeepsStar at h ⊢
  rw [role_combine]
  cases ha : a.role with
  | absent =>
    rw [ha] at h
    exact h.elim
  | star =>
    rw [ha] at h
    cases hb : b.role with
    | absent =>
      simp only [Infraction.Role.join, reason_combine, ha, hb]
      exact h
    | star =>
      simp only [Infraction.Role.join, reason_combine, ha, hb]
      exact h.trans (Bullets.infix_merge_left _ _)
    | primary =>
      simp only [Infraction.Role.join, carried_combine, ha, hb]
      exact (keeps_promoted ha h).merge?_left
  | primary =>
    rw [ha] at h
    cases hb : b.role <;> exact keeps_carried_left h

theorem KeepsStar.combine_right (h : b.KeepsStar m) : (a.combine b).KeepsStar m := by
  unfold KeepsStar at h ⊢
  rw [role_combine]
  cases hb : b.role with
  | absent =>
    rw [hb] at h
    exact h.elim
  | star =>
    rw [hb] at h
    cases ha : a.role with
    | absent =>
      simp only [Infraction.Role.join, reason_combine, ha]
      exact h
    | star =>
      simp only [Infraction.Role.join, reason_combine, ha, hb]
      exact h.trans (Bullets.infix_merge_right _ _)
    | primary =>
      simp only [Infraction.Role.join, carried_combine, ha, hb]
      exact (keeps_promoted hb h).merge?_left
  | primary =>
    rw [hb] at h
    cases ha : a.role <;> exact keeps_carried_right h

/-! ## The reason for the infraction -/

/-- The reasons of the sanctions that play a part, in order. -/
def reasonsOf (r : Infraction.Role) (entries : List Sanction) : List Text :=
  (entries.filter (·.role = r)).map (·.reason)

theorem reasonsOf_snoc (r : Infraction.Role) (entries : List Sanction) (t : Sanction) :
    reasonsOf r (entries ++ [t]) =
      reasonsOf r entries ++ if t.role = r then [t.reason] else [] := by
  unfold reasonsOf
  split <;> simp [*]

/-- The reason that sanctions have together: those of the primary infractions; failing that, those
of the superstars; failing that, the one of the last sanction. -/
def reasonOf (entries : List Sanction) : Text :=
  if reasonsOf .primary entries ≠ [] then Bullets.mergeAll (reasonsOf .primary entries)
  else if reasonsOf .star entries ≠ [] then Bullets.mergeAll (reasonsOf .star entries)
  else (entries.getLast?.map (·.reason)).getD []

/-- `reasonOf` as a relation, by the part that the infraction of all of them plays. -/
inductive IsReason (entries : List Sanction) : Infraction.Role → Text → Prop where
  | primary (some : reasonsOf .primary entries ≠ []) :
      IsReason entries .primary (Bullets.mergeAll (reasonsOf .primary entries))
  | star (none : reasonsOf .primary entries = []) (some : reasonsOf .star entries ≠ []) :
      IsReason entries .star (Bullets.mergeAll (reasonsOf .star entries))
  | absent {last : Sanction} (primary : reasonsOf .primary entries = [])
      (star : reasonsOf .star entries = []) (h : entries.getLast? = some last) :
      IsReason entries .absent last.reason

theorem IsReason.eq {r : Infraction.Role} (h : IsReason entries r m) : m = reasonOf entries := by
  cases h with
  | primary some => rw [reasonOf, if_pos some]
  | star none some => rw [reasonOf, if_neg (not_not_intro none), if_pos some]
  | absent primary star hlast =>
    rw [reasonOf, if_neg (not_not_intro primary), if_neg (not_not_intro star), hlast]
    rfl

/-- The only primary infraction among them. -/
theorem IsReason.of_one_primary (h : reasonsOf .primary entries = [m]) :
    IsReason entries .primary m := by
  have hr : IsReason entries .primary (Bullets.mergeAll (reasonsOf .primary entries)) :=
    .primary (by simp [h])
  rw [h] at hr
  simpa [Bullets.mergeAll] using hr

/-- The only superstar among them, beside no primary infraction. -/
theorem IsReason.of_one_star (hnone : reasonsOf .primary entries = [])
    (h : reasonsOf .star entries = [m]) : IsReason entries .star m := by
  have hr : IsReason entries .star (Bullets.mergeAll (reasonsOf .star entries)) :=
    .star hnone (by simp [h])
  rw [h] at hr
  simpa [Bullets.mergeAll] using hr

/-- One more sanction. -/
theorem IsReason.snoc (h : IsReason entries s.role s.reason) (t : Sanction) :
    IsReason (entries ++ [t]) (s.combine t).role (s.combine t).reason := by
  rw [role_combine, reason_combine]
  have hprimary := reasonsOf_snoc .primary entries t
  have hstar := reasonsOf_snoc .star entries t
  generalize hr : s.role = r at h ⊢
  generalize hm : s.reason = m at h ⊢
  cases ht : t.role with
  | absent =>
    simp only [ht, reduceCtorEq, if_false, List.append_nil] at hprimary hstar
    cases h with
    | primary some =>
      rw [← hprimary] at some ⊢
      exact .primary some
    | star none some =>
      rw [← hprimary] at none
      rw [← hstar] at some ⊢
      exact .star none some
    | absent primary star hlast =>
      rw [← hprimary] at primary
      rw [← hstar] at star
      exact .absent primary star List.getLast?_concat
  | star =>
    simp only [ht, reduceCtorEq, if_false, if_true, List.append_nil] at hprimary hstar
    cases h with
    | primary some =>
      rw [← hprimary] at some ⊢
      exact .primary some
    | star none some =>
      rw [← hprimary] at none
      simp only [Infraction.Role.join]
      rw [← Bullets.mergeAll_snoc, ← hstar]
      exact .star none (by simp [hstar])
    | absent primary star hlast =>
      rw [← hprimary] at primary
      rw [star, List.nil_append] at hstar
      exact .of_one_star primary hstar
  | primary =>
    simp only [ht, reduceCtorEq, if_false, if_true, List.append_nil] at hprimary hstar
    cases h with
    | primary some =>
      simp only [Infraction.Role.join]
      rw [← Bullets.mergeAll_snoc, ← hprimary]
      exact .primary (by simp [hprimary])
    | star none some =>
      rw [none, List.nil_append] at hprimary
      exact .of_one_primary hprimary
    | absent primary star hlast =>
      rw [primary, List.nil_append] at hprimary
      exact .of_one_primary hprimary

theorem isReason_single (s : Sanction) : IsReason [s] s.role s.reason := by
  cases h : s.role with
  | absent => exact .absent (by simp [reasonsOf, h]) (by simp [reasonsOf, h]) rfl
  | star => exact .of_one_star (by simp [reasonsOf, h]) (by simp [reasonsOf, h])
  | primary => exact .of_one_primary (by simp [reasonsOf, h])

/-! ## All texts -/

/-- The sanction has the texts of the sanctions in the list, each at its place. -/
structure Gathers (entries : List Sanction) (s : Sanction) : Prop where
  dmContent : s.dmContent = Bullets.mergeAll (entries.map (·.dmContent))
  dmEmbed : s.dmEmbed = Bullets.mergeAll (entries.map (·.dmEmbed))
  reason : IsReason entries s.role s.reason
  carried : ∀ e ∈ entries, ∀ m ∈ e.carried, Keeps s.carried m
  stars : ∀ e ∈ entries, e.role = .star → s.KeepsStar e.reason

theorem gathers_single (s : Sanction) : Gathers [s] s where
  dmContent := by simp [Bullets.mergeAll]
  dmEmbed := by simp [Bullets.mergeAll]
  reason := isReason_single s
  carried := by
    intro e he m hm
    rw [List.mem_singleton.mp he] at hm
    exact ⟨m, hm, List.infix_rfl⟩
  stars := by
    intro e he hstar
    rw [List.mem_singleton.mp he] at hstar ⊢
    exact keepsStar_reason hstar

theorem Gathers.snoc (h : Gathers entries s) (t : Sanction) :
    Gathers (entries ++ [t]) (s.combine t) where
  dmContent := by
    rw [combine_dmContent, h.dmContent, List.map_append, List.map_singleton, Bullets.mergeAll_snoc]
  dmEmbed := by
    rw [combine_dmEmbed, h.dmEmbed, List.map_append, List.map_singleton, Bullets.mergeAll_snoc]
  reason := h.reason.snoc t
  carried := by
    intro e he m hm
    rcases List.mem_append.mp he with he | he
    · exact keeps_carried_left (h.carried e he m hm)
    · rw [List.mem_singleton.mp he] at hm
      exact keeps_carried_right ⟨m, hm, List.infix_rfl⟩
  stars := by
    intro e he hstar
    rcases List.mem_append.mp he with he | he
    · exact (h.stars e he hstar).combine_left
    · rw [List.mem_singleton.mp he] at hstar ⊢
      exact (keepsStar_reason hstar).combine_right

theorem Gathers.foldl (h : Gathers entries s) (later : List Sanction) :
    Gathers (entries ++ later) (later.foldl combine s) := by
  induction later generalizing entries s with
  | nil => simpa using h
  | cons t rest ih => simpa using ih (h.snoc t)

theorem Gathers.carried_of_star (h : Gathers entries s) (hs : s.role ≠ .star) {e : Sanction}
    (he : e ∈ entries) (hstar : e.role = .star) : Keeps s.carried e.reason := by
  have hkeeps := h.stars e he hstar
  unfold KeepsStar at hkeeps
  cases hr : s.role with
  | absent =>
    rw [hr] at hkeeps
    exact hkeeps.elim
  | star => exact absurd hr hs
  | primary =>
    rw [hr] at hkeeps
    exact hkeeps

theorem keeps_carried_iff :
    Keeps s.carried m ↔ ∃ star ∈ s.superstar, m <:+: star.reason := by
  unfold Keeps carried
  cases s.superstar <;> simp

end Sanction

/-! ## Reductions -/

namespace ActionSet

/-- Combining sets is combining the sanctions that are there. -/
theorem foldl_merge_ofSanction (sets : List ActionSet) (s : Sanction) :
    sets.foldl merge (ofSanction s) =
      ofSanction ((sets.filterMap (·.sanction)).foldl Sanction.combine s) := by
  induction sets generalizing s with
  | nil => rfl
  | cons set rest ih =>
    obtain ⟨sanction⟩ := set
    cases sanction with
    | none => exact ih s
    | some t => exact ih (s.combine t)

theorem mergeAll_eq {sets : List ActionSet} {s : Sanction} {later : List Sanction}
    (h : sets.filterMap (·.sanction) = s :: later) :
    mergeAll sets = ofSanction (later.foldl Sanction.combine s) := by
  induction sets with
  | nil => cases h
  | cons set rest ih =>
    obtain ⟨sanction⟩ := set
    cases sanction with
    | none => exact ih h
    | some t =>
      obtain ⟨rfl, rfl⟩ := List.cons.inj h
      exact foldl_merge_ofSanction rest t

/-- **No text is lost by a reduction.**  The private texts are merged in order, whatever the
infractions are; so are the reasons of the primary infractions, or those of the superstars where
there is no primary one.  Every text for a rename is a contiguous part of the reason of the
resulting one, and so is, unless the result is a superstar itself, the reason of every superstar. -/
theorem mergeAll_keeps_texts {sets : List ActionSet} {entries : List Sanction}
    (h : sets.filterMap (·.sanction) = entries) (hne : entries ≠ []) :
    ∃ s, mergeAll sets = ofSanction s ∧
      s.dmContent = Bullets.mergeAll (entries.map (·.dmContent)) ∧
      s.dmEmbed = Bullets.mergeAll (entries.map (·.dmEmbed)) ∧
      s.reason = Sanction.reasonOf entries ∧
      (∀ e ∈ entries, ∀ star ∈ e.superstar, ∃ result ∈ s.superstar,
        star.reason <:+: result.reason) ∧
      (s.infraction ≠ .superstar → ∀ e ∈ entries, e.infraction = .superstar →
        ∃ result ∈ s.superstar, e.reason <:+: result.reason) ∧
      ∀ e ∈ entries, e.dmContent <:+: s.dmContent ∧ e.dmEmbed <:+: s.dmEmbed := by
  obtain ⟨first, later, rfl⟩ := List.exists_cons_of_ne_nil hne
  have hg : Sanction.Gathers (first :: later) (later.foldl Sanction.combine first) :=
    (Sanction.gathers_single first).foldl later
  refine ⟨_, mergeAll_eq h, hg.dmContent, hg.dmEmbed, hg.reason.eq, ?_, ?_, ?_⟩
  · intro e he star hstar
    refine Sanction.keeps_carried_iff.mp (hg.carried e he star.reason ?_)
    rw [Sanction.carried, Option.mem_def.mp hstar]
    rfl
  · intro hs e he hstar
    refine Sanction.keeps_carried_iff.mp (hg.carried_of_star ?_ he ?_)
    · exact fun hrole => hs (Infraction.role_eq_star.mp hrole)
    · exact Infraction.role_eq_star.mpr hstar
  · intro e he
    rw [hg.dmContent, hg.dmEmbed]
    exact ⟨Bullets.infix_mergeAll (List.mem_map_of_mem he),
      Bullets.infix_mergeAll (List.mem_map_of_mem he)⟩

/-- A superstar before a mute and another one after it: both reasons end up in the rename, beside the
one that the mute carries. -/
theorem mergeAll_keeps_texts_around_mute :
    let avatar : Sanction := ⟨.superstar, Text.ofString "Avatar", none, Text.ofString "Hi", [], none⟩
    let spam : Sanction :=
      ⟨.mute, Text.ofString "Spam", some 600, [], [], some ⟨Text.ofString "Name", some 60⟩⟩
    let nick : Sanction := ⟨.superstar, Text.ofString "Nick", some 60, Text.ofString "Ho", [], none⟩
    let sets := [ofSanction avatar, empty, ofSanction spam, ofSanction nick]
    let entries := [avatar, spam, nick]
    (sets.filterMap (·.sanction) = entries ∧ entries ≠ []) ∧
      ∃ s, mergeAll sets = ofSanction s ∧ s.infraction ≠ .superstar ∧
        s.dmContent = Bullets.mergeAll [Text.ofString "Hi", [], Text.ofString "Ho"] ∧
        s.reason = Text.ofString "Spam" ∧
        (∃ result ∈ s.superstar, Text.ofString "Name" <:+: result.reason) ∧
        (∃ result ∈ s.superstar, Text.ofString "Avatar" <:+: result.reason) ∧
        ∃ result ∈ s.superstar, Text.ofString "Nick" <:+: result.reason := by
  intro avatar spam nick sets entries
  have hentries : sets.filterMap (·.sanction) = entries := rfl
  have hne : entries ≠ [] := by simp [entries]
  obtain ⟨s, hs, hcontent, -, hreason, hcarried, hstars, -⟩ := mergeAll_keeps_texts hentries hne
  have hmute : s.infraction = .mute := by
    have hmerged : (mergeAll sets).sanction.map (·.infraction) = some .mute := by decide +kernel
    rw [hs] at hmerged
    exact Option.some.inj hmerged
  have hstar : s.infraction ≠ .superstar := by
    rw [hmute]
    decide
  refine ⟨⟨hentries, hne⟩, s, hs, hstar, hcontent, hreason.trans rfl, ?_, ?_, ?_⟩
  · exact hcarried spam (by simp [entries]) _ rfl
  · exact hstars hstar avatar (by simp [entries]) rfl
  · exact hstars hstar nick (by simp [entries]) rfl

end ActionSet

end ChatModeration
