/-
ChatModeration.Proofs.BlankSanctions — when a sanction that asks for nothing changes a reduction.

On the left of a combination the blank sanction changes nothing.  On the right
it changes nothing either unless the sanction before it has no infraction: of
two absent infractions the later one stays, so that a reason or a duration
which was given without an infraction is lost.  A reduction goes from the first
sanction to the last, and what follows the blank sanction takes the place of
what it has erased.  The loss is therefore seen only at the end of a reduction
in which nobody infracts.

The main statement is `mergeAll_blank_iff`.
-/
import ChatModeration.Proofs.ReducedTexts
import Mathlib.Data.List.Induction

namespace ChatModeration

theorem Superstar.combine?_none_right (star : Option Superstar) :
    combine? star none = star := by
  cases star <;> rfl

namespace Sanction

variable {first s : Sanction} {later : List Sanction}

/-! ## § Beside the blank sanction -/

/-- The sanction without what is said about its infraction. -/
def bare (s : Sanction) : Sanction := { s with reason := [], duration := none }

/-- A sanction that says nothing about its infraction. -/
def IsBare (s : Sanction) : Prop := s.reason = [] ∧ s.duration = none

theorem bare_eq_self_iff (s : Sanction) : s.bare = s ↔ s.IsBare := by
  obtain ⟨infraction, reason, duration, dmContent, dmEmbed, superstar⟩ := s
  simp [bare, IsBare, eq_comm]

@[simp] theorem blank_combine (s : Sanction) : blank.combine s = s := by
  rw [combine_absent_left rfl]
  simp [blank, Superstar.combine?]

theorem combine_blank_of_ne_none (h : s.infraction ≠ .none) : s.combine blank = s := by
  have hrole : s.infraction.role ≠ .absent := fun hr => h (Infraction.role_eq_absent.mp hr)
  rw [combine_absent_right hrole rfl]
  simp [blank, Superstar.combine?_none_right]

/-- Of two absent infractions the later one stays. -/
theorem combine_blank_of_eq_none (h : s.infraction = .none) :
    s.combine blank = s.bare := by
  rw [combine_absent_left (Infraction.role_eq_absent.mpr h), bare, h]
  simp [blank, Superstar.combine?_none_right]

/-- What is said about an absent infraction is not passed on. -/
theorem bare_combine (h : s.infraction = .none) (t : Sanction) :
    s.bare.combine t = s.combine t := by
  have hrole : s.infraction.role = .absent := Infraction.role_eq_absent.mpr h
  have hrole' : s.bare.infraction.role = .absent := hrole
  rw [combine_absent_left hrole, combine_absent_left hrole']
  rfl

/-! ## § Reductions in which nobody infracts -/

theorem combine_infraction_eq_none_iff (s t : Sanction) :
    (s.combine t).infraction = .none ↔ s.infraction = .none ∧ t.infraction = .none := by
  have hrole := role_combine s t
  simp only [role] at hrole
  rw [← Infraction.role_eq_absent, ← Infraction.role_eq_absent, ← Infraction.role_eq_absent, hrole]
  cases s.infraction.role <;> cases t.infraction.role <;> decide

/-- A reduction has an infraction just when one of its sanctions has. -/
theorem foldl_combine_infraction_eq_none_iff (first : Sanction) (later : List Sanction) :
    (later.foldl combine first).infraction = .none ↔
      ∀ s ∈ first :: later, s.infraction = .none := by
  induction later generalizing first with
  | nil => simp
  | cons t rest ih => simp [ih, combine_infraction_eq_none_iff, and_assoc]

/-- Where nobody infracts, the last sanction says what there is to say. -/
theorem foldl_combine_isBare_iff (h : ∀ s ∈ first :: later, s.infraction = .none) :
    (later.foldl combine first).IsBare ↔
      ∀ last ∈ (first :: later).getLast?, last.IsBare := by
  induction later using List.reverseRecOn with
  | nil => simp
  | append_singleton init last _ =>
    have hinit : (init.foldl combine first).infraction = .none := by
      refine (foldl_combine_infraction_eq_none_iff first init).mpr fun s hs => h s ?_
      rw [← List.cons_append]
      exact List.mem_append_left _ hs
    rw [List.foldl_append, List.foldl_cons, List.foldl_nil,
      combine_absent_left (Infraction.role_eq_absent.mpr hinit), ← List.cons_append,
      List.getLast?_concat]
    simp [IsBare]

/-! ## § One more blank sanction -/

/-- What sanctions say about their infractions outlasts a blank sanction between them and others:
one of the others follows, or somebody infracts before it, or the last one before it says nothing. -/
def Covered (earlier later : List Sanction) : Prop :=
  later ≠ [] ∨ (∃ s ∈ earlier, s.infraction ≠ .none) ∨ ∀ last ∈ earlier.getLast?, last.IsBare

/-- A blank sanction after others. -/
theorem foldl_combine_blank (first : Sanction) (earlier later : List Sanction) :
    let s := (earlier ++ later).foldl combine first
    let t := (earlier ++ blank :: later).foldl combine first
    (t = s ↔ Covered (first :: earlier) later) ∧
      (t = s ∨ s.infraction = .none ∧ t = s.bare) := by
  intro s t
  have hs : s = later.foldl combine (earlier.foldl combine first) := List.foldl_append
  have ht : t = later.foldl combine ((earlier.foldl combine first).combine blank) :=
    List.foldl_append.trans List.foldl_cons
  by_cases hnone : (earlier.foldl combine first).infraction = .none
  · rw [combine_blank_of_eq_none hnone] at ht
    have hquiet := (foldl_combine_infraction_eq_none_iff first earlier).mp hnone
    cases later with
    | nil =>
      -- nothing takes the place of what the blank sanction erases
      have hcovered : Covered (first :: earlier) [] ↔
          (earlier.foldl combine first).IsBare := by
        rw [foldl_combine_isBare_iff hquiet, Covered, or_iff_right (by simp),
          or_iff_right (by simpa using hquiet)]
      rw [List.foldl_nil] at hs ht
      rw [hcovered, hs, ht, bare_eq_self_iff]
      exact ⟨Iff.rfl, Or.inr ⟨hnone, rfl⟩⟩
    | cons next rest =>
      rw [List.foldl_cons, bare_combine hnone, ← List.foldl_cons, ← hs] at ht
      have hcovered : Covered (first :: earlier) (next :: rest) := Or.inl (List.cons_ne_nil _ _)
      exact ⟨iff_of_true ht hcovered, Or.inl ht⟩
  · rw [combine_blank_of_ne_none hnone, ← hs] at ht
    have hcovered : Covered (first :: earlier) later := by
      rw [foldl_combine_infraction_eq_none_iff] at hnone
      push Not at hnone
      exact Or.inr (Or.inl hnone)
    exact ⟨iff_of_true ht hcovered, Or.inl ht⟩

end Sanction

namespace ActionSet

open Sanction

variable {before after : List ActionSet}

/-- **When a blank sanction changes nothing.**  Put among sets of which at least one is a sanction,
it leaves the reduction as it is just when another sanction follows it, or some sanction before it
has an infraction, or the last one before it has neither a reason nor a duration.  In any case no
more is lost than the reason and the duration of an infraction that nobody committed. -/
theorem mergeAll_blank_iff (hpresent : (before ++ after).filterMap (·.sanction) ≠ []) :
    (mergeAll (before ++ ofSanction blank :: after) = mergeAll (before ++ after) ↔
      Covered (before.filterMap (·.sanction)) (after.filterMap (·.sanction))) ∧
    ∃ s t, mergeAll (before ++ after) = ofSanction s ∧
      mergeAll (before ++ ofSanction blank :: after) = ofSanction t ∧
      (t = s ∨ s.infraction = .none ∧ t = s.bare) := by
  have hwithout : (before ++ after).filterMap (·.sanction) =
      before.filterMap (·.sanction) ++ after.filterMap (·.sanction) := List.filterMap_append
  have hwith : (before ++ ofSanction blank :: after).filterMap (·.sanction) =
      before.filterMap (·.sanction) ++ blank :: after.filterMap (·.sanction) :=
    List.filterMap_append
  rw [hwithout] at hpresent
  generalize before.filterMap (·.sanction) = earlier at *
  generalize after.filterMap (·.sanction) = later at *
  cases earlier with
  | nil =>
    obtain ⟨first, rest, rfl⟩ := List.exists_cons_of_ne_nil hpresent
    have ht := mergeAll_eq hwith
    rw [List.foldl_cons, blank_combine] at ht
    have hsame := ht.trans (mergeAll_eq hwithout).symm
    have hcovered : Covered [] (first :: rest) := Or.inl (List.cons_ne_nil _ _)
    exact ⟨iff_of_true hsame hcovered, _, _, mergeAll_eq hwithout, ht, Or.inl rfl⟩
  | cons first earlier =>
    obtain ⟨hiff, hlost⟩ := foldl_combine_blank first earlier later
    have hs := mergeAll_eq hwithout
    have ht := mergeAll_eq hwith
    refine ⟨?_, _, _, hs, ht, hlost⟩
    rw [← hiff, hs, ht]
    simp [ofSanction]

/-- A reason that is given without an infraction is kept when a mute follows. -/
theorem mergeAll_blank_iff_before_mute :
    let remark : Sanction := ⟨.none, Text.ofString "spam", none, Text.ofString "Hi", [], none⟩
    let mute : Sanction := ⟨.mute, Text.ofString "flood", some 600, [], [], none⟩
    let before := [ofSanction remark]
    let after := [empty, ofSanction mute]
    (before ++ after).filterMap (·.sanction) ≠ [] ∧
      mergeAll (before ++ ofSanction blank :: after) = mergeAll (before ++ after) ∧
      mergeAll (before ++ ofSanction blank :: after) =
        ofSanction { mute with dmContent := Text.ofString "Hi" } := by
  intro remark mute before after
  have hpresent : (before ++ after).filterMap (·.sanction) ≠ [] := by simp [before, ofSanction]
  have hsame := (mergeAll_blank_iff hpresent).1.mpr (Or.inl (by simp [after, ofSanction, empty]))
  exact ⟨hpresent, hsame, hsame.trans (by decide)⟩

/-- The blank sanction is not always an identity: after a sanction that has a reason but no
infraction it erases the reason. -/
theorem mergeAll_blank_fails :
    let remark : Sanction := ⟨.none, Text.ofString "spam", none, [], [], none⟩
    mergeAll [ofSanction remark, ofSanction blank] ≠ mergeAll [ofSanction remark] := by
  decide

end ActionSet

end ChatModeration
