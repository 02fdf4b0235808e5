/-
ChatModeration.Proofs.FoldDirections — merging from either end.

From the first message to the last, the repetitions at the beginning become one
message; from the last to the first, it is those at the end.  In both directions
the text turns into a list of bullet points as soon as there have been two
different messages, and from then on it has a bullet point after a blank line,
which no further message has.

The main statement is `folds_closed_form`.
-/
import ChatModeration.Proofs.FoldedMessages
import Mathlib.Data.List.TakeWhile

namespace ChatModeration.Bullets

variable {messages : List Text} {m : Text}

/-! ## § From the last message to the first -/

/-- The messages with the ones that repeat the last at the end taken for one. -/
def collapsedRight (messages : List Text) : List Text := (collapsed messages.reverse).reverse

theorem collapsedRight_cons (m : Text) (messages : List Text) :
    collapsedRight (m :: messages) =
      if collapsedRight messages = [m] then [m] else m :: collapsedRight messages := by
  have hsingle : (collapsed messages.reverse).reverse = [m] ↔ collapsed messages.reverse = [m] := by
    rw [List.reverse_eq_iff, List.reverse_singleton]
  simp only [collapsedRight, List.reverse_cons, collapsed_concat, hsingle]
  split <;> simp

theorem mem_collapsedRight : m ∈ collapsedRight messages ↔ m ∈ messages := by
  rw [collapsedRight, List.mem_reverse, mem_collapsed, List.mem_reverse]

/-- One more message is put in front of what is listed, unless it is all that is listed. -/
theorem merge_listing_right (hm : m ≠ []) (hpoint : NoPointWithin m)
    (hne : ∀ n ∈ messages, n ≠ []) :
    merge m (listing messages) = listing (if messages = [m] then [m] else m :: messages) := by
  match messages with
  | [] => simp [listing]
  | [n] =>
    by_cases hnm : n = m
    · simp [listing, hnm]
    · have hnot : ¬ ([n] : List Text) = [m] := fun h => hnm (List.singleton_inj.mp h)
      rw [if_neg hnot]
      show merge m n = points [m, n]
      rw [merge_of_ne hm (hne n List.mem_cons_self) (Ne.symm hnm)]
      simp [points_cons, furtherPoints]
  | first :: second :: more =>
    have hnot : ¬ first :: second :: more = [m] := by simp
    rw [if_neg hnot]
    show merge m (points (first :: second :: more)) = points (m :: first :: second :: more)
    have hwithin := point_within first second more
    have hother : m ≠ points (first :: second :: more) := fun h => hpoint (h ▸ hwithin)
    have hlist : points (first :: second :: more) ≠ [] := by
      intro h
      rw [h] at hwithin
      exact absurd (List.infix_nil.mp hwithin) (List.cons_ne_nil _ _)
    rw [merge_of_ne hm hlist hother, mark_points (List.cons_ne_nil _ _), points_cons m,
      points_cons first]
    simp [furtherPoints]

/-- Merged from the right, the messages that are not empty are listed with the repetitions at the end
taken for one. -/
theorem mergeAllRight_eq (h : ∀ m ∈ messages, NoPointWithin m) :
    mergeAllRight messages = listing (collapsedRight (messages.filter (· ≠ []))) := by
  induction messages with
  | nil => rfl
  | cons m messages ih =>
    obtain ⟨hm, hmessages⟩ := List.forall_mem_cons.mp h
    show merge m (mergeAllRight messages) = _
    rw [ih hmessages]
    by_cases hempty : m = []
    · simp [hempty]
    · have hne : ∀ n ∈ collapsedRight (messages.filter (· ≠ [])), n ≠ [] := by
        intro n hn
        simpa using (List.mem_filter.mp (mem_collapsedRight.mp hn)).2
      have hkept : (m :: messages).filter (· ≠ []) = m :: messages.filter (· ≠ []) := by
        simp [hempty]
      rw [merge_listing_right hempty hm hne, hkept, collapsedRight_cons]

/-! ## § Runs of equal messages -/

/-- The longest beginning of equal messages has `k` of them. -/
structure LeadingRun (messages : List Text) (k : Nat) : Prop where
  le_length : k ≤ messages.length
  equal : ∀ m ∈ messages.take k, messages.head? = some m
  longest : ∀ i ≤ messages.length, (∀ m ∈ messages.take i, messages.head? = some m) → i ≤ k

/-- The longest end of equal messages has `j` of them. -/
structure TrailingRun (messages : List Text) (j : Nat) : Prop where
  le_length : j ≤ messages.length
  equal : ∀ m ∈ messages.drop (messages.length - j), messages.getLast? = some m
  longest : ∀ i ≤ messages.length,
    (∀ m ∈ messages.drop (messages.length - i), messages.getLast? = some m) → i ≤ j

/-- A run at the beginning of the messages in reverse is one at their end. -/
theorem LeadingRun.of_reverse {j : Nat} (h : LeadingRun messages.reverse j) :
    TrailingRun messages j := by
  obtain ⟨hle, hequal, hlongest⟩ := h
  simp only [List.length_reverse, List.take_reverse, List.mem_reverse, List.head?_reverse]
    at hle hequal hlongest
  exact ⟨hle, hequal, hlongest⟩

/-- No longer beginning has a property than what is taken while it holds. -/
theorem le_length_takeWhile {p : Text → Bool} {k : Nat} (hk : k ≤ messages.length)
    (hall : ∀ m ∈ messages.take k, p m) : k ≤ (messages.takeWhile p).length := by
  induction messages generalizing k with
  | nil => exact hk
  | cons first later ih =>
    cases k with
    | zero => exact Nat.zero_le _
    | succ k =>
      rw [List.take_succ_cons] at hall
      obtain ⟨hfirst, hlater⟩ := List.forall_mem_cons.mp hall
      rw [List.takeWhile_cons_of_pos hfirst]
      exact Nat.succ_le_succ (ih (Nat.le_of_succ_le_succ hk) hlater)

/-- When the first run is taken for one message, the first is left, and those after the run. -/
theorem exists_leadingRun (messages : List Text) :
    ∃ k, LeadingRun messages k ∧ collapsed messages = messages.take 1 ++ messages.drop k := by
  cases messages with
  | nil => exact ⟨0, ⟨Nat.le_refl _, nofun, fun i hi _ => hi⟩, rfl⟩
  | cons first later =>
    have hfirst : (first :: later).takeWhile (· = first) = first :: later.takeWhile (· = first) :=
      List.takeWhile_cons_of_pos (by simp)
    refine ⟨(first :: later.takeWhile (· = first)).length, ⟨?_, ?_, ?_⟩, ?_⟩
    · rw [← hfirst]
      exact (List.takeWhile_prefix _).length_le
    · intro m hm
      rw [← hfirst, ← List.prefix_iff_eq_take.mp (List.takeWhile_prefix _)] at hm
      simpa [eq_comm] using List.mem_takeWhile_imp hm
    · intro i hi hall
      rw [← hfirst]
      refine le_length_takeWhile hi fun m hm => ?_
      simpa [eq_comm] using hall m hm
    · have hdrop (run rest : List Text) (h : run ++ rest = later) : later.drop run.length = rest := by
        rw [← h]
        exact List.drop_left
      show first :: later.dropWhile (· = first) = _
      simp [hdrop _ _ List.takeWhile_append_dropWhile]

theorem exists_trailingRun (messages : List Text) :
    ∃ j, TrailingRun messages j ∧
      collapsedRight messages =
        messages.take (messages.length - j) ++ messages.drop (messages.length - 1) := by
  obtain ⟨j, hrun, hcollapsed⟩ := exists_leadingRun messages.reverse
  refine ⟨j, hrun.of_reverse, ?_⟩
  rw [collapsedRight, hcollapsed, List.reverse_append, List.take_reverse, List.drop_reverse]
  simp

/-! ## § Both folds -/

/-- When all messages are equal, one is left. -/
theorem collapsed_of_forall_eq (hm : m ∈ messages) (hall : ∀ n ∈ messages, n = m) :
    collapsed messages = [m] := by
  match messages with
  | [] => cases hm
  | first :: later =>
    obtain ⟨rfl, hlater⟩ := List.forall_mem_cons.mp hall
    have hnone : later.dropWhile (· = first) = [] := by
      simpa using hlater
    rw [collapsed, hnone]

/-- **Merged messages, from either end.**  Let no message have a bullet after a blank line, and leave
out the empty ones.  If none is left, both folds give the empty text, and if all that are left are
equal, this message.  Otherwise both give bullet points with blank lines between them: from the first
message to the last, one for the first message and one for each message after the longest beginning
of equal messages; from the last to the first, one for each message before the longest end of equal
messages and one for the last message. -/
theorem folds_closed_form (h : ∀ m ∈ messages, ¬ [0x0A, 0x0A, bullet] <:+: m) :
    let kept := messages.filter (· ≠ [])
    let blankLine : Text := [0x0A, 0x0A]
    (kept = [] → mergeAll messages = [] ∧ mergeAllRight messages = []) ∧
      (∀ m ∈ kept, (∀ n ∈ kept, n = m) → mergeAll messages = m ∧ mergeAllRight messages = m) ∧
      ((∃ m ∈ kept, ∃ n ∈ kept, m ≠ n) →
        (∃ k, LeadingRun kept k ∧ mergeAll messages =
          Text.join blankLine ((kept.take 1 ++ kept.drop k).map mark)) ∧
        ∃ j, TrailingRun kept j ∧ mergeAllRight messages =
          Text.join blankLine
            ((kept.take (kept.length - j) ++ kept.drop (kept.length - 1)).map mark)) := by
  intro kept blankLine
  have hleft : mergeAll messages = listing (collapsed kept) := mergeAll_eq h
  have hright : mergeAllRight messages = listing (collapsedRight kept) := mergeAllRight_eq h
  refine ⟨?_, ?_, ?_⟩
  · intro hnone
    rw [hleft, hright, hnone]
    exact ⟨rfl, rfl⟩
  · intro m hm hall
    have hreverse : collapsed kept.reverse = [m] :=
      collapsed_of_forall_eq (List.mem_reverse.mpr hm)
        fun n hn => hall n (List.mem_reverse.mp hn)
    rw [hleft, hright, collapsed_of_forall_eq hm hall, collapsedRight, hreverse]
    exact ⟨rfl, rfl⟩
  · rintro ⟨m, hm, n, hn, hne⟩
    obtain ⟨k, hk, hcollapsed⟩ := exists_leadingRun kept
    obtain ⟨j, hj, hcollapsedRight⟩ := exists_trailingRun kept
    refine ⟨⟨k, hk, ?_⟩, j, hj, ?_⟩
    · rw [hleft, listing_of_ne (mem_collapsed.mpr hm) (mem_collapsed.mpr hn) hne, hcollapsed]
      rfl
    · rw [hright, listing_of_ne (mem_collapsedRight.mpr hm) (mem_collapsedRight.mpr hn) hne,
        hcollapsedRight]
      rfl

/-- Messages that are repeated at both ends: each fold takes one of the two runs for one message. -/
theorem folds_closed_form_both_ends :
    let messages := ["no spam", "", "no spam", "• be kind", "no ads", "no ads"].map Text.ofString
    let kept := messages.filter (· ≠ [])
    let blankLine : Text := [0x0A, 0x0A]
    (∀ m ∈ messages, ¬ [0x0A, 0x0A, bullet] <:+: m) ∧ (∃ m ∈ kept, ∃ n ∈ kept, m ≠ n) ∧
      (∃ k, LeadingRun kept k ∧
        Text.ofString "• no spam\n\n• be kind\n\n• no ads\n\n• no ads" =
          Text.join blankLine ((kept.take 1 ++ kept.drop k).map mark)) ∧
      ∃ j, TrailingRun kept j ∧
        Text.ofString "• no spam\n\n• no spam\n\n• be kind\n\n• no ads" =
          Text.join blankLine
            ((kept.take (kept.length - j) ++ kept.drop (kept.length - 1)).map mark) := by
  intro messages kept blankLine
  have hplain : ∀ m ∈ messages, ¬ [0x0A, 0x0A, bullet] <:+: m := by decide +kernel
  have hseveral : ∃ m ∈ kept, ∃ n ∈ kept, m ≠ n := by decide +kernel
  have hleft : mergeAll messages =
      Text.ofString "• no spam\n\n• be kind\n\n• no ads\n\n• no ads" := by decide +kernel
  have hright : mergeAllRight messages =
      Text.ofString "• no spam\n\n• no spam\n\n• be kind\n\n• no ads" := by decide +kernel
  obtain ⟨-, -, hfolds⟩ := folds_closed_form hplain
  obtain ⟨⟨k, hk, hpoints⟩, j, hj, hpointsRight⟩ := hfolds hseveral
  exact ⟨hplain, hseveral, ⟨k, hk, hleft.symm.trans hpoints⟩, j, hj,
    hright.symm.trans hpointsRight⟩

end ChatModeration.Bullets
