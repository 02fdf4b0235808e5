/-
ChatModeration.Proofs.KeyedTables — lists in which nothing occurs twice.

A table is a list of keys with their values.  Where no key occurs twice, each
entry is the one that is found under its key.  `List.eraseDups` keeps the first
occurrence of every member of a list; the lemmas here follow it as the list
grows at its end.
-/
import Mathlib.Data.List.Induction
import Mathlib.Data.List.Nodup

namespace ChatModeration

/-! ## § Finding entries -/

theorem find?_of_nodup {α β : Type} [DecidableEq β] {f : α → β} {l : List α} {a : α}
    (hnodup : (l.map f).Nodup) (ha : a ∈ l) : l.find? (fun x => f x = f a) = some a := by
  have hsome : (l.find? fun x => f x = f a).isSome :=
    List.find?_isSome.mpr ⟨a, ha, decide_eq_true rfl⟩
  obtain ⟨x, hx⟩ := Option.isSome_iff_exists.mp hsome
  have hfound : f x = f a := by simpa using List.find?_some hx
  rw [hx, List.inj_on_of_nodup_map hnodup (List.mem_of_find?_eq_some hx) ha hfound]

theorem lookup_cons_eq {α β : Type} [BEq α] [LawfulBEq α] [DecidableEq α] (entry : α × β)
    (l : List (α × β)) (k : α) :
    (entry :: l).lookup k = if k = entry.1 then some entry.2 else l.lookup k := by
  by_cases h : k = entry.1
  · rw [if_pos h, h]
    exact List.lookup_cons_self
  · rw [if_neg h, List.lookup_cons, beq_eq_false_iff_ne.mpr h]

theorem lookup_of_nodup {α β : Type} [BEq α] [LawfulBEq α] {l : List (α × β)} {k : α} {v : β}
    (hnodup : (l.map (·.1)).Nodup) (h : (k, v) ∈ l) : l.lookup k = some v := by
  cases hlookup : l.lookup k with
  | none => exact absurd rfl (bne_iff_ne.mp (List.lookup_eq_none_iff.mp hlookup (k, v) h))
  | some found =>
    obtain ⟨before, after, rfl, -⟩ := List.lookup_eq_some_iff.mp hlookup
    have hsame := List.inj_on_of_nodup_map hnodup h
      (List.mem_append_right before List.mem_cons_self) rfl
    rw [(Prod.mk.inj hsame).2]

/-! ## § Last occurrences -/

section Last

variable {α β γ : Type}

theorem exists_last {p : α → Prop} {l : List α} (h : ∃ a ∈ l, p a) :
    ∃ before a after, l = before ++ a :: after ∧ p a ∧ ∀ b ∈ after, ¬ p b := by
  induction l with
  | nil => simp at h
  | cons first rest ih =>
    by_cases hrest : ∃ a ∈ rest, p a
    · obtain ⟨before, a, after, rfl, ha, hafter⟩ := ih hrest
      exact ⟨first :: before, a, after, rfl, ha, hafter⟩
    · push Not at hrest
      obtain ⟨a, hmem, ha⟩ := h
      rcases List.mem_cons.mp hmem with rfl | hmem
      · exact ⟨[], a, rest, rfl, ha, hrest⟩
      · exact absurd ha (hrest a hmem)

theorem findSome?_filterMap (f : α → Option β) (g : β → Option γ) (l : List α) :
    (l.filterMap f).findSome? g = l.findSome? fun a => (f a).bind g := by
  induction l with
  | nil => rfl
  | cons a rest ih => cases h : f a <;> simp [h, ih, List.findSome?_cons]

/-- In a table that is read from its end the last entry of a key counts. -/
theorem lookup_reverse_filterMap [BEq β] [LawfulBEq β] {f : α → Option (β × γ)} {l : List α}
    {k : β} {v : γ} : (l.filterMap f).reverse.lookup k = some v ↔
      ∃ before a after, l = before ++ a :: after ∧ f a = some (k, v) ∧
        ∀ b ∈ after, ∀ w, f b ≠ some (k, w) := by
  have hsome (a : α) (w : γ) :
      ((f a).bind fun e => if k == e.1 then some e.2 else none) = some w ↔ f a = some (k, w) := by
    cases f a with
    | none => simp
    | some e =>
      obtain ⟨key, value⟩ := e
      simp [@eq_comm β k key]
  have hnone (a : α) : ((f a).bind fun e => if k == e.1 then some e.2 else none) = none ↔
      ∀ w, f a ≠ some (k, w) := by
    rw [Option.eq_none_iff_forall_ne_some]
    exact forall_congr' fun w => not_congr (hsome a w)
  rw [← List.filterMap_reverse, List.lookup_eq_findSome?, findSome?_filterMap,
    List.findSome?_eq_some_iff]
  simp only [hsome, hnone]
  constructor
  · rintro ⟨after, a, before, hl, ha, hafter⟩
    refine ⟨before.reverse, a, after.reverse, ?_, ha, fun b hb => hafter b (List.mem_reverse.mp hb)⟩
    rw [← List.reverse_reverse l, hl]
    simp
  · rintro ⟨before, a, after, rfl, ha, hafter⟩
    exact ⟨after.reverse, a, before.reverse, by simp, ha,
      fun b hb => hafter b (List.mem_reverse.mp hb)⟩

end Last

/-! ## § First occurrences -/

variable {α : Type} [BEq α] [LawfulBEq α]

theorem eraseDups_concat (l : List α) (a : α) :
    (l ++ [a]).eraseDups = if a ∈ l then l.eraseDups else l.eraseDups ++ [a] := by
  rw [List.eraseDups_append, List.removeAll]
  split <;> simp [*, List.eraseDups_cons]

theorem nodup_eraseDups (l : List α) : l.eraseDups.Nodup := by
  induction l using List.reverseRecOn with
  | nil => simp
  | append_singleton l a ih =>
    rw [eraseDups_concat]
    split
    · exact ih
    · next hnew =>
      rw [← List.mem_eraseDups] at hnew
      exact List.nodup_append.mpr ⟨ih, List.nodup_singleton a, by grind⟩

end ChatModeration
