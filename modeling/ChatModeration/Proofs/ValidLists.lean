/-
ChatModeration.Proofs.ValidLists — what is written in a list that passes its check.

A check is put together from checks of the parts, so a value that passes it has
parts that pass theirs: one equation for each way to put checks together
(`map_eq_valid` to `list_eq_valid`), and then what they say of a configured
list.  `RawList.Reads` and `RawFilter.Reads` tie what the check gives to the
fields of the value; nothing of them is changed on the way.
-/
import ChatModeration.Schema.RawList
import Mathlib.Data.List.Forall2

namespace ChatModeration

/-! ## § Outcomes of checks -/

namespace Checked

variable {α β : Type}

@[simp] theorem map_eq_valid {f : α → β} {c : Checked α} {b : β} :
    f <$> c = valid b ↔ ∃ a, c = valid a ∧ f a = b := by
  cases c <;> simp [Functor.map, Checked.map]

@[simp] theorem seq_eq_valid {f : Checked (α → β)} {c : Checked α} {b : β} :
    f <*> c = valid b ↔ ∃ g a, f = valid g ∧ c = valid a ∧ g a = b := by
  cases f <;> cases c <;> simp [Seq.seq, Checked.seq]

@[simp] theorem under_eq_valid {step : PathStep} {c : Checked α} {a : α} :
    c.under step = valid a ↔ c = valid a := by
  cases c <;> simp [Checked.under]

theorem all_eq_valid {cs : List (Checked α)} {as : List α} :
    all cs = valid as ↔ List.Forall₂ (fun c a => c = valid a) cs as := by
  induction cs generalizing as with
  | nil => simp [all, eq_comm]
  | cons c rest ih =>
    simp only [all, seq_eq_valid, map_eq_valid, ih]
    constructor
    · rintro ⟨_, later, ⟨a, hc, rfl⟩, hrest, rfl⟩
      exact .cons hc hrest
    · rintro (_ | ⟨hc, hrest⟩)
      exact ⟨_, _, ⟨_, hc, rfl⟩, hrest, rfl⟩

end Checked

namespace Check

open Checked (valid)

variable {α : Type}

@[simp] theorem wrongType_ne_valid (expected : String) (v : Value) (a : α) :
    wrongType expected v ≠ valid a := nofun

@[simp] theorem field_eq_valid {v : Value} {name : String} {check : Check α} {a : α} :
    field v name check = valid a ↔ check (v.field name) = valid a := by
  simp [field]

theorem object_eq_valid {fields : Value → Checked α} {v : Value} {a : α} :
    object fields v = valid a ↔ (∃ fs, v = .object fs) ∧ fields v = valid a := by
  cases v <;> simp [object]

theorem list_eq_valid {check : Check α} {v : Value} {as : List α} :
    list check v = valid as ↔
      (∃ items, v = .list items) ∧ List.Forall₂ (fun item a => check item = valid a) v.items as := by
  have hitems (items : List Value) (k : Nat) :
      List.Forall₂ (fun c a => c = valid a)
          ((items.zipIdx k).map fun p => (check p.1).under (.item p.2)) as ↔
        List.Forall₂ (fun item a => check item = valid a) items as := by
    induction items generalizing k as with
    | nil => simp
    | cons item rest ih =>
      cases as with
      | nil => simp
      | cons a later => simp [ih]
  cases v <;> simp [list, Checked.all_eq_valid, Value.items, hitems]

theorem text_eq_valid {v : Value} {t : Text} : text v = valid t ↔ v = .text t := by
  cases v <;> simp [text]

theorem text_of_nonEmptyText {v : Value} {t : Text} (h : nonEmptyText v = valid t) :
    v = .text t := by
  cases v with
  | text written =>
    simp only [nonEmptyText] at h
    split at h
    · cases h
    · rw [Checked.valid.inj h]
  | _ => cases h

theorem ne_nil_of_nonEmptyText {v : Value} {t : Text} (h : nonEmptyText v = valid t) : t ≠ [] := by
  rw [text_of_nonEmptyText h, nonEmptyText] at h
  split at h
  · cases h
  · rename_i hne
    cases h
    exact hne

theorem number_of_integer {v : Value} {n : Number} (h : integer v = valid n) : v = .number n := by
  cases v with
  | number written =>
    simp only [integer, number?] at h
    split at h
    · cases h
    · rename_i hsome
      split at hsome
      · cases hsome
      · cases hsome
        split at h
        · rw [Checked.valid.inj h]
        · cases h
  | _ => cases h

/-- A value that may be absent stands for the default then. -/
theorem withDefault_eq_valid {fallback v : Value} {check : Check α} {a : α} :
    withDefault fallback check v = valid a ↔
      (v = .absent ∧ check fallback = valid a) ∨ (v ≠ .absent ∧ check v = valid a) := by
  cases v <;> simp [withDefault]

theorem nullish_of_not_given {check : Check α} {v : Value} (h : v.isGiven = false) :
    nullish check v = valid none := by
  cases v with
  | absent => rfl
  | null => rfl
  | _ => cases h

theorem nullish_of_given {check : Check α} {v : Value} (h : v.isGiven = true) :
    nullish check v = some <$> check v := by
  cases v with
  | absent => cases h
  | null => cases h
  | _ => rfl

/-- A value that may be missing: it is, or it passes the check. -/
theorem nullish_eq_valid {check : Check α} {v : Value} {a : Option α} :
    nullish check v = valid a ↔
      (v.isGiven = false ∧ a = none) ∨ (v.isGiven = true ∧ ∃ b, check v = valid b ∧ a = some b) := by
  cases hv : v.isGiven with
  | false => simp [nullish_of_not_given hv, eq_comm]
  | true => simp [nullish_of_given hv, eq_comm]

end Check

/-! ## § Configured lists -/

/-- The filter is the one that is written down in the value. -/
structure RawFilter.Reads (f : RawFilter) (v : Value) : Prop where
  id : v.field "id" = .number f.id
  content : v.field "content" = .text f.content
  description : f.description = (v.field "description").text?
  /-- A reaction of its own, if one is given. -/
  actions : (f.actions = none ∧ (v.field "actions").isGiven = false) ∨
    ∃ own, f.actions = some own ∧ Check.actions (v.field "actions") = .valid own

/-- The list is the one that is written down in the value. -/
structure RawList.Reads (raw : RawList) (v : Value) : Prop where
  name : v.field "name" = .text raw.name
  defaults : Check.actions ((v.field "defaults").field "actions") = .valid raw.defaults
  filters : List.Forall₂ RawFilter.Reads raw.filters (v.field "filters").items

namespace Check

theorem reads_of_rawFilter {v : Value} {f : RawFilter} (h : rawFilter v = .valid f) : f.Reads v := by
  obtain ⟨-, hfields⟩ := object_eq_valid.mp h
  simp only [Checked.seq_eq_valid, Checked.map_eq_valid, field_eq_valid] at hfields
  obtain ⟨_, actions, ⟨_, description, ⟨_, content, ⟨id, hid, rfl⟩, hcontent, rfl⟩,
    hdescription, rfl⟩, hactions, rfl⟩ := hfields
  refine ⟨number_of_integer hid, text_of_nonEmptyText hcontent, ?_, ?_⟩
  · rcases nullish_eq_valid.mp hdescription with ⟨hgiven, rfl⟩ | ⟨-, t, ht, rfl⟩
    · cases hv : v.field "description" <;> simp_all [Value.isGiven, Value.text?]
    · rw [text_eq_valid.mp ht]
      rfl
  · rcases nullish_eq_valid.mp hactions with ⟨hgiven, rfl⟩ | ⟨-, own, hown, rfl⟩
    · exact Or.inl ⟨rfl, hgiven⟩
    · exact Or.inr ⟨own, rfl, hown⟩

/-- A list that passes its check is the one that is written down. -/
theorem reads_of_rawList {v : Value} {raw : RawList} (h : rawList v = .valid raw) :
    raw.Reads v := by
  obtain ⟨-, hfields⟩ := object_eq_valid.mp h
  simp only [Checked.seq_eq_valid, Checked.map_eq_valid, field_eq_valid] at hfields
  obtain ⟨_, filters, ⟨_, defaults, ⟨name, hname, rfl⟩, hdefaults, rfl⟩, hfilters, rfl⟩ := hfields
  refine ⟨text_of_nonEmptyText hname, ?_, ?_⟩
  · rcases withDefault_eq_valid.mp hdefaults with ⟨hv, h⟩ | ⟨-, h⟩
    · rw [hv]
      exact field_eq_valid.mp (object_eq_valid.mp h).2
    · exact field_eq_valid.mp (object_eq_valid.mp h).2
  · have hread {items : List Value}
        (hall : List.Forall₂ (fun item f => rawFilter item = .valid f) items filters) :
        List.Forall₂ RawFilter.Reads filters items :=
      (hall.imp fun _ _ hf => reads_of_rawFilter hf).flip
    rcases withDefault_eq_valid.mp hfilters with ⟨hv, h⟩ | ⟨-, h⟩
    · rw [hv]
      exact hread (list_eq_valid.mp h).2
    · exact hread (list_eq_valid.mp h).2

end Check

end ChatModeration
