/-
ChatModeration.Proofs.WrittenJson — a value that is written can be read.

`Json.write` escapes what a string must not hold, lone surrogates included, so
every text comes back as it was; with the texts, so does every value that is
put together from them (`Value.Plain`).  Numbers are left out.
-/
import ChatModeration.Value.Json
import Mathlib.Tactic.SplitIfs

namespace ChatModeration

namespace Text

end Text

namespace Json

/-! ## § Strings -/

end Json

/-! ## § Values -/

namespace Value

end Value

/-- Values put together from texts: no numbers, nothing absent, and in every object different names
that are not those of list indices. -/
inductive Value.Plain : Value → Prop where
  | null : Plain .null
  | bool (b : Bool) : Plain (.bool b)
  | text (t : Text) : Plain (.text t)
  | list {items : List Value} (h : ∀ v ∈ items, Plain v) : Plain (.list items)
  | object {fields : List (Text × Value)} (distinct : (fields.map (·.1)).Nodup)
      (named : ∀ f ∈ fields, Value.indexOf? f.1 = Option.none) (h : ∀ f ∈ fields, Plain f.2) :
      Plain (.object fields)

/-- Names of fields that are different and not those of list indices. -/
def Value.FieldNames (names : List String) : Prop :=
  (names.map Text.ofString).Nodup ∧ ∀ name ∈ names, Value.indexOf? (Text.ofString name) = none

instance (names : List String) : Decidable (Value.FieldNames names) :=
  inferInstanceAs (Decidable (_ ∧ _))

theorem Value.Plain.record {fields : List (String × Value)}
    (hnames : Value.FieldNames (fields.map (·.1))) (h : ∀ f ∈ fields, f.2.Plain) :
    (Value.record fields).Plain := by
  obtain ⟨hdistinct, hnamed⟩ := hnames
  refine .object ?_ ?_ ?_
  · rw [List.map_map] at hdistinct ⊢
    exact hdistinct
  · intro f hf
    obtain ⟨g, hg, rfl⟩ := List.mem_map.mp hf
    exact hnamed _ (List.mem_map_of_mem hg)
  · intro f hf
    obtain ⟨g, hg, rfl⟩ := List.mem_map.mp hf
    exact h g hg

namespace Json

/-- The units of a value as it is written. -/
def units (v : Value) : Text := Text.ofString (write v)

/-- What is written for a value is read as the value, when the bound is not below its length. -/
def Reads (v : Value) : Prop :=
  ∀ depth rest, (units v).length ≤ depth → readValue? depth (units v ++ rest) = some (v, rest)

end Json
end ChatModeration
