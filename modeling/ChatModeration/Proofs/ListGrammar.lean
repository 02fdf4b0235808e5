/-
ChatModeration.Proofs.ListGrammar — what a configured list looks like.

`Grammar.rawList` says which values are configured lists, and `Value.batch` what
filters such a value holds, without saying how either is found out.  The check
for configured lists is put together from checks of the parts, and each of them
follows its part of the grammar (`follows_text` to `follows_rawList`).

The main statement is `rawList_grammar`: what is accepted, what it gives, how
far the spelling matters, and at which places it is faulted.
-/
import ChatModeration.Proofs.CheckedGrammars
import Mathlib.Data.Rat.Defs

namespace ChatModeration

/-! ## § Numbers -/

namespace Number

theorem isInteger_iff (n : Number) : n.isInteger = true ↔ ∃ k : Int, n.toRat? = some (k : Rat) := by
  have hwhole (q : Rat) : (if q.den = 1 then some q.num else none).isSome = true ↔
      ∃ k : Int, q = (k : Rat) := by
    constructor
    · intro h
      split at h
      · next hden => exact ⟨q.num, (Rat.den_eq_one_iff q).mp hden |>.symm⟩
      · cases h
    · rintro ⟨k, rfl⟩
      rfl
  cases n with
  | nan => simp [isInteger, toInt?, toRat?]
  | infinity negative => simp [isInteger, toInt?, toRat?]
  | negativeZero => exact (hwhole 0).trans (by simp [toRat?])
  | finite q => exact (hwhole q).trans (by simp [toRat?])

theorem isFinite_and_not_lt_iff (n : Number) :
    (n.isFinite = true ∧ n.lt 0 = false) ↔ ∃ q : Rat, n.toRat? = some q ∧ 0 ≤ q := by
  cases n with
  | nan => simp [isFinite, toRat?]
  | infinity negative => simp [isFinite, toRat?]
  | negativeZero =>
    refine iff_of_true ⟨rfl, by decide⟩ ⟨0, rfl, Rat.le_refl⟩
  | finite q =>
    have hlt : (finite q).lt 0 = decide (q < 0) := rfl
    rw [hlt, decide_eq_false_iff_not, Rat.not_lt]
    exact ⟨fun h => ⟨q, rfl, h.2⟩, fun ⟨p, hp, h⟩ => ⟨rfl, Option.some.inj hp ▸ h⟩⟩

end Number

/-! ## § What is well formed -/

namespace Grammar

def text : Grammar := scalar fun v => ∃ t, v = .text t

def nonEmptyText : Grammar := scalar fun v => ∃ t, v = .text t ∧ t ≠ []

/-- A text that is empty when it is left out. -/
def textOrEmpty : Grammar := optional (some (.text [])) text

def integer : Grammar := scalar fun v => ∃ n, v = .number n ∧ ∃ k : Int, n.toRat? = some (k : Rat)

/-- A finite number that is not negative. -/
def duration : Grammar := scalar fun v => ∃ n, v = .number n ∧ ∃ q, n.toRat? = some q ∧ 0 ≤ q

/-- A text that names an infraction. -/
def infraction : Grammar := scalar fun v => ∃ t, v = .text t ∧ ∃ i, Infraction.read t = .ok i

def superstar : Grammar := object [("reason", textOrEmpty), ("duration", duration.nullish)]

def sanction : Grammar := object
  [("infraction_type", infraction.nullish), ("infraction_reason", textOrEmpty),
    ("infraction_duration", duration.nullish), ("dm_content", textOrEmpty),
    ("dm_embed", textOrEmpty), ("superstar", superstar.nullish)]

/-- Reactions; where they are left out there are none. -/
def actions : Grammar :=
  optional (some (.object [])) (object [(sanctionKey, optional none sanction)])

def filter : Grammar := object
  [("id", integer), ("content", nonEmptyText), ("description", text.nullish),
    ("actions", actions.nullish)]

/-- A configured list. -/
def rawList : Grammar := object
  [("name", nonEmptyText),
    ("defaults", optional (some (.object [])) (object [("actions", actions)])),
    ("filters", optional (some (.list [])) (list filter))]

end Grammar

/-! ## § What is written -/

namespace Value

def writtenText (v : Value) : Text := v.text?.getD []

def writtenNumber (v : Value) : Number := v.number?.getD .nan

/-- The infraction of that name; a text that is missing names none. -/
def writtenInfraction (v : Value) : Infraction :=
  match Infraction.read v.writtenText with
  | .ok i => i
  | .error _ => .none

def writtenSuperstar (v : Value) : Superstar :=
  ⟨(v.field "reason").writtenText, (v.field "duration").ifGiven writtenNumber⟩

def writtenSanction (v : Value) : Sanction where
  infraction := (v.field "infraction_type").writtenInfraction
  reason := (v.field "infraction_reason").writtenText
  duration := (v.field "infraction_duration").ifGiven writtenNumber
  dmContent := (v.field "dm_content").writtenText
  dmEmbed := (v.field "dm_embed").writtenText
  superstar := (v.field "superstar").ifGiven writtenSuperstar

def writtenActions (v : Value) : ActionSet := ⟨(v.field sanctionKey).ifPresent writtenSanction⟩

def writtenFilter (v : Value) : RawFilter where
  id := (v.field "id").writtenNumber
  content := (v.field "content").writtenText
  description := (v.field "description").ifGiven writtenText
  actions := (v.field "actions").ifGiven writtenActions

def writtenList (v : Value) : RawList where
  name := (v.field "name").writtenText
  defaults := ((v.field "defaults").field "actions").writtenActions
  filters := (v.field "filters").items.map writtenFilter

/-- The filters of a configured list; one that has no sanction of its own has the default. -/
def batch (v : Value) : FilterBatch where
  name := (v.field "name").writtenText
  filters := (v.field "filters").items.map fun f =>
    { id := (f.field "id").writtenNumber
      content := (f.field "content").writtenText
      description := (f.field "description").ifGiven writtenText
      actions := ⟨((f.field "actions").field sanctionKey).ifPresent writtenSanction |>.or
        ((((v.field "defaults").field "actions").field sanctionKey).ifPresent writtenSanction)⟩ }

end Value

/-! ## § Every check follows its part of the grammar -/

namespace Check

open Checked (valid)
open Value

theorem refused_at_root (expected : String) (v : Value) {α : Type} :
    ∃ i more, (wrongType expected v : Checked α) = .invalid (i :: more) ∧
      ∀ issue ∈ i :: more, issue.path = [] :=
  ⟨_, [], rfl, by simp⟩

theorem follows_text : Follows text Grammar.text writtenText := by
  refine follows_scalar ?_ fun v hv => ?_
  · rintro _ ⟨t, rfl⟩
    rfl
  · cases v with
    | text t => exact absurd ⟨t, rfl⟩ hv
    | _ => exact refused_at_root _ _

theorem follows_nonEmptyText : Follows nonEmptyText Grammar.nonEmptyText writtenText := by
  refine follows_scalar ?_ fun v hv => ?_
  · rintro _ ⟨t, rfl, hne⟩
    exact if_neg hne
  · cases v with
    | text t =>
      have hempty : t = [] := not_not.mp fun hne => hv ⟨t, rfl, hne⟩
      exact ⟨_, [], if_pos hempty, by simp⟩
    | _ => exact refused_at_root _ _

theorem follows_textOrEmpty : Follows textOrEmpty Grammar.textOrEmpty writtenText :=
  follows_text.withDefault (.scalar ⟨[], rfl⟩) rfl

theorem follows_integer : Follows integer Grammar.integer writtenNumber := by
  refine follows_scalar ?_ fun v hv => ?_
  · rintro _ ⟨n, rfl, hn⟩
    have hinteger : n.isInteger = true := n.isInteger_iff.mpr hn
    have hnan : n ≠ .nan := by rintro rfl; cases hinteger
    simp [integer, number?, hnan, hinteger, writtenNumber, Value.number?]
  · cases v with
    | number n =>
      by_cases hnan : n = .nan
      · subst hnan
        exact refused_at_root _ _
      · have hnot : n.isInteger = false :=
          Bool.eq_false_iff.mpr fun h => hv ⟨n, rfl, n.isInteger_iff.mp h⟩
        exact ⟨_, [], by simp [integer, number?, hnan, hnot]; rfl, by simp⟩
    | _ => exact refused_at_root _ _

/-- A duration is judged in two ways. -/
theorem duration_number {n : Number} (hnan : n ≠ .nan) : duration (.number n) =
    (fun _ _ => n)
      <$> (if n.isFinite then valid () else Checked.fail .notFinite "Number must be finite")
      <*> (if n.lt 0 then Checked.fail .tooSmall "Number must be greater than or equal to 0"
        else valid ()) := by
  simp only [duration, number?, if_neg hnan]

theorem follows_duration : Follows duration Grammar.duration writtenNumber := by
  refine follows_scalar ?_ fun v hv => ?_
  · rintro _ ⟨n, rfl, hn⟩
    obtain ⟨hfinite, hlt⟩ := n.isFinite_and_not_lt_iff.mpr hn
    have hnan : n ≠ .nan := by rintro rfl; cases hfinite
    rw [duration_number hnan, hfinite, hlt]
    rfl
  · cases v with
    | number n =>
      by_cases hnan : n = .nan
      · subst hnan
        exact refused_at_root _ _
      · have hnot : ¬ (n.isFinite = true ∧ n.lt 0 = false) :=
          fun h => hv ⟨n, rfl, n.isFinite_and_not_lt_iff.mp h⟩
        rw [duration_number hnan]
        -- an infinity below zero fails both demands
        cases hfinite : n.isFinite <;> cases hlt : n.lt 0
        · exact ⟨_, [], rfl, by simp⟩
        · exact ⟨_, [_], rfl, by simp⟩
        · exact absurd ⟨hfinite, hlt⟩ hnot
        · exact ⟨_, [], rfl, by simp⟩
    | _ => exact refused_at_root _ _

/-- A name that is there, without the readings of one that is not. -/
def infractionName : Check Infraction
  | .text written =>
    match Infraction.read written with
    | .ok i => valid i
    | .error fault => .invalid [⟨.custom, [], fault.message⟩]
  | v => wrongType "string" v

theorem infraction_eq : infraction = fun v => (·.getD .none) <$> nullish infractionName v := by
  funext v
  cases v with
  | text written =>
    show (match Infraction.read written with
      | .ok i => valid i
      | .error fault => .invalid [⟨.custom, [], fault.message⟩]) = _ <$> (_ <$> infractionName _)
    rw [infractionName]
    cases Infraction.read written <;> rfl
  | _ => rfl

theorem follows_infractionName : Follows infractionName Grammar.infraction writtenInfraction := by
  refine follows_scalar ?_ fun v hv => ?_
  · rintro _ ⟨t, rfl, i, hi⟩
    simp [infractionName, writtenInfraction, writtenText, Value.text?, hi]
  · cases v with
    | text t =>
      cases hread : Infraction.read t with
      | ok i => exact absurd ⟨t, rfl, i, hread⟩ hv
      | error fault => exact ⟨_, [], by rw [infractionName, hread], by simp⟩
    | _ => exact refused_at_root _ _

/-- An infraction that is not given is none. -/
theorem getD_ifGiven_writtenInfraction (v : Value) :
    (v.ifGiven writtenInfraction).getD .none = v.writtenInfraction := by
  cases v <;> rfl

theorem follows_infraction : Follows infraction Grammar.infraction.nullish writtenInfraction := by
  have h := follows_infractionName.nullish.map (·.getD .none)
  rw [← infraction_eq] at h
  exact funext getD_ifGiven_writtenInfraction ▸ h

theorem follows_superstar : Follows superstar Grammar.superstar writtenSuperstar := by
  have hfields := (FollowsFields.first follows_textOrEmpty "reason" Superstar.mk).next
    follows_duration.nullish "duration"
  exact hfields.object (by decide +kernel)

theorem follows_sanction : Follows sanction Grammar.sanction writtenSanction := by
  have hfields := (((((FollowsFields.first follows_infraction "infraction_type" Sanction.mk).next
    follows_textOrEmpty "infraction_reason").next
    follows_duration.nullish "infraction_duration").next
    follows_textOrEmpty "dm_content").next
    follows_textOrEmpty "dm_embed").next
    follows_superstar.nullish "superstar"
  exact hfields.object (by decide +kernel)

theorem follows_actions : Follows actions Grammar.actions writtenActions := by
  have hfields := FollowsFields.first follows_sanction.optional sanctionKey ActionSet.mk
  have hobject := hfields.object (by decide +kernel)
  refine hobject.withDefault (.object fun name g hmem => ?_) rfl
  obtain ⟨rfl, rfl⟩ := Prod.mk.inj (List.mem_singleton.mp hmem)
  exact .absent

theorem follows_rawFilter : Follows rawFilter Grammar.filter writtenFilter := by
  have hfields := (((FollowsFields.first follows_integer "id" RawFilter.mk).next
    follows_nonEmptyText "content").next
    follows_text.nullish "description").next
    follows_actions.nullish "actions"
  exact hfields.object (by decide +kernel)

theorem follows_rawList : Follows rawList Grammar.rawList writtenList := by
  have hdefaults := (FollowsFields.only follows_actions "actions").object (by decide +kernel)
  have hempty : Grammar.Accepts (.object [("actions", Grammar.actions)]) (.object []) := by
    refine .object fun name g hmem => ?_
    obtain ⟨rfl, rfl⟩ := Prod.mk.inj (List.mem_singleton.mp hmem)
    exact .absent
  have hfields := ((FollowsFields.first follows_nonEmptyText "name" RawList.mk).next
    (hdefaults.withDefault hempty rfl) "defaults").next
    (follows_rawFilter.list.withDefault (.list fun _ h => absurd h List.not_mem_nil) rfl) "filters"
  exact hfields.object (by decide +kernel)

end Check

/-! ## § Configured lists -/

theorem ActionSet.orElse_eq (fallback own : ActionSet) :
    fallback.orElse own = ⟨own.sanction.or fallback.sanction⟩ := by
  obtain ⟨_ | _⟩ := own <;> rfl

/-- Reactions that are not given are none at all. -/
theorem getD_ifGiven_writtenActions (v : Value) :
    (v.ifGiven Value.writtenActions).getD ActionSet.empty = v.writtenActions := by
  cases v <;> rfl

theorem toBatch_writtenList (v : Value) : v.writtenList.toBatch = v.batch := by
  simp [RawList.toBatch, Value.writtenList, Value.batch, Value.writtenFilter,
    getD_ifGiven_writtenActions, ActionSet.orElse_eq, Value.writtenActions]

/-- **The grammar of configured lists.**  A value is accepted just when it is well formed, and then
its filters are those that are written down, each with its own sanction or else the default one.
Fields that the grammar does not name, and defaults that are written out, make no difference at any
depth.  What is refused is refused for a reason, and the issues lead to the innermost parts that are
not well formed, to all of them and to nothing else. -/
theorem rawList_grammar (v : Value) :
    ((∃ raw, Check.rawList v = .valid raw) ↔ Grammar.rawList.Accepts v) ∧
      (∀ raw, Check.rawList v = .valid raw → raw.toBatch = v.batch) ∧
      (∀ w, Relation.EqvGen Grammar.rawList.Respells v w → Check.rawList w = Check.rawList v) ∧
      ∀ issues, Check.rawList v = .invalid issues →
        issues ≠ [] ∧ ∀ path, path ∈ issues.map (·.path) ↔ Grammar.rawList.Fault v path := by
  have h := Check.follows_rawList
  refine ⟨⟨?_, fun ha => ⟨_, h.valid_iff.mpr ⟨ha, rfl⟩⟩⟩, fun raw hraw => ?_, fun w hw => ?_,
    fun issues hissues => ⟨?_, fun path => ?_⟩⟩
  · rintro ⟨raw, hraw⟩
    exact (h.valid_iff.mp hraw).1
  · rw [← h.denotes v raw hraw, toBatch_writtenList]
  · exact h.respells hw
  · rintro rfl
    obtain ⟨raw, hraw⟩ := h.founded v (by rw [hissues]; rfl)
    rw [hissues] at hraw
    cases hraw
  · rw [← h.mem_paths_iff v path, hissues]
    rfl

/-- A list whose filter has a field that nobody knows, and a list with faults at three depths. -/
theorem rawList_grammar_three_depths :
    let list (seconds : Number) (filters : List Value) := Value.record
      [("name", .ofString "token"),
        ("defaults", Value.record [("actions", Value.record [(sanctionKey, Value.record
          [("infraction_type", .ofString "mute"), ("infraction_duration", .number seconds)])])]),
        ("filters", .list filters)]
    let spam (more : List (String × Value)) :=
      Value.record ([("id", .number 1)] ++ more ++ [("content", .ofString "spam")])
    let noted := list 600 [spam [("note", .null)]]
    let faulty := list (-600) [.null, Value.record [("id", .number 1), ("content", .text [])]]
    let place : List PathStep :=
      [.field (Text.ofString "filters"), .item 1, .field (Text.ofString "content")]
    Check.rawList noted = Check.rawList (list 600 [spam []]) ∧
      (∃ raw, Check.rawList noted = .valid raw ∧ raw.toBatch = noted.batch) ∧
      noted.batch.filters.map (fun f => f.actions.sanction.map (·.infraction)) = [some .mute] ∧
      ∃ issues, Check.rawList faulty = .invalid issues ∧ Grammar.rawList.Fault faulty place ∧
        issues.map (·.path.length) = [4, 2, 3] := by
  intro list spam noted faulty place
  have hstep : Grammar.rawList.Respells (list 600 [spam []]) noted := by
    refine @Grammar.Respells.field _ [_, _] [] "filters" _ _ _ (.tail _ (.tail _ (.head _)))
      (.present nofun nofun ?_)
    refine @Grammar.Respells.item _ [] [] _ _ ?_
    exact @Grammar.Respells.unknown _ [_] [_] (Text.ofString "note") _ (by decide +kernel)
  have hsame := (rawList_grammar (list 600 [spam []])).2.2.1 noted (.rel _ _ hstep)
  obtain ⟨-, hbatch, -, -⟩ := rawList_grammar noted
  obtain ⟨-, -, -, hplaces⟩ := rawList_grammar faulty
  refine ⟨hsame, ⟨_, rfl, hbatch _ rfl⟩, by decide +kernel, _, rfl, ?_, by decide +kernel⟩
  exact ((hplaces _ rfl).2 place).mp (by decide +kernel)

end ChatModeration
