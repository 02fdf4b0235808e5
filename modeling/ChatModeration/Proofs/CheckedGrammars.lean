/-
ChatModeration.Proofs.CheckedGrammars — what a check accepts, and where it finds fault.

A `Grammar` says what a value has to look like, without saying how it is
checked.  Three relations come from it.  `Accepts` is being well formed;
`Fault` leads to every innermost place that is not; `Respells` relates two
values that differ in what the grammar does not look at: a field that it does
not name, or a default that is written out.

`Check.Follows` ties a check to a grammar and to what the values denote.  Checks
are put together from checks of the parts, so there is one rule for each way to
put them together (`Follows.withDefault` to `Follows.list`), and a check of any
size follows its grammar by these rules.  The main statement for one that does
is `Follows.valid_iff`.
-/
import ChatModeration.Proofs.ValidLists
import Mathlib.Data.List.Nodup
import Mathlib.Logic.Relation

namespace ChatModeration

/-! ## § Grammars -/

/-- What values of any shape have to look like. -/
inductive Grammar where
  /-- A value with some property. -/
  | scalar (holds : Value → Prop)
  /-- An object with these fields; it may have others. -/
  | object (fields : List (String × Grammar))
  /-- A list of such items. -/
  | list (item : Grammar)
  /-- Or nothing; with a default, that stands for it. -/
  | optional (fallback : Option Value) (given : Grammar)
  /-- Or `null`. -/
  | nullable (given : Grammar)

namespace Grammar

/-- A value that may be left out or be `null`. -/
def nullish (given : Grammar) : Grammar := optional (some .null) (nullable given)

/-- The value is well formed. -/
inductive Accepts : Grammar → Value → Prop
  | scalar {holds : Value → Prop} {v : Value} (h : holds v) : Accepts (scalar holds) v
  | object {fields : List (String × Grammar)} {fs : List (Text × Value)}
      (h : ∀ name g, (name, g) ∈ fields → Accepts g ((Value.object fs).field name)) :
      Accepts (object fields) (.object fs)
  | list {g : Grammar} {items : List Value} (h : ∀ item ∈ items, Accepts g item) :
      Accepts (list g) (.list items)
  | absent {fallback : Option Value} {g : Grammar} : Accepts (optional fallback g) .absent
  | present {fallback : Option Value} {g : Grammar} {v : Value} (h : Accepts g v) :
      Accepts (optional fallback g) v
  | null {g : Grammar} : Accepts (nullable g) .null
  | given {g : Grammar} {v : Value} (h : Accepts g v) : Accepts (nullable g) v

/-- The path leads to an innermost part that is not well formed. -/
inductive Fault : Grammar → Value → List PathStep → Prop
  | scalar {holds : Value → Prop} {v : Value} (h : ¬ holds v) : Fault (scalar holds) v []
  | notObject {fields : List (String × Grammar)} {v : Value} (h : ∀ fs, v ≠ .object fs) :
      Fault (object fields) v []
  | field {fields : List (String × Grammar)} {fs : List (Text × Value)} {name : String}
      {g : Grammar} {path : List PathStep} (hname : (name, g) ∈ fields)
      (h : Fault g ((Value.object fs).field name) path) :
      Fault (object fields) (.object fs) (.field (Text.ofString name) :: path)
  | notList {g : Grammar} {v : Value} (h : ∀ items, v ≠ .list items) : Fault (list g) v []
  | item {g : Grammar} {items : List Value} {k : Nat} {item : Value} {path : List PathStep}
      (hitem : items[k]? = some item) (h : Fault g item path) :
      Fault (list g) (.list items) (.item k :: path)
  | present {fallback : Option Value} {g : Grammar} {v : Value} {path : List PathStep}
      (hv : v ≠ .absent) (h : Fault g v path) : Fault (optional fallback g) v path
  | given {g : Grammar} {v : Value} {path : List PathStep} (hv : v ≠ .null) (h : Fault g v path) :
      Fault (nullable g) v path

/-- The second value is the first one with one thing written otherwise that does not matter. -/
inductive Respells : Grammar → Value → Value → Prop
  /-- A field that the grammar does not name is added. -/
  | unknown {fields : List (String × Grammar)} {before after : List (Text × Value)} {name : Text}
      {x : Value} (hname : ∀ f ∈ fields, Text.ofString f.1 ≠ name) :
      Respells (object fields) (.object (before ++ after)) (.object (before ++ (name, x) :: after))
  /-- A field that is missing is there, but without a value. -/
  | missing {fields : List (String × Grammar)} {before after : List (Text × Value)} {name : Text}
      (hname : ∀ f ∈ before ++ after, f.1 ≠ name) :
      Respells (object fields) (.object (before ++ after))
        (.object (before ++ (name, .absent) :: after))
  /-- A default is written out. -/
  | fallback {given : Grammar} {fallback : Value} :
      Respells (optional (some fallback) given) .absent fallback
  | field {fields : List (String × Grammar)} {before after : List (Text × Value)} {name : String}
      {g : Grammar} {x y : Value} (hname : (name, g) ∈ fields) (h : Respells g x y) :
      Respells (object fields) (.object (before ++ (Text.ofString name, x) :: after))
        (.object (before ++ (Text.ofString name, y) :: after))
  | item {g : Grammar} {before after : List Value} {x y : Value} (h : Respells g x y) :
      Respells (list g) (.list (before ++ x :: after)) (.list (before ++ y :: after))
  | present {fallback : Option Value} {g : Grammar} {v w : Value} (hv : v ≠ .absent)
      (hw : w ≠ .absent) (h : Respells g v w) : Respells (optional fallback g) v w
  | given {g : Grammar} {v w : Value} (hv : v ≠ .null) (hw : w ≠ .null) (h : Respells g v w) :
      Respells (nullable g) v w

/-- A value that is well formed has no faults. -/
theorem Accepts.not_fault {g : Grammar} {v : Value} {path : List PathStep} (ha : g.Accepts v)
    (hf : g.Fault v path) : False := by
  induction hf with
  | scalar h =>
    cases ha with
    | scalar holds => exact h holds
  | notObject h =>
    cases ha with
    | object _ => exact h _ rfl
  | field hname _ ih =>
    cases ha with
    | object h => exact ih (h _ _ hname)
  | notList h =>
    cases ha with
    | list _ => exact h _ rfl
  | item hitem _ ih =>
    cases ha with
    | list h => exact ih (h _ (List.mem_of_getElem? hitem))
  | present hv _ ih =>
    cases ha with
    | absent => exact hv rfl
    | present h => exact ih h
  | given hv _ ih =>
    cases ha with
    | null => exact hv rfl
    | given h => exact ih h

/-- A value without faults is well formed. -/
theorem accepts_of_not_fault (g : Grammar) {v : Value} (h : ∀ path, ¬ g.Fault v path) :
    g.Accepts v := by
  match g with
  | scalar holds => exact .scalar (not_not.mp fun hnot => h [] (.scalar hnot))
  | object fields =>
    cases v with
    | object fs =>
      refine .object fun name g' hname => ?_
      exact accepts_of_not_fault g' fun path hpath => h _ (.field hname hpath)
    | _ => exact absurd (.notObject (by simp)) (h [])
  | list g' =>
    cases v with
    | list items =>
      refine .list fun item hmem => ?_
      obtain ⟨k, hk⟩ := List.mem_iff_getElem?.mp hmem
      exact accepts_of_not_fault g' fun path hpath => h _ (.item hk hpath)
    | _ => exact absurd (.notList (by simp)) (h [])
  | optional fallback g' =>
    by_cases hv : v = .absent
    · exact hv ▸ .absent
    · exact .present (accepts_of_not_fault g' fun path hpath => h path (.present hv hpath))
  | nullable g' =>
    by_cases hv : v = .null
    · exact hv ▸ .null
    · exact .given (accepts_of_not_fault g' fun path hpath => h path (.given hv hpath))
termination_by sizeOf g
decreasing_by
  all_goals subst_vars
  · have hlt := List.sizeOf_lt_of_mem hname
    simp only [Prod.mk.sizeOf_spec] at hlt
    simp only [object.sizeOf_spec]
    omega
  all_goals simp only [list.sizeOf_spec, optional.sizeOf_spec, nullable.sizeOf_spec]; omega

/-- Values are well formed just when they have no faults. -/
theorem accepts_iff {g : Grammar} {v : Value} : g.Accepts v ↔ ∀ path, ¬ g.Fault v path :=
  ⟨fun ha _ hf => ha.not_fault hf, accepts_of_not_fault g⟩

/-- What is no object has one fault, the value itself. -/
theorem fault_object_of_ne {fields : List (String × Grammar)} {v : Value} {path : List PathStep}
    (hv : ∀ fs, v ≠ .object fs) : (object fields).Fault v path ↔ path = [] := by
  constructor
  · intro hfault
    cases hfault with
    | notObject _ => rfl
    | @field _ fs _ _ _ _ _ => exact absurd rfl (hv fs)
  · rintro rfl
    exact .notObject hv

/-- What is no list has one fault, the value itself. -/
theorem fault_list_of_ne {g : Grammar} {v : Value} {path : List PathStep}
    (hv : ∀ items, v ≠ .list items) : (list g).Fault v path ↔ path = [] := by
  constructor
  · intro hfault
    cases hfault with
    | notList _ => rfl
    | @item _ items _ _ _ _ _ => exact absurd rfl (hv items)
  · rintro rfl
    exact .notList hv

end Grammar

/-! ## § Where the issues are -/

namespace Checked

variable {α β : Type}

/-- The places of the issues. -/
def paths (c : Checked α) : List (List PathStep) := c.issues.map (·.path)

/-- What is refused is refused for a reason. -/
def Founded (c : Checked α) : Prop := c.paths = [] → ∃ a, c = valid a

@[simp] theorem paths_valid (a : α) : (valid a).paths = [] := rfl

theorem founded_wrongType (expected : String) (v : Value) :
    (Check.wrongType expected v : Checked α).Founded :=
  fun hnone => absurd hnone (List.cons_ne_nil _ _)

@[simp] theorem paths_map (f : α → β) (c : Checked α) : (f <$> c).paths = c.paths := by
  cases c <;> rfl

@[simp] theorem paths_seq (f : Checked (α → β)) (c : Checked α) :
    (f <*> c).paths = f.paths ++ c.paths := by
  cases f <;> cases c <;> simp [Seq.seq, seq, paths, issues]

@[simp] theorem paths_under (step : PathStep) (c : Checked α) :
    (c.under step).paths = c.paths.map (step :: ·) := by
  cases c with
  | valid a => rfl
  | invalid issues => simp [under, paths, Checked.issues, Issue.under]

theorem paths_all (cs : List (Checked α)) : (all cs).paths = cs.flatMap paths := by
  induction cs with
  | nil => rfl
  | cons c rest ih => rw [all, paths_seq, paths_map, ih, List.flatMap_cons]

theorem Founded.map {c : Checked α} (h : c.Founded) (f : α → β) : (f <$> c).Founded := by
  intro hnone
  obtain ⟨a, rfl⟩ := h (by simpa using hnone)
  exact ⟨f a, rfl⟩

theorem Founded.seq {f : Checked (α → β)} {c : Checked α} (hf : f.Founded) (hc : c.Founded) :
    (f <*> c).Founded := by
  intro hnone
  obtain ⟨hfnone, hcnone⟩ := List.append_eq_nil_iff.mp (paths_seq f c ▸ hnone)
  obtain ⟨g, rfl⟩ := hf hfnone
  obtain ⟨a, rfl⟩ := hc hcnone
  exact ⟨g a, rfl⟩

theorem Founded.under {c : Checked α} (h : c.Founded) (step : PathStep) :
    (c.under step).Founded := by
  intro hnone
  obtain ⟨a, rfl⟩ := h (by simpa using hnone)
  exact ⟨a, rfl⟩

theorem Founded.all {cs : List (Checked α)} (h : ∀ c ∈ cs, c.Founded) : (all cs).Founded := by
  induction cs with
  | nil => exact fun _ => ⟨[], rfl⟩
  | cons c rest ih =>
    obtain ⟨hc, hrest⟩ := List.forall_mem_cons.mp h
    exact (hc.map List.cons).seq (ih hrest)

end Checked

namespace Value

variable {α : Type}

/-- What a value denotes, unless it is absent. -/
def ifPresent (read : Value → α) (v : Value) : Option α :=
  if v.isAbsent then none else some (read v)

/-- What a value denotes, unless it is absent or `null`. -/
def ifGiven (read : Value → α) (v : Value) : Option α :=
  if v.isGiven then some (read v) else none

/-- What a value denotes, unless it is `null`. -/
def unlessNull (read : Value → α) : Value → Option α
  | null => none
  | v => some (read v)

theorem unlessNull_of_ne {read : Value → α} {v : Value} (hv : v ≠ .null) :
    v.unlessNull read = some (read v) := by
  cases v <;> first | rfl | exact absurd rfl hv

/-! ### One more field -/

variable {before after : List (Text × Value)} {name : Text} {n : String}

theorem field_insert_of_ne {x : Value} (hne : Text.ofString n ≠ name) :
    (object (before ++ (name, x) :: after)).field n = (object (before ++ after)).field n := by
  simp [field, get, fields, List.lookup_append, List.lookup_cons, beq_false_of_ne hne]

theorem field_insert_absent (hname : ∀ f ∈ before ++ after, f.1 ≠ name) :
    (object (before ++ (name, absent) :: after)).field n = (object (before ++ after)).field n := by
  by_cases hn : Text.ofString n = name
  · have hnone : (before ++ after).lookup (Text.ofString n) = none := by
      refine List.lookup_eq_none_iff.mpr fun f hf => ?_
      exact bne_iff_ne.mpr fun h => hname f hf (h.symm.trans hn)
    rw [List.lookup_append, Option.or_eq_none_iff] at hnone
    simp [field, get, fields, List.lookup_append, ← hn, hnone]
  · exact field_insert_of_ne hn

/-- A field that is replaced, or that is hidden by an earlier one of the same name. -/
theorem field_replace (before after : List (Text × Value)) (n : String) (x y : Value) :
    ((object (before ++ (Text.ofString n, x) :: after)).field n = x ∧
        (object (before ++ (Text.ofString n, y) :: after)).field n = y) ∨
      (object (before ++ (Text.ofString n, y) :: after)).field n =
        (object (before ++ (Text.ofString n, x) :: after)).field n := by
  simp only [field, get, fields, List.lookup_append, List.lookup_cons_self]
  cases before.lookup (Text.ofString n) with
  | none => exact Or.inl ⟨rfl, rfl⟩
  | some first => exact Or.inr rfl

end Value

/-! ## § Checks that follow a grammar -/

namespace Check

open Checked (valid Founded)

/-- The check finds fault exactly where the grammar does; it gives what `denote` says of a value,
and does not see how the value is spelled. -/
structure Follows {α : Type} (check : Check α) (g : Grammar) (denote : Value → α) : Prop where
  founded (v : Value) : (check v).Founded
  denotes (v : Value) (a : α) (h : check v = valid a) : denote v = a
  mem_paths_iff (v : Value) (path : List PathStep) : path ∈ (check v).paths ↔ g.Fault v path
  respell (v w : Value) (h : g.Respells v w) : check w = check v

/-- The same of a check of some fields. -/
structure FollowsFields {α : Type} (check : Value → Checked α) (fields : List (String × Grammar))
    (denote : Value → α) : Prop where
  founded (v : Value) : (check v).Founded
  denotes (v : Value) (a : α) (h : check v = valid a) : denote v = a
  mem_paths_iff (v : Value) (path : List PathStep) : path ∈ (check v).paths ↔
    ∃ name g rest, (name, g) ∈ fields ∧ Grammar.Fault g (v.field name) rest ∧
      .field (Text.ofString name) :: rest = path
  respell (v w : Value)
    (h : ∀ name g, (name, g) ∈ fields →
      w.field name = v.field name ∨ Grammar.Respells g (v.field name) (w.field name)) :
    check w = check v

variable {α β : Type} {check : Check α} {g : Grammar} {denote : Value → α}
  {fields : List (String × Grammar)}

/-- **What a check accepts** is what its grammar accepts, and it gives what the value denotes. -/
theorem Follows.valid_iff (h : Follows check g denote) {v : Value} {a : α} :
    check v = valid a ↔ g.Accepts v ∧ denote v = a := by
  constructor
  · intro hv
    refine ⟨Grammar.accepts_iff.mpr fun path hpath => ?_, h.denotes v a hv⟩
    have hmem := (h.mem_paths_iff v path).mpr hpath
    simp [hv] at hmem
  · rintro ⟨ha, rfl⟩
    have hnone : (check v).paths = [] := List.eq_nil_iff_forall_not_mem.mpr fun path hpath =>
      ha.not_fault ((h.mem_paths_iff v path).mp hpath)
    obtain ⟨a, hv⟩ := h.founded v hnone
    rw [hv, h.denotes v a hv]

/-- Any number of spellings, one after the other, make no difference. -/
theorem Follows.respells (h : Follows check g denote) {v w : Value}
    (hvw : Relation.EqvGen g.Respells v w) : check w = check v := by
  induction hvw with
  | rel v w hstep => exact h.respell v w hstep
  | refl v => rfl
  | symm v w _ ih => exact ih.symm
  | trans u v w _ _ ihuv ihvw => exact ihvw.trans ihuv

theorem Follows.map (h : Follows check g denote) (f : α → β) :
    Follows (fun v => f <$> check v) g (fun v => f (denote v)) where
  founded v := (h.founded v).map f
  denotes v b hv := by
    obtain ⟨a, ha, rfl⟩ := Checked.map_eq_valid.mp hv
    rw [h.denotes v a ha]
  mem_paths_iff v path := by rw [Checked.paths_map, h.mem_paths_iff]
  respell v w hvw := by rw [h.respell v w hvw]

/-! ### Scalars -/

/-- A check that looks at the value as a whole. -/
theorem follows_scalar {holds : Value → Prop}
    (hvalid : ∀ v, holds v → check v = valid (denote v))
    (hinvalid : ∀ v, ¬ holds v → ∃ i more, check v = .invalid (i :: more) ∧
      ∀ issue ∈ i :: more, issue.path = []) :
    Follows check (.scalar holds) denote where
  founded v hnone := by
    by_cases hv : holds v
    · exact ⟨_, hvalid v hv⟩
    · obtain ⟨i, more, hcheck, -⟩ := hinvalid v hv
      rw [hcheck] at hnone
      cases hnone
  denotes v a h := by
    by_cases hv : holds v
    · rw [hvalid v hv] at h
      exact Checked.valid.inj h
    · obtain ⟨i, more, hcheck, -⟩ := hinvalid v hv
      rw [hcheck] at h
      cases h
  mem_paths_iff v path := by
    by_cases hv : holds v
    · rw [hvalid v hv]
      refine ⟨fun h => absurd h List.not_mem_nil, fun h => ?_⟩
      exact ((Grammar.Accepts.scalar hv).not_fault h).elim
    · obtain ⟨i, more, hcheck, hroot⟩ := hinvalid v hv
      rw [hcheck]
      constructor
      · intro h
        obtain ⟨issue, hmem, rfl⟩ := List.mem_map.mp h
        rw [hroot issue hmem]
        exact .scalar hv
      · rintro ⟨⟩
        exact List.mem_map.mpr ⟨i, List.mem_cons_self, hroot i List.mem_cons_self⟩
  respell v w h := by cases h

/-! ### Values that may be missing -/

theorem withDefault_of_ne {fallback v : Value} (hv : v ≠ .absent) :
    withDefault fallback check v = check v := by
  cases v <;> first | rfl | exact absurd rfl hv

theorem nullable_of_ne {v : Value} (hv : v ≠ .null) : nullable check v = some <$> check v := by
  cases v <;> first | rfl | exact absurd rfl hv

theorem optional_of_ne {v : Value} (hv : v ≠ .absent) : optional check v = some <$> check v := by
  cases v <;> first | rfl | exact absurd rfl hv

/-- A check of all values but one, which gives something by itself. -/
theorem Follows.unless (h : Follows check g denote) (skip : Value) {g' : Grammar}
    {given : Check β} {denote' : Value → β} (f : α → β)
    (hgiven : ∀ v, v ≠ skip → given v = f <$> check v ∧ denote' v = f (denote v))
    (hskip : given skip = valid (denote' skip))
    (hfault : ∀ v path, g'.Fault v path ↔ v ≠ skip ∧ g.Fault v path)
    (hrespell : ∀ v w, g'.Respells v w →
      given w = given v ∨ (v ≠ skip ∧ w ≠ skip ∧ g.Respells v w)) :
    Follows given g' denote' where
  founded v := by
    by_cases hv : v = skip
    · exact fun _ => ⟨_, hv ▸ hskip⟩
    · rw [(hgiven v hv).1]
      exact (h.founded v).map f
  denotes v b hb := by
    by_cases hv : v = skip
    · rw [hv, hskip] at hb
      exact hv ▸ Checked.valid.inj hb
    · obtain ⟨hcheck, hdenote⟩ := hgiven v hv
      rw [hcheck] at hb
      obtain ⟨a, ha, rfl⟩ := Checked.map_eq_valid.mp hb
      rw [hdenote, h.denotes v a ha]
  mem_paths_iff v path := by
    by_cases hv : v = skip
    · rw [hfault, hv, hskip]
      exact ⟨fun hmem => absurd hmem List.not_mem_nil, fun hf => absurd rfl hf.1⟩
    · rw [hfault, (hgiven v hv).1, Checked.paths_map, h.mem_paths_iff]
      exact (and_iff_right hv).symm
  respell v w hvw := by
    rcases hrespell v w hvw with heq | ⟨hv, hw, hstep⟩
    · exact heq
    · rw [(hgiven v hv).1, (hgiven w hw).1, h.respell v w hstep]

theorem id_map (c : Checked α) : id <$> c = c := by
  cases c <;> rfl

/-- A check of values that may be absent. -/
theorem Follows.present (h : Follows check g denote) {given : Check β} {denote' : Value → β}
    {fallback : Option Value} (f : α → β)
    (hgiven : ∀ v, v ≠ .absent → given v = f <$> check v ∧ denote' v = f (denote v))
    (habsent : given .absent = valid (denote' .absent))
    (hfallback : ∀ v, fallback = some v → given v = given .absent) :
    Follows given (.optional fallback g) denote' := by
  refine h.unless .absent f hgiven habsent (fun v path => ⟨?_, fun hf => .present hf.1 hf.2⟩) ?_
  · rintro (_ | _)
    exact ⟨‹_›, ‹_›⟩
  · intro v w hvw
    cases hvw with
    | fallback => exact Or.inl (hfallback _ rfl)
    | present hv hw hstep => exact Or.inr ⟨hv, hw, hstep⟩

/-- An absent value stands for the default. -/
theorem Follows.withDefault (h : Follows check g denote) {fallback : Value}
    (haccepts : g.Accepts fallback) (hdenote : denote .absent = denote fallback) :
    Follows (withDefault fallback check) (.optional (some fallback) g) denote := by
  refine h.present id (fun v hv => ?_) ?_ ?_
  · exact ⟨(withDefault_of_ne hv).trans (id_map _).symm, rfl⟩
  · rw [hdenote]
    exact h.valid_iff.mpr ⟨haccepts, rfl⟩
  · rintro _ ⟨⟩
    cases fallback <;> rfl

/-- An absent value gives nothing. -/
theorem Follows.optional (h : Follows check g denote) :
    Follows (optional check) (.optional none g) (Value.ifPresent denote) := by
  refine h.present some (fun v hv => ⟨optional_of_ne hv, ?_⟩) rfl nofun
  cases v <;> first | rfl | exact absurd rfl hv

/-- `null` gives nothing. -/
theorem Follows.nullable (h : Follows check g denote) :
    Follows (nullable check) (.nullable g) (Value.unlessNull denote) := by
  refine h.unless .null some (fun v hv => ⟨nullable_of_ne hv, Value.unlessNull_of_ne hv⟩) rfl
    (fun v path => ⟨?_, fun hf => .given hf.1 hf.2⟩) ?_
  · rintro (_ | _)
    exact ⟨‹_›, ‹_›⟩
  · intro v w hvw
    cases hvw with
    | given hv hw hstep => exact Or.inr ⟨hv, hw, hstep⟩

/-- An absent value and `null` both give nothing. -/
theorem Follows.nullish (h : Follows check g denote) :
    Follows (nullish check) g.nullish (Value.ifGiven denote) := by
  refine h.nullable.present id (fun v hv => ⟨?_, ?_⟩) rfl ?_
  · exact (withDefault_of_ne hv).trans (id_map _).symm
  · cases v <;> first | rfl | exact absurd rfl hv
  · rintro _ ⟨⟩
    rfl

/-! ### Objects -/

theorem FollowsFields.first (h : Follows check g denote) (name : String) (f : α → β) :
    FollowsFields (fun v => f <$> field v name check) [(name, g)]
      (fun v => f (denote (v.field name))) where
  founded v := ((h.founded _).under _).map f
  denotes v b hb := by
    obtain ⟨a, ha, rfl⟩ := Checked.map_eq_valid.mp hb
    rw [h.denotes _ a (field_eq_valid.mp ha)]
  mem_paths_iff v path := by
    simp [field, h.mem_paths_iff]
  respell v w hvw := by
    rcases hvw name g List.mem_cons_self with heq | hstep
    · rw [field, field, heq]
    · rw [field, field, h.respell _ _ hstep]

theorem FollowsFields.only (h : Follows check g denote) (name : String) :
    FollowsFields (fun v => field v name check) [(name, g)] (fun v => denote (v.field name)) := by
  have hfirst := FollowsFields.first h name id
  simp only [id_map] at hfirst
  exact hfirst

theorem FollowsFields.next {check' : Value → Checked (α → β)} {denote' : Value → α → β}
    (h' : FollowsFields check' fields denote') (h : Follows check g denote) (name : String) :
    FollowsFields (fun v => check' v <*> field v name check) (fields ++ [(name, g)])
      (fun v => denote' v (denote (v.field name))) where
  founded v := (h'.founded v).seq ((h.founded _).under _)
  denotes v b hb := by
    obtain ⟨f, a, hf, ha, rfl⟩ := Checked.seq_eq_valid.mp hb
    rw [h'.denotes v f hf, h.denotes _ a (field_eq_valid.mp ha)]
  mem_paths_iff v path := by
    rw [Checked.paths_seq, List.mem_append, h'.mem_paths_iff]
    simp [field, h.mem_paths_iff, or_and_right, exists_or]
  respell v w hvw := by
    have hfirst : check' w = check' v := h'.respell v w fun n g' hmem =>
      hvw n g' (List.mem_append_left _ hmem)
    rcases hvw name g (List.mem_append_right _ List.mem_cons_self) with heq | hstep
    · rw [hfirst, field, field, heq]
    · rw [hfirst, field, field, h.respell _ _ hstep]

/-- An object is checked field by field. -/
theorem FollowsFields.object {check : Value → Checked α} (h : FollowsFields check fields denote)
    (hnames : (fields.map fun f => Text.ofString f.1).Nodup) :
    Follows (object check) (.object fields) denote where
  founded v := by
    cases v with
    | object fs => exact h.founded _
    | _ => exact Checked.founded_wrongType "object" _
  denotes v a hv := h.denotes v a (object_eq_valid.mp hv).2
  mem_paths_iff v path := by
    cases v with
    | object fs =>
      refine (h.mem_paths_iff _ path).trans ⟨?_, ?_⟩
      · rintro ⟨name, g, rest, hmem, hfault, rfl⟩
        exact .field hmem hfault
      · intro hfault
        cases hfault with
        | notObject hnot => exact absurd rfl (hnot fs)
        | field hmem hfault => exact ⟨_, _, _, hmem, hfault, rfl⟩
    | _ => exact List.mem_singleton.trans (Grammar.fault_object_of_ne (by simp)).symm
  respell v w hvw := by
    cases hvw with
    | unknown hname =>
      refine h.respell _ _ fun n g hmem => Or.inl ?_
      exact Value.field_insert_of_ne (hname _ hmem)
    | missing hname =>
      refine h.respell _ _ fun n g _ => Or.inl ?_
      exact Value.field_insert_absent hname
    | @field _ before after name g x y hmem hstep =>
      refine h.respell _ _ fun n g' hmem' => ?_
      by_cases hn : Text.ofString n = Text.ofString name
      · obtain ⟨rfl, rfl⟩ := Prod.mk.inj (List.inj_on_of_nodup_map hnames hmem' hmem hn)
        rcases Value.field_replace before after n x y with ⟨hx, hy⟩ | heq
        · rw [hx, hy]
          exact Or.inr hstep
        · exact Or.inl heq
      · rw [Value.field_insert_of_ne hn, Value.field_insert_of_ne hn]
        exact Or.inl rfl

/-! ### Lists -/

theorem Follows.list (h : Follows check g denote) :
    Follows (list check) (.list g) (fun v => v.items.map denote) where
  founded v := by
    cases v with
    | list items =>
      refine Founded.all fun c hc => ?_
      obtain ⟨p, -, rfl⟩ := List.mem_map.mp hc
      exact (h.founded _).under _
    | _ => exact Checked.founded_wrongType "array" _
  denotes v as hv := by
    obtain ⟨⟨items, rfl⟩, hitems⟩ := list_eq_valid.mp hv
    change List.Forall₂ _ items as at hitems
    show items.map denote = as
    clear hv
    induction hitems with
    | nil => rfl
    | cons hitem _ ih => rw [List.map_cons, h.denotes _ _ hitem, ih]
  mem_paths_iff v path := by
    cases v with
    | list items =>
      constructor
      · intro hmem
        rw [Check.list, Checked.paths_all, List.mem_flatMap] at hmem
        obtain ⟨c, hc, hpath⟩ := hmem
        obtain ⟨⟨item, k⟩, hitem, rfl⟩ := List.mem_map.mp hc
        rw [Checked.paths_under] at hpath
        obtain ⟨rest, hrest, rfl⟩ := List.mem_map.mp hpath
        exact .item (List.mem_zipIdx_iff_getElem?.mp hitem) ((h.mem_paths_iff item rest).mp hrest)
      · intro hfault
        cases hfault with
        | notList hnot => exact absurd rfl (hnot items)
        | @item _ _ k item rest hitem hfault =>
          have hmem : (item, k) ∈ items.zipIdx := List.mem_zipIdx_iff_getElem?.mpr hitem
          rw [Check.list, Checked.paths_all, List.mem_flatMap]
          refine ⟨_, List.mem_map_of_mem hmem, ?_⟩
          rw [Checked.paths_under]
          exact List.mem_map_of_mem ((h.mem_paths_iff _ _).mpr hfault)
    | _ => exact List.mem_singleton.trans (Grammar.fault_list_of_ne (by simp)).symm
  respell v w hvw := by
    cases hvw with
    | item hstep => simp [Check.list, List.zipIdx_append, h.respell _ _ hstep]

end Check
end ChatModeration
