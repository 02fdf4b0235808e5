/-
ChatModeration.Proofs.BuiltCatalogue — what a configuration amounts to.

`Catalogue.build` reads configured lists one after the other and keeps three
tables: the names, the subscribers, and the names about which it has warned.
`Catalogue.ofLists` says without tables what comes out: one list for each known
name, in the order in which the names first occur, and in each list the filters
that were configured under its name, in order.  `warnings` says what is logged.
`Reflects` ties the tables to both, and `Reflects.add` is one step of it.

The main statement is `build_closed_form`.
-/
import ChatModeration.Proofs.KeyedTables
import ChatModeration.Proofs.ValidLists
import ChatModeration.Registry.Build

namespace ChatModeration

/-! ## § First occurrences -/

namespace Domain

/-- What has been seen when more texts come. -/
theorem distinct_append_singleton (ts : List Text) (t : Text) :
    distinct (ts ++ [t]) = if t ∈ distinct ts then distinct ts else distinct ts ++ [t] := by
  unfold distinct
  rw [List.foldl_append]
  rfl

/-- What has been seen is what is left without repetitions. -/
theorem distinct_eq_eraseDups (ts : List Text) : distinct ts = ts.eraseDups := by
  induction ts using List.reverseRecOn with
  | nil => rfl
  | append_singleton ts t ih =>
    rw [distinct_append_singleton, eraseDups_concat, ih]
    simp only [List.mem_eraseDups]

theorem nodup_distinct (ts : List Text) : (distinct ts).Nodup := by
  rw [distinct_eq_eraseDups]
  exact nodup_eraseDups ts

@[simp] theorem mem_distinct {ts : List Text} {t : Text} : t ∈ distinct ts ↔ t ∈ ts := by
  rw [distinct_eq_eraseDups, List.mem_eraseDups]

end Domain

/-! ## § What is configured -/

/-- The names for which there are kinds of lists. -/
def knownNames : List Text := [Text.ofString "token", Text.ofString "domain"]

/-- The kind of list under a known name. -/
def kindOf (name : Text) : FilterList :=
  if name = Text.ofString "token" then .token else .domain

namespace RawList

/-- The lists among values of any shape that pass their check, in order. -/
def accepted (raws : List Value) : List RawList :=
  raws.filterMap fun v => (Check.rawList v).result?

/-- A configured filter with its own reaction if it has one, and otherwise with the default of the
list in which it is configured. -/
def filterOf (raw : RawList) (f : RawFilter) : Filter where
  id := f.id
  content := f.content
  description := f.description
  actions :=
    match f.actions.bind (·.sanction) with
    | some own => ActionSet.ofSanction own
    | none => raw.defaults

/-- The known names of lists, in the order in which they first occur. -/
def namesOf (lists : List RawList) : List Text :=
  Domain.distinct ((lists.map (·.name)).filter (· ∈ knownNames))

/-- The filters that are configured under a name, in order. -/
def filtersUnder (lists : List RawList) (name : Text) : List Filter :=
  (lists.filter (·.name = name)).flatMap fun raw => raw.filters.map raw.filterOf

/-- The list of a name with all its filters. -/
def listUnder (lists : List RawList) (name : Text) : FilterList :=
  (kindOf name).add (filtersUnder lists name)

/-! ## § Warnings -/

/-- The warning about a value that comes after other lists: it is not valid, or its name is unknown
and occurs for the first time. -/
def warningAt (earlier : List RawList) (v : Value) : Option LogEvent :=
  match Check.rawList v with
  | .invalid issues => some (.invalidList issues)
  | .valid raw =>
    if raw.name ∈ knownNames ∨ raw.name ∈ earlier.map (·.name) then none
    else some (.unknownList raw.name)

/-- The warnings about values that come after other lists. -/
def warningsAfter (earlier : List RawList) : List Value → List LogEvent
  | [] => []
  | v :: later => (warningAt earlier v).toList ++ warningsAfter (earlier ++ accepted [v]) later

def warnings (raws : List Value) : List LogEvent := warningsAfter [] raws

/-! ## § One more list -/

variable {lists : List RawList} {raw : RawList} {name : Text}

theorem toBatch_filters (raw : RawList) : raw.toBatch.filters = raw.filters.map raw.filterOf := by
  refine List.map_congr_left fun f _ => ?_
  unfold filterOf
  cases f.actions with
  | none => rfl
  | some own =>
    obtain ⟨sanction⟩ := own
    cases sanction <;> rfl

theorem accepted_append (raws later : List Value) :
    accepted (raws ++ later) = accepted raws ++ accepted later := List.filterMap_append

theorem accepted_of_invalid {v : Value} {issues : List Issue}
    (h : Check.rawList v = .invalid issues) : accepted [v] = [] := by
  simp [accepted, h, Checked.result?]

theorem accepted_of_valid {v : Value} (h : Check.rawList v = .valid raw) : accepted [v] = [raw] := by
  simp [accepted, h, Checked.result?]

theorem mem_namesOf : name ∈ namesOf lists ↔ name ∈ lists.map (·.name) ∧ name ∈ knownNames := by
  simp [namesOf]

theorem nodup_namesOf (lists : List RawList) : (namesOf lists).Nodup := Domain.nodup_distinct _

/-- A list under a name that is there already. -/
theorem namesOf_concat_of_mem (h : raw.name ∈ namesOf lists) :
    namesOf (lists ++ [raw]) = namesOf lists := by
  have hknown := (mem_namesOf.mp h).2
  unfold namesOf at h ⊢
  rw [List.map_append, List.filter_append, List.map_singleton,
    List.filter_cons_of_pos (by simpa using hknown), List.filter_nil,
    Domain.distinct_append_singleton, if_pos h]

/-- The first list under a known name. -/
theorem namesOf_concat_of_new (hknown : raw.name ∈ knownNames) (h : raw.name ∉ namesOf lists) :
    namesOf (lists ++ [raw]) = namesOf lists ++ [raw.name] := by
  unfold namesOf at h ⊢
  rw [List.map_append, List.filter_append, List.map_singleton,
    List.filter_cons_of_pos (by simpa using hknown), List.filter_nil,
    Domain.distinct_append_singleton, if_neg h]

/-- A list of an unknown name adds no name, wherever it stands. -/
theorem namesOf_of_unknown (h : raw.name ∉ knownNames) (later : List RawList) :
    namesOf (lists ++ raw :: later) = namesOf (lists ++ later) := by
  simp [namesOf, h]

theorem filtersUnder_concat (lists : List RawList) (raw : RawList) (name : Text) :
    filtersUnder (lists ++ [raw]) name =
      filtersUnder lists name ++ if raw.name = name then raw.filters.map raw.filterOf else [] := by
  unfold filtersUnder
  split <;> simp [*]

/-- A list of another name adds no filter, wherever it stands. -/
theorem listUnder_of_ne (h : raw.name ≠ name) (later : List RawList) :
    listUnder (lists ++ raw :: later) name = listUnder (lists ++ later) name := by
  simp [listUnder, filtersUnder, h]

theorem listUnder_concat (lists : List RawList) (raw : RawList) :
    listUnder (lists ++ [raw]) raw.name =
      (listUnder lists raw.name).add (raw.filters.map raw.filterOf) := by
  rw [listUnder, filtersUnder_concat, if_pos rfl, listUnder]
  simp [FilterList.add]

/-- Nothing is configured under a known name that is not there. -/
theorem filtersUnder_eq_nil (hknown : name ∈ knownNames) (h : name ∉ namesOf lists) :
    filtersUnder lists name = [] := by
  have hnone : ∀ raw ∈ lists, raw.name ≠ name := by
    intro raw hraw heq
    exact h (mem_namesOf.mpr ⟨heq ▸ List.mem_map_of_mem hraw, hknown⟩)
  rw [filtersUnder, List.filter_eq_nil_iff.mpr fun raw hraw => by simpa using hnone raw hraw]
  rfl

end RawList

/-! ## § Kinds of lists -/

section Kinds

variable {name : Text}

@[simp] theorem FilterList.add_nil (list : FilterList) : list.add [] = list := by
  simp [FilterList.add]

theorem named?_of_known (h : name ∈ knownNames) :
    builtInKinds.named? name = some (kindOf name) := by
  rcases List.mem_pair.mp h with rfl | rfl
  · rfl
  · rfl

theorem named?_of_unknown (h : name ∉ knownNames) : builtInKinds.named? name = none := by
  refine List.lookup_eq_none_iff.mpr fun kind hkind => bne_iff_ne.mpr fun heq => h ?_
  have hname : kind.1 ∈ builtInKinds.map (·.1) := List.mem_map_of_mem (List.mem_reverse.mp hkind)
  rw [heq]
  exact hname

theorem kindOf_name (h : name ∈ knownNames) : (kindOf name).name = name := by
  rcases List.mem_pair.mp h with rfl | rfl
  · rfl
  · rfl

@[simp] theorem kindOf_events (name : Text) : (kindOf name).events = FilterEvent.all := by
  unfold kindOf
  split <;> rfl

end Kinds

/-! ## § The catalogue of lists -/

open RawList

/-- The handles of the first `n` instances. -/
def firstHandles (n : Nat) : List ListHandle := (List.range n).map ListHandle.mk

/-- The names with the handles of the first instances. -/
def tableOf (names : List Text) : List (Text × ListHandle) := names.mapIdx fun i name => (name, ⟨i⟩)

/-- The catalogue that holds one list for each of the names, and all lists see every event. -/
def Catalogue.ofNames (names : List Text) (lists : List RawList) : Catalogue where
  pool := ⟨names.map (listUnder lists)⟩
  registry := ⟨tableOf names, fun _ => firstHandles names.length⟩

/-- The catalogue that configured lists ask for. -/
def Catalogue.ofLists (lists : List RawList) : Catalogue := ofNames (namesOf lists) lists

section Tables

variable {names : List Text} {name : Text}

theorem firstHandles_succ (n : Nat) : firstHandles (n + 1) = firstHandles n ++ [⟨n⟩] := by
  simp [firstHandles, List.range_succ]

theorem not_mem_firstHandles (n : Nat) : ⟨n⟩ ∉ firstHandles n := by
  simp [firstHandles]

theorem tableOf_concat (names : List Text) (name : Text) :
    tableOf (names ++ [name]) = tableOf names ++ [(name, ⟨names.length⟩)] := List.mapIdx_concat

theorem map_snd_tableOf (names : List Text) :
    (tableOf names).map (·.2) = firstHandles names.length := by
  refine List.ext_getElem? fun i => ?_
  by_cases hi : i < names.length <;> simp [tableOf, firstHandles, hi]

theorem mem_tableOf {entry : Text × ListHandle} (h : entry ∈ tableOf names) : entry.1 ∈ names := by
  obtain ⟨i, hi, rfl⟩ := List.mem_mapIdx.mp h
  exact List.getElem_mem hi

/-- A name that is not there is not found. -/
theorem lookup_tableOf_of_not_mem (h : name ∉ names) : (tableOf names).lookup name = none := by
  refine List.lookup_eq_none_iff.mpr fun entry hentry => bne_iff_ne.mpr fun heq => h ?_
  rw [heq]
  exact mem_tableOf hentry

/-- A name that is there is found at its place. -/
theorem lookup_tableOf_of_mem (h : name ∈ names) :
    ∃ i, (tableOf names).lookup name = some ⟨i⟩ ∧ names[i]? = some name := by
  have hshift (k : Nat) : ∃ i,
      (names.mapIdx fun i n => (n, (⟨i + k⟩ : ListHandle))).lookup name = some ⟨i + k⟩ ∧
        names[i]? = some name := by
    induction names generalizing k with
    | nil => cases h
    | cons first rest ih =>
      rw [List.mapIdx_cons]
      by_cases heq : name = first
      · exact ⟨0, by simp [heq], by simp [heq]⟩
      · obtain ⟨i, hlookup, hi⟩ := ih ((List.mem_cons.mp h).resolve_left heq) (k + 1)
        refine ⟨i + 1, ?_, by simpa using hi⟩
        rw [List.lookup_cons, beq_eq_false_iff_ne.mpr heq]
        simpa [Nat.add_assoc, Nat.add_comm 1] using hlookup
  simpa [tableOf] using hshift 0

theorem putName_tableOf (h : name ∉ names) (new : ListHandle) :
    Registry.putName (tableOf names) name new = tableOf names ++ [(name, new)] := by
  have hnew : ∀ entry ∈ tableOf names, entry.1 ≠ name :=
    fun entry hentry heq => h (heq ▸ mem_tableOf hentry)
  generalize tableOf names = table at hnew ⊢
  induction table with
  | nil => rfl
  | cons entry rest ih =>
    rw [Registry.putName, if_neg (hnew entry List.mem_cons_self),
      ih fun e he => hnew e (List.mem_cons_of_mem _ he), List.cons_append]

/-- Changing the list at the place of a name changes the list of that name. -/
theorem modify_map_of_nodup {α : Type} {i : Nat} (hnodup : names.Nodup)
    (hi : names[i]? = some name) (f : α → α) (g : Text → α) :
    (names.map g).modify i f = names.map fun n => if n = name then f (g n) else g n := by
  refine List.ext_getElem? fun j => ?_
  have hlt : i < names.length := (List.getElem?_eq_some_iff.mp hi).1
  have hplace : ∀ n, names[j]? = some n → (i = j ↔ n = name) := by
    intro n hj
    rw [← List.getElem?_inj hlt hnodup, hi, hj, Option.some.injEq, eq_comm]
  rw [List.getElem?_modify, List.getElem?_map, List.getElem?_map]
  cases hj : names[j]? with
  | none => rfl
  | some n => simp [hplace n hj]

/-- All instances of a pool, by their handles. -/
theorem resolve_firstHandles (lists : List FilterList) :
    (⟨lists⟩ : ListPool).resolve (firstHandles lists.length) = lists := by
  have hrange : (List.range lists.length).filterMap (lists[·]?) = lists := by
    induction lists with
    | nil => rfl
    | cons list rest ih =>
      rw [List.length_cons, List.range_succ_eq_map, List.filterMap_cons, List.getElem?_cons_zero,
        List.filterMap_map]
      exact congrArg (list :: ·) ih
  rw [ListPool.resolve, firstHandles, List.filterMap_map]
  exact hrange

end Tables

namespace Registry

theorem eq_of_names_of_subscribers {r s : Registry} (hnames : r.names = s.names)
    (hsubscribers : ∀ e, r.subscribers e = s.subscribers e) : r = s := by
  obtain ⟨names, subscribers⟩ := r
  cases hnames
  cases funext hsubscribers
  rfl

@[simp] theorem subscribeAll_names (r : Registry) (h : ListHandle) (events : List FilterEvent) :
    (r.subscribeAll h events).names = r.names := by
  induction events generalizing r with
  | nil => rfl
  | cons event rest ih => exact ih (r.subscribe h event)

/-- Whoever is not subscribed to an event yet comes last. -/
theorem subscribeAll_subscribers (r : Registry) (h : ListHandle) (events : List FilterEvent)
    (e : FilterEvent) :
    (r.subscribeAll h events).subscribers e =
      if e ∈ events ∧ h ∉ r.subscribers e then r.subscribers e ++ [h] else r.subscribers e := by
  induction events generalizing r with
  | nil => simp [subscribeAll]
  | cons event rest ih =>
    refine (ih (r.subscribe h event)).trans ?_
    by_cases he : e = event
    · subst he
      by_cases hsub : h ∈ r.subscribers e <;> simp [subscribe, hsub]
    · simp [subscribe, he]

end Registry

namespace Catalogue

variable {names : List Text} {lists : List RawList} {raw : RawList}

@[simp] theorem ofNames_all (names : List Text) (lists : List RawList) :
    (ofNames names lists).all = names.map (listUnder lists) := by
  have hresolve := resolve_firstHandles (names.map (listUnder lists))
  rw [List.length_map] at hresolve
  rw [all, Registry.all, ofNames, map_snd_tableOf, hresolve]

/-- All lists see every event. -/
theorem ofNames_subscribers (names : List Text) (lists : List RawList) (event : FilterEvent) :
    (ofNames names lists).registry.subscribers event = (ofNames names lists).registry.all :=
  (map_snd_tableOf names).symm

/-- A list of an unknown name leaves no trace, wherever it stands. -/
theorem ofLists_of_unknown (h : raw.name ∉ knownNames) (later : List RawList) :
    ofLists (lists ++ raw :: later) = ofLists (lists ++ later) := by
  have hlists : (namesOf (lists ++ later)).map (listUnder (lists ++ raw :: later)) =
      (namesOf (lists ++ later)).map (listUnder (lists ++ later)) := by
    refine List.map_congr_left fun name hname => listUnder_of_ne (fun heq => h ?_) later
    exact heq ▸ (mem_namesOf.mp hname).2
  rw [ofLists, namesOf_of_unknown h, ofNames, hlists, ofLists, ofNames]

/-- The filters of one more list go into the instance of its name. -/
theorem addFilters_ofNames {i : Nat} (hnodup : names.Nodup) (hi : names[i]? = some raw.name)
    (lists : List RawList) :
    (ofNames names lists).pool.addFilters ⟨i⟩ raw.toBatch.filters =
      (ofNames names (lists ++ [raw])).pool := by
  have hmodify := modify_map_of_nodup hnodup hi (FilterList.add · raw.toBatch.filters)
    (listUnder lists)
  refine congrArg ListPool.mk (hmodify.trans (List.map_congr_left fun name _ => ?_))
  split
  · rename_i heq
    rw [heq, listUnder_concat, toBatch_filters]
  · rename_i hne
    rw [listUnder_of_ne (Ne.symm hne), List.append_nil]

/-- A new name gets an instance of its own. -/
theorem install_ofNames {name : Text} (hknown : name ∈ knownNames) (hnew : name ∉ names)
    (hnone : filtersUnder lists name = []) :
    (ofNames names lists).install (kindOf name) =
      (ofNames (names ++ [name]) lists, ⟨names.length⟩) := by
  have hlist : listUnder lists name = kindOf name := by
    rw [listUnder, hnone, FilterList.add_nil]
  have hpool : (ofNames names lists).pool.create (kindOf name) =
      ((ofNames (names ++ [name]) lists).pool, ⟨names.length⟩) := by
    simp [ListPool.create, ofNames, hlist]
  have hregistry : ((ofNames names lists).registry.register name ⟨names.length⟩).subscribeAll
      ⟨names.length⟩ FilterEvent.all = (ofNames (names ++ [name]) lists).registry := by
    refine Registry.eq_of_names_of_subscribers ?_ fun e => ?_
    · rw [Registry.subscribeAll_names]
      exact (putName_tableOf hnew _).trans (tableOf_concat names name).symm
    · have hevent : e ∈ FilterEvent.all := by cases e <;> decide
      have hlast : firstHandles (names ++ [name]).length =
          firstHandles names.length ++ [⟨names.length⟩] := by
        rw [List.length_append, List.length_singleton, firstHandles_succ]
      rw [Registry.subscribeAll_subscribers, if_pos ⟨hevent, not_mem_firstHandles _⟩]
      exact hlast.symm
  simp only [install, hpool, kindOf_events, kindOf_name hknown, hregistry]

end Catalogue

/-! ## § Building -/

open Catalogue

namespace RawList

/-- What is logged does not depend on how the values are split. -/
theorem warningsAfter_append (earlier : List RawList) (raws later : List Value) :
    warningsAfter earlier (raws ++ later) =
      warningsAfter earlier raws ++ warningsAfter (earlier ++ accepted raws) later := by
  induction raws generalizing earlier with
  | nil => simp [warningsAfter, accepted]
  | cons v rest ih =>
    have hsplit : accepted (v :: rest) = accepted [v] ++ accepted rest := accepted_append [v] rest
    rw [List.cons_append, warningsAfter, ih, warningsAfter, hsplit, List.append_assoc,
      List.append_assoc]

theorem warnings_concat (raws : List Value) (v : Value) :
    warnings (raws ++ [v]) = warnings raws ++ (warningAt (accepted raws) v).toList := by
  rw [warnings, warningsAfter_append, warningsAfter, warningsAfter, List.append_nil, warnings,
    List.nil_append]

end RawList

namespace Catalogue.Building

/-- What has been built is what the values so far amount to. -/
structure Reflects (b : Building) (raws : List Value) : Prop where
  catalogue : b.catalogue = ofLists (accepted raws)
  warned : ∀ name, name ∉ knownNames → (name ∈ b.warned ↔ name ∈ (accepted raws).map (·.name))
  events : b.events = warnings raws

variable {b : Building} {raws : List Value} {lists : List RawList} {raw : RawList}

/-- A list of a name that is there already: its filters go into the list of that name. -/
theorem addBatch_of_mem (hb : b.catalogue = ofLists lists) (hmem : raw.name ∈ namesOf lists) :
    b.addBatch builtInKinds raw.toBatch = { b with catalogue := ofLists (lists ++ [raw]) } := by
  obtain ⟨catalogue, warned, events⟩ := b
  obtain rfl : catalogue = ofLists lists := hb
  obtain ⟨i, hlookup, hi⟩ := lookup_tableOf_of_mem hmem
  have hget : (ofLists lists).registry.get? raw.toBatch.name = some ⟨i⟩ := hlookup
  have hfill := addFilters_ofNames (nodup_namesOf lists) hi lists
  simp only [addBatch, hget]
  simp only [fill, ofLists, hfill, namesOf_concat_of_mem hmem]
  rfl

/-- The first list of a known name: it gets an instance of its own. -/
theorem addBatch_of_new (hb : b.catalogue = ofLists lists) (hknown : raw.name ∈ knownNames)
    (hnew : raw.name ∉ namesOf lists) :
    b.addBatch builtInKinds raw.toBatch = { b with catalogue := ofLists (lists ++ [raw]) } := by
  obtain ⟨catalogue, warned, events⟩ := b
  obtain rfl : catalogue = ofLists lists := hb
  have hget : (ofLists lists).registry.get? raw.toBatch.name = none :=
    lookup_tableOf_of_not_mem hnew
  have hkind : builtInKinds.named? raw.toBatch.name = some (kindOf raw.name) :=
    named?_of_known hknown
  have hnames := namesOf_concat_of_new hknown hnew
  have hinstall : (ofLists lists).install (kindOf raw.name) =
      (ofNames (namesOf (lists ++ [raw])) lists, ⟨(namesOf lists).length⟩) := by
    rw [hnames]
    exact install_ofNames hknown hnew (filtersUnder_eq_nil hknown hnew)
  have hplace : (namesOf (lists ++ [raw]))[(namesOf lists).length]? = some raw.name := by
    rw [hnames]
    exact List.getElem?_concat_length
  have hfill := addFilters_ofNames (nodup_namesOf _) hplace lists
  simp only [addBatch, hget, hkind, hinstall]
  simp only [fill, hfill]
  rfl

/-- A list of an unknown name goes nowhere. -/
theorem addBatch_of_unknown (hb : b.catalogue = ofLists lists) (hunknown : raw.name ∉ knownNames) :
    b.addBatch builtInKinds raw.toBatch = b.warnUnknown raw.name := by
  have hget : b.catalogue.registry.get? raw.toBatch.name = none := by
    rw [hb]
    exact lookup_tableOf_of_not_mem fun hmem => hunknown (mem_namesOf.mp hmem).2
  have hkind : builtInKinds.named? raw.toBatch.name = none := named?_of_unknown hunknown
  simp only [addBatch, hget, hkind]
  rfl

/-- One more value that is not valid. -/
theorem Reflects.add_invalid (h : b.Reflects raws) {v : Value} {issues : List Issue}
    (hv : Check.rawList v = .invalid issues) : (b.add builtInKinds v).Reflects (raws ++ [v]) := by
  have haccepted : accepted (raws ++ [v]) = accepted raws := by
    rw [accepted_append, accepted_of_invalid hv, List.append_nil]
  have hwarning : warningAt (accepted raws) v = some (.invalidList issues) := by
    rw [warningAt, hv]
  simp only [Building.add, hv]
  refine ⟨haccepted ▸ h.catalogue, haccepted ▸ h.warned, ?_⟩
  rw [warnings_concat, hwarning, ← h.events]
  rfl

/-- One more list of a known name. -/
theorem Reflects.add_known (h : b.Reflects raws) {v : Value} (hv : Check.rawList v = .valid raw)
    (hknown : raw.name ∈ knownNames) : (b.add builtInKinds v).Reflects (raws ++ [v]) := by
  have haccepted : accepted (raws ++ [v]) = accepted raws ++ [raw] := by
    rw [accepted_append, accepted_of_valid hv]
  have hwarning : warningAt (accepted raws) v = none := by
    simp only [warningAt, hv]
    exact if_pos (Or.inl hknown)
  have hbatch : b.addBatch builtInKinds raw.toBatch =
      { b with catalogue := ofLists (accepted raws ++ [raw]) } := by
    by_cases hmem : raw.name ∈ namesOf (accepted raws)
    · exact addBatch_of_mem h.catalogue hmem
    · exact addBatch_of_new h.catalogue hknown hmem
  simp only [Building.add, hv, hbatch]
  refine ⟨by rw [haccepted], fun name hname => ?_, ?_⟩
  · have hother : name ≠ raw.name := fun heq => hname (heq ▸ hknown)
    have hseen : name ∈ (accepted raws).map (·.name) ++ [raw.name] ↔
        name ∈ (accepted raws).map (·.name) := by simp [hother]
    rw [haccepted, List.map_append, List.map_singleton, hseen, h.warned name hname]
  · rw [warnings_concat, hwarning, ← h.events]
    exact (List.append_nil _).symm

/-- One more list of an unknown name. -/
theorem Reflects.add_unknown (h : b.Reflects raws) {v : Value} (hv : Check.rawList v = .valid raw)
    (hunknown : raw.name ∉ knownNames) : (b.add builtInKinds v).Reflects (raws ++ [v]) := by
  have haccepted : accepted (raws ++ [v]) = accepted raws ++ [raw] := by
    rw [accepted_append, accepted_of_valid hv]
  have hcatalogue : ofLists (accepted raws) = ofLists (accepted (raws ++ [v])) := by
    rw [haccepted, ofLists_of_unknown hunknown, List.append_nil]
  have hseen (name : Text) : name ∈ (accepted (raws ++ [v])).map (·.name) ↔
      name ∈ (accepted raws).map (·.name) ∨ name = raw.name := by
    rw [haccepted, List.map_append, List.mem_append, List.map_singleton, List.mem_singleton]
  have hwarned : raw.name ∈ b.warned ↔ raw.name ∈ (accepted raws).map (·.name) :=
    h.warned _ hunknown
  simp only [Building.add, hv, addBatch_of_unknown h.catalogue hunknown, warnUnknown]
  by_cases hbefore : raw.name ∈ (accepted raws).map (·.name)
  · have hwarning : warningAt (accepted raws) v = none := by
      simp only [warningAt, hv]
      exact if_pos (Or.inr hbefore)
    rw [if_pos (hwarned.mpr hbefore)]
    refine ⟨h.catalogue.trans hcatalogue, fun name hname => ?_, ?_⟩
    · rw [h.warned name hname, hseen]
      exact (or_iff_left_of_imp fun heq => heq ▸ hbefore).symm
    · rw [warnings_concat, hwarning, ← h.events]
      exact (List.append_nil _).symm
  · have hwarning : warningAt (accepted raws) v = some (.unknownList raw.name) := by
      simp only [warningAt, hv]
      exact if_neg (not_or.mpr ⟨hunknown, hbefore⟩)
    rw [if_neg (fun hmem => hbefore (hwarned.mp hmem))]
    refine ⟨h.catalogue.trans hcatalogue, fun name hname => ?_, ?_⟩
    · rw [hseen, ← h.warned name hname]
      exact List.mem_append.trans (or_congr_right List.mem_singleton)
    · rw [warnings_concat, hwarning, ← h.events]
      rfl

/-- One more value of any shape. -/
theorem Reflects.add (h : b.Reflects raws) (v : Value) :
    (b.add builtInKinds v).Reflects (raws ++ [v]) := by
  cases hv : Check.rawList v with
  | invalid issues => exact h.add_invalid hv
  | valid raw =>
    by_cases hknown : raw.name ∈ knownNames
    · exact h.add_known hv hknown
    · exact h.add_unknown hv hknown

theorem Reflects.foldl (h : b.Reflects raws) (later : List Value) :
    (later.foldl (Building.add builtInKinds) b).Reflects (raws ++ later) := by
  induction later generalizing b raws with
  | nil => simpa using h
  | cons v rest ih => simpa using ih (h.add v)

theorem reflects_empty : (⟨Catalogue.empty, [], []⟩ : Building).Reflects [] where
  catalogue := rfl
  warned := fun _ _ => Iff.rfl
  events := rfl

end Catalogue.Building

namespace Catalogue

/-- What is built is what the valid values amount to, and the warnings are those about the values. -/
theorem build_eq (raws : List Value) : build raws = (ofLists (accepted raws), warnings raws) := by
  have h := Building.reflects_empty.foldl raws
  exact Prod.ext h.catalogue h.events

end Catalogue

/-! ## § Values that leave only a warning -/

namespace RawList

/-- Whether an entry of the log is the warning about an unknown name. -/
def warnsOf (name : Text) : LogEvent → Bool
  | .unknownList unknown => unknown = name
  | _ => false

variable {lists : List RawList} {raw : RawList}

/-- Taking a value that is not valid out of the values takes its warning out of the log. -/
theorem warnings_of_invalid {v : Value} {issues : List Issue}
    (hv : Check.rawList v = .invalid issues) (before after : List Value) :
    ∃ earlier later, warnings (before ++ v :: after) = earlier ++ .invalidList issues :: later ∧
      warnings (before ++ after) = earlier ++ later := by
  refine ⟨warnings before, warningsAfter (accepted before) after, ?_, ?_⟩
  · have hwarning : warningAt (accepted before) v = some (.invalidList issues) := by
      rw [warningAt, hv]
    rw [warnings, warningsAfter_append, List.nil_append, warningsAfter, hwarning,
      accepted_of_invalid hv, List.append_nil]
    rfl
  · rw [warnings, warningsAfter_append, List.nil_append]
    rfl

/-- Two pasts that differ at most in whether a name has occurred give rise to the same warnings,
those about that name apart. -/
theorem warningAt_congr {earlier others : List RawList} {name : Text}
    (h : ∀ n, n ≠ name → (n ∈ earlier.map (·.name) ↔ n ∈ others.map (·.name))) (v : Value) :
    (warningAt earlier v).toList.filter (!warnsOf name ·) =
      (warningAt others v).toList.filter (!warnsOf name ·) := by
  unfold warningAt
  cases Check.rawList v with
  | invalid issues => rfl
  | valid raw =>
    by_cases hname : raw.name = name
    · have hdrop (c : Prop) [Decidable c] :
          (if c then none else some (LogEvent.unknownList raw.name)).toList.filter
            (!warnsOf name ·) = [] := by
        split
        · rfl
        · simp [warnsOf, hname]
      exact (hdrop _).trans (hdrop _).symm
    · simp only [h raw.name hname]

theorem warningsAfter_congr {earlier others : List RawList} {name : Text}
    (h : ∀ n, n ≠ name → (n ∈ earlier.map (·.name) ↔ n ∈ others.map (·.name)))
    (raws : List Value) :
    (warningsAfter earlier raws).filter (!warnsOf name ·) =
      (warningsAfter others raws).filter (!warnsOf name ·) := by
  induction raws generalizing earlier others with
  | nil => rfl
  | cons v rest ih =>
    have hnext : ∀ n, n ≠ name → (n ∈ (earlier ++ accepted [v]).map (·.name) ↔
        n ∈ (others ++ accepted [v]).map (·.name)) := by
      intro n hn
      rw [List.map_append, List.map_append, List.mem_append, List.mem_append, h n hn]
    rw [warningsAfter, warningsAfter, List.filter_append, List.filter_append, warningAt_congr h v,
      ih hnext]

/-- Taking a list out of the values changes no warning but those about its name. -/
theorem warnings_of_valid {v : Value} (hv : Check.rawList v = .valid raw)
    (before after : List Value) :
    (warnings (before ++ after)).filter (!warnsOf raw.name ·) =
      (warnings (before ++ v :: after)).filter (!warnsOf raw.name ·) := by
  have hown : (warningAt (accepted before) v).toList.filter (!warnsOf raw.name ·) = [] := by
    simp only [warningAt, hv]
    split
    · rfl
    · simp [warnsOf]
  have hnames : ∀ n, n ≠ raw.name → (n ∈ (accepted before).map (·.name) ↔
      n ∈ (accepted before ++ [raw]).map (·.name)) := by
    intro n hn
    simp [hn]
  rw [warnings, warnings, warningsAfter_append, warningsAfter_append, List.nil_append,
    warningsAfter, accepted_of_valid hv, List.filter_append, List.filter_append,
    List.filter_append, hown, List.nil_append, warningsAfter_congr hnames after]

end RawList

namespace Catalogue

/-- **What is built, in closed form.**  The lists are one for each known name among the valid
values, in the order of first occurrence; each holds the filters that were configured under its
name, in order, every one as it is written down and with its own reaction or else the default of
the value in which it stands.  All lists see every event.  The log is the warnings and nothing
else.  A value that is not valid, or whose name is unknown, can be taken out: the lists stay the
same, and so does the log but for the warnings about that value or that name. -/
theorem build_closed_form (raws : List Value) :
    let lists := accepted raws
    let built := (build raws).1
    (∀ v raw, Check.rawList v = .valid raw → raw.Reads v) ∧
      built.all = (namesOf lists).map (listUnder lists) ∧
      (∀ event, built.registry.subscribers event = built.registry.all ∧
        built.subscribers event = built.all) ∧
      (build raws).2 = warnings raws ∧
      ∀ before v after, raws = before ++ v :: after →
        (∀ issues, Check.rawList v = .invalid issues →
          (build (before ++ after)).1 = built ∧
            ∃ earlier later, (build raws).2 = earlier ++ .invalidList issues :: later ∧
              (build (before ++ after)).2 = earlier ++ later) ∧
        ∀ raw, Check.rawList v = .valid raw → raw.name ∉ knownNames →
          (build (before ++ after)).1 = built ∧
            (build (before ++ after)).2.filter (!warnsOf raw.name ·) =
              (build raws).2.filter (!warnsOf raw.name ·) := by
  simp only [build_eq]
  refine ⟨fun v raw => Check.reads_of_rawList, ofNames_all _ _, fun event => ?_, trivial, ?_⟩
  · have hall := ofNames_subscribers (namesOf (accepted raws)) (accepted raws) event
    exact ⟨hall, congrArg (ofLists (accepted raws)).pool.resolve hall⟩
  · rintro before v after rfl
    have hsplit : accepted (before ++ v :: after) =
        accepted before ++ (accepted [v] ++ accepted after) := by
      rw [accepted_append, ← accepted_append [v] after]
      rfl
    constructor
    · intro issues hv
      refine ⟨?_, warnings_of_invalid hv before after⟩
      rw [hsplit, accepted_of_invalid hv, accepted_append]
      rfl
    · intro raw hv hunknown
      refine ⟨?_, warnings_of_valid hv before after⟩
      rw [hsplit, accepted_of_valid hv, accepted_append]
      exact (ofLists_of_unknown hunknown _).symm

/-- Two lists of one name around a value of no shape and a list of a name that nobody knows. -/
theorem build_closed_form_two_batches :
    let dm (text : String) := Value.record [(sanctionKey,
      Value.record [("dm_content", .ofString text)])]
    let filter (id : Number) (more : List (String × Value)) :=
      Value.record ([("id", .number id), ("content", .ofString "spam")] ++ more)
    let list (name text : String) (filters : List Value) :=
      Value.record [("name", .ofString name), ("defaults", Value.record [("actions", dm text)]),
        ("filters", .list filters)]
    let before := [list "token" "first" [filter 1 [], filter 2 [("actions", dm "own")]], .null]
    let unknown := list "regex" "third" [filter 4 []]
    let after := [list "token" "second" [filter 3 []]]
    let built := build (before ++ unknown :: after)
    built.1.all.map (fun l => (l.name, l.filters.map fun f =>
        (f.id, f.actions.sanction.map (·.dmContent)))) =
      [(Text.ofString "token", [(1, some (Text.ofString "first")), (2, some (Text.ofString "own")),
        (3, some (Text.ofString "second"))])] ∧
      built.2 = [.invalidList [⟨.invalidType, [], Text.ofString "Expected object, received null"⟩],
        .unknownList (Text.ofString "regex")] ∧
      (build (before ++ after)).1 = built.1 := by
  intro dm filter list before unknown after built
  obtain ⟨-, hall, -, hlog, hremove⟩ := build_closed_form (before ++ unknown :: after)
  refine ⟨?_, hlog.trans rfl, ?_⟩
  · rw [hall]
    decide +kernel
  · exact ((hremove before unknown after rfl).2 _ rfl (by decide +kernel)).1

end Catalogue

end ChatModeration
