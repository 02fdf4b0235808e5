/-
ChatModeration.Proofs.CatalogueCoherence — which instances configured lists go into.

A configured list is looked up under the name that it asks for, a new instance
is made by the kind that the table of kinds has under this name, and the
instance is registered under the name that the kind gives it.  Nothing makes
these names agree.  `Enters` says what a configured list can do to a catalogue,
and `Coherent` what an administrator relies on: one instance for each name, no
instance subscribed twice, and every subscribed instance found under its name.

The main statement is `coherent_iff`: a table of kinds keeps all configurations
coherent just when it has every kind under the name of its own lists.
-/
import ChatModeration.Proofs.RegistryTables

namespace ChatModeration

open RawList (accepted)

/-- A valid list, and the instance into which its filters went, if they went into one. -/
structure Placement where
  raw : RawList
  into : Option ListHandle

/-- The filters that went into an instance. -/
def filtersInto (placements : List Placement) (h : ListHandle) : List Filter :=
  (placements.filter (·.into = some h)).flatMap (·.raw.toBatch.filters)

namespace Catalogue

/-- The name of an instance. -/
def nameOf? (c : Catalogue) (h : ListHandle) : Option Text := (c.pool.get? h).map (·.name)

/-- The instance into which lists of a name go: the one for which the name stands, or else a new
one, if there is a kind under this name. -/
def target? (kinds : ListKinds) (c : Catalogue) (name : Text) : Option ListHandle :=
  match c.registry.get? name with
  | some h => some h
  | none => (kinds.named? name).map fun _ => ⟨c.pool.lists.length⟩

namespace Building

/-- Where the valid ones among values go, one after the other. -/
def placements (kinds : ListKinds) (b : Building) : List Value → List Placement
  | [] => []
  | v :: later =>
    match Check.rawList v with
    | .invalid _ => placements kinds (b.add kinds v) later
    | .valid raw =>
      ⟨raw, b.catalogue.target? kinds raw.name⟩ :: placements kinds (b.add kinds v) later

end Building

/-- Nothing has been built yet. -/
def start : Building := ⟨empty, [], []⟩

/-- What is built of values with a table of kinds. -/
def builtWith (kinds : ListKinds) (raws : List Value) : Catalogue :=
  (buildIn ListPool.empty kinds raws).1

/-- A catalogue that is built of values shows an administrator every list that sees events. -/
structure Coherent (kinds : ListKinds) (raws : List Value) : Prop where
  /-- All valid lists of one name went into one instance, or into none. -/
  together : ∀ p ∈ start.placements kinds raws, ∀ q ∈ start.placements kinds raws,
    p.raw.name = q.raw.name → p.into = q.into
  /-- No instance is subscribed twice. -/
  once : ∀ e, ((builtWith kinds raws).registry.subscribers e).Nodup
  /-- Every subscribed instance is found under its own name. -/
  found : ∀ e, ∀ h ∈ (builtWith kinds raws).registry.subscribers e,
    ((builtWith kinds raws).nameOf? h).bind (builtWith kinds raws).registry.get? = some h

/-! ## § One more list -/

/-- What a batch can do to a catalogue, and the instance into which it goes. -/
inductive Enters (kinds : ListKinds) (c : Catalogue) (batch : FilterBatch) :
    Option ListHandle → Catalogue → Prop where
  | known {h : ListHandle} (hget : c.registry.get? batch.name = some h) :
      Enters kinds c batch (some h) ⟨c.pool.addFilters h batch.filters, c.registry⟩
  | unknown (hget : c.registry.get? batch.name = none) (hkind : kinds.named? batch.name = none) :
      Enters kinds c batch none c
  | new {kind : FilterList} (hget : c.registry.get? batch.name = none)
      (hkind : kinds.named? batch.name = some kind) :
      Enters kinds c batch (some ⟨c.pool.lists.length⟩)
        ⟨⟨c.pool.lists ++ [kind.add batch.filters]⟩,
          (c.registry.register kind.name ⟨c.pool.lists.length⟩).subscribeAll
            ⟨c.pool.lists.length⟩ kind.events⟩

variable {kinds : ListKinds} {c c' : Catalogue} {batch : FilterBatch} {into : Option ListHandle}
variable {ps : List Placement} {raw : RawList}

theorem Building.enters (kinds : ListKinds) (b : Building) (batch : FilterBatch) :
    Enters kinds b.catalogue batch (b.catalogue.target? kinds batch.name)
      (b.addBatch kinds batch).catalogue := by
  cases hget : b.catalogue.registry.get? batch.name with
  | some h =>
    simp only [addBatch, target?, hget]
    exact .known hget
  | none =>
    cases hkind : kinds.named? batch.name with
    | none =>
      have hsame : (b.warnUnknown batch.name).catalogue = b.catalogue := by
        unfold warnUnknown
        split <;> rfl
      simp only [addBatch, target?, hget, hkind, hsame]
      exact .unknown hget hkind
    | some kind =>
      have hpool : (⟨b.catalogue.pool.lists ++ [kind]⟩ : ListPool).addFilters
          ⟨b.catalogue.pool.lists.length⟩ batch.filters =
            ⟨b.catalogue.pool.lists ++ [kind.add batch.filters]⟩ :=
        congrArg ListPool.mk (List.modifyTailIdx_add _ 0 _ [kind])
      simp only [addBatch, target?, hget, hkind, install, ListPool.create, fill, hpool]
      exact .new hget hkind

/-! ## § Instances -/

theorem get?_addFilters (pool : ListPool) (h k : ListHandle) (filters : List Filter) :
    (pool.addFilters h filters).get? k =
      if h = k then (pool.get? k).map (·.add filters) else pool.get? k := by
  obtain ⟨i⟩ := h
  obtain ⟨j⟩ := k
  rw [ListPool.get?, ListPool.addFilters, List.getElem?_modify]
  by_cases hij : i = j <;> simp [hij, ListPool.get?]

theorem get?_append (lists : List FilterList) (list : FilterList) (k : ListHandle) :
    (⟨lists ++ [list]⟩ : ListPool).get? k =
      if k = ⟨lists.length⟩ then some list else (⟨lists⟩ : ListPool).get? k := by
  obtain ⟨j⟩ := k
  simp only [ListPool.get?, ListHandle.mk.injEq]
  grind

theorem filtersInto_concat (ps : List Placement) (p : Placement) (h : ListHandle) :
    filtersInto (ps ++ [p]) h =
      filtersInto ps h ++ if p.into = some h then p.raw.toBatch.filters else [] := by
  unfold filtersInto
  split <;> simp [*]

theorem filtersInto_eq_nil {h : ListHandle} (hnone : ∀ p ∈ ps, p.into ≠ some h) :
    filtersInto ps h = [] := by
  rw [filtersInto, List.filter_eq_nil_iff.mpr fun p hp => by simpa using hnone p hp]
  rfl

theorem add_add (list : FilterList) (filters more : List Filter) :
    (list.add filters).add more = list.add (filters ++ more) := by
  simp [FilterList.add]

/-! ## § Registries -/

theorem get?_subscribeAll (r : Registry) (h : ListHandle) (events : List FilterEvent)
    (name : Text) : (r.subscribeAll h events).get? name = r.get? name := by
  rw [Registry.get?, Registry.subscribeAll_names, Registry.get?]

theorem nodup_subscribeAll (r : Registry) (hr : ∀ e, (r.subscribers e).Nodup) (h : ListHandle)
    (events : List FilterEvent) (e : FilterEvent) :
    ((r.subscribeAll h events).subscribers e).Nodup := by
  rw [Registry.subscribeAll_subscribers]
  split
  · next hnew => exact List.nodup_append.mpr ⟨hr e, List.nodup_singleton h, by grind⟩
  · exact hr e

theorem mem_subscribeAll {r : Registry} {h k : ListHandle} {events : List FilterEvent}
    {e : FilterEvent} (hk : k ∈ (r.subscribeAll h events).subscribers e) :
    k ∈ r.subscribers e ∨ k = h := by
  rw [Registry.subscribeAll_subscribers] at hk
  split at hk
  · simpa using hk
  · exact Or.inl hk

/-! ## § What holds for every table of kinds -/

/-- What holds of a catalogue whatever its kinds are called: handles are those of instances, and an
instance holds the filters of its kind and those that went into it. -/
structure Sound (kinds : ListKinds) (ps : List Placement) (c : Catalogue) : Prop where
  placed : ∀ p ∈ ps, ∀ h ∈ p.into, h.index < c.pool.lists.length
  named : ∀ name h, c.registry.get? name = some h → h.index < c.pool.lists.length
  once : ∀ e, (c.registry.subscribers e).Nodup
  holds : ∀ h list, c.pool.get? h = some list →
    ∃ name kind, kinds.named? name = some kind ∧ list = kind.add (filtersInto ps h)

theorem Sound.empty (kinds : ListKinds) : Sound kinds [] empty where
  placed _ hp := absurd hp List.not_mem_nil
  named _ _ h := by cases h
  once _ := List.nodup_nil
  holds _ _ h := by cases h

theorem Sound.known {h : ListHandle} (hs : Sound kinds ps c)
    (hget : c.registry.get? raw.name = some h) :
    Sound kinds (ps ++ [⟨raw, some h⟩]) ⟨c.pool.addFilters h raw.toBatch.filters, c.registry⟩ := by
  have hlength : (c.pool.addFilters h raw.toBatch.filters).lists.length = c.pool.lists.length :=
    List.length_modify _ _ _
  refine ⟨?_, hlength ▸ hs.named, hs.once, fun k list hk => ?_⟩
  · rw [hlength, List.forall_mem_append, List.forall_mem_singleton]
    refine ⟨hs.placed, ?_⟩
    rintro _ ⟨⟩
    exact hs.named _ _ hget
  · rw [get?_addFilters] at hk
    rw [filtersInto_concat]
    by_cases hsame : h = k
    · subst hsame
      rw [if_pos rfl] at hk
      obtain ⟨old, hold, rfl⟩ := Option.map_eq_some_iff.mp hk
      obtain ⟨name, kind, hkind, rfl⟩ := hs.holds h old hold
      exact ⟨name, kind, hkind, by rw [if_pos rfl, add_add]⟩
    · rw [if_neg hsame] at hk
      rw [if_neg (by simpa using hsame), List.append_nil]
      exact hs.holds k list hk

theorem Sound.skipped (hs : Sound kinds ps c) : Sound kinds (ps ++ [⟨raw, none⟩]) c := by
  refine ⟨?_, hs.named, hs.once, fun k list hk => ?_⟩
  · rw [List.forall_mem_append, List.forall_mem_singleton]
    exact ⟨hs.placed, nofun⟩
  · rw [filtersInto_concat, if_neg (by simp), List.append_nil]
    exact hs.holds k list hk

theorem Sound.new {kind : FilterList} (hs : Sound kinds ps c)
    (hkind : kinds.named? raw.name = some kind) :
    Sound kinds (ps ++ [⟨raw, some ⟨c.pool.lists.length⟩⟩])
      ⟨⟨c.pool.lists ++ [kind.add raw.toBatch.filters]⟩,
        (c.registry.register kind.name ⟨c.pool.lists.length⟩).subscribeAll
          ⟨c.pool.lists.length⟩ kind.events⟩ := by
  have hlength : (c.pool.lists ++ [kind.add raw.toBatch.filters]).length =
      c.pool.lists.length + 1 := List.length_append
  refine ⟨?_, fun name k hk => ?_, ?_, fun k list hk => ?_⟩
  · rw [hlength, List.forall_mem_append, List.forall_mem_singleton]
    refine ⟨fun p hp k hk => Nat.lt_succ_of_lt (hs.placed p hp k hk), ?_⟩
    rintro _ ⟨⟩
    exact Nat.lt_succ_self _
  · rw [hlength]
    rw [get?_subscribeAll, Registry.get?_register] at hk
    split at hk
    · cases hk
      exact Nat.lt_succ_self _
    · exact Nat.lt_succ_of_lt (hs.named name k hk)
  · exact nodup_subscribeAll (c.registry.register kind.name _) hs.once _ _
  · rw [get?_append] at hk
    rw [filtersInto_concat]
    by_cases hnew : k = ⟨c.pool.lists.length⟩
    · -- nothing has gone into an instance before it is made
      subst hnew
      have hnone : filtersInto ps ⟨c.pool.lists.length⟩ = [] :=
        filtersInto_eq_nil fun p hp hinto => Nat.lt_irrefl _ (hs.placed p hp _ hinto)
      rw [if_pos rfl] at hk
      obtain rfl := Option.some.inj hk
      exact ⟨raw.name, kind, hkind, by rw [hnone, if_pos rfl, List.nil_append]⟩
    · rw [if_neg hnew] at hk
      rw [if_neg (by simpa using Ne.symm hnew), List.append_nil]
      exact hs.holds k list hk

theorem Sound.enters (hs : Sound kinds ps c) (he : Enters kinds c raw.toBatch into c') :
    Sound kinds (ps ++ [⟨raw, into⟩]) c' := by
  cases he with
  | known hget => exact hs.known hget
  | unknown _ _ => exact hs.skipped
  | new _ hkind => exact hs.new hkind

/-! ## § What holds where kinds are under their own names -/

/-- What holds of a catalogue whose instances have the names that were asked for. -/
structure Orderly (kinds : ListKinds) (ps : List Placement) (c : Catalogue) : Prop where
  named : ∀ name h, c.registry.get? name = some h → c.nameOf? h = some name
  found : ∀ e, ∀ h ∈ c.registry.subscribers e, (c.nameOf? h).bind c.registry.get? = some h
  placed : ∀ p ∈ ps, p.into = c.registry.get? p.raw.name
  unknown : ∀ p ∈ ps, p.into = none → kinds.named? p.raw.name = none

/-- Filters do not change what an instance is called. -/
theorem nameOf?_addFilters (c : Catalogue) (r : Registry) (h k : ListHandle)
    (filters : List Filter) :
    nameOf? ⟨c.pool.addFilters h filters, r⟩ k = c.nameOf? k := by
  rw [nameOf?, nameOf?, get?_addFilters]
  split
  · rw [Option.map_map]
    rfl
  · rfl

theorem nameOf?_append (c : Catalogue) (r : Registry) (list : FilterList) (k : ListHandle) :
    nameOf? ⟨⟨c.pool.lists ++ [list]⟩, r⟩ k =
      if k = ⟨c.pool.lists.length⟩ then some list.name else c.nameOf? k := by
  rw [nameOf?, nameOf?, get?_append]
  split <;> rfl

theorem nameOf?_new (c : Catalogue) : c.nameOf? ⟨c.pool.lists.length⟩ = none := by
  simp [nameOf?, ListPool.get?]

theorem Orderly.empty (kinds : ListKinds) : Orderly kinds [] empty where
  named _ _ h := by cases h
  found _ _ h := absurd h List.not_mem_nil
  placed _ hp := absurd hp List.not_mem_nil
  unknown _ hp := absurd hp List.not_mem_nil

theorem Orderly.known {h : ListHandle} (ho : Orderly kinds ps c)
    (hget : c.registry.get? raw.name = some h) :
    Orderly kinds (ps ++ [⟨raw, some h⟩])
      ⟨c.pool.addFilters h raw.toBatch.filters, c.registry⟩ := by
  refine ⟨fun name k hk => ?_, fun e k hk => ?_, ?_, ?_⟩
  · rw [nameOf?_addFilters]
    exact ho.named name k hk
  · rw [nameOf?_addFilters]
    exact ho.found e k hk
  · rw [List.forall_mem_append, List.forall_mem_singleton]
    exact ⟨ho.placed, hget.symm⟩
  · rw [List.forall_mem_append, List.forall_mem_singleton]
    exact ⟨ho.unknown, nofun⟩

theorem Orderly.skipped (ho : Orderly kinds ps c) (hget : c.registry.get? raw.name = none)
    (hkind : kinds.named? raw.name = none) : Orderly kinds (ps ++ [⟨raw, none⟩]) c := by
  refine ⟨ho.named, ho.found, ?_, ?_⟩
  · rw [List.forall_mem_append, List.forall_mem_singleton]
    exact ⟨ho.placed, hget.symm⟩
  · rw [List.forall_mem_append, List.forall_mem_singleton]
    exact ⟨ho.unknown, fun _ => hkind⟩

theorem Orderly.new {kind : FilterList} (ho : Orderly kinds ps c)
    (hget : c.registry.get? raw.name = none) (hkind : kinds.named? raw.name = some kind)
    (hname : kind.name = raw.name) :
    Orderly kinds (ps ++ [⟨raw, some ⟨c.pool.lists.length⟩⟩])
      ⟨⟨c.pool.lists ++ [kind.add raw.toBatch.filters]⟩,
        (c.registry.register kind.name ⟨c.pool.lists.length⟩).subscribeAll
          ⟨c.pool.lists.length⟩ kind.events⟩ := by
  have hnames (n : Text) :
      ((c.registry.register kind.name ⟨c.pool.lists.length⟩).subscribeAll
        ⟨c.pool.lists.length⟩ kind.events).get? n =
          if n = raw.name then some ⟨c.pool.lists.length⟩ else c.registry.get? n := by
    rw [get?_subscribeAll, Registry.get?_register, hname]
  have hnew {k : ListHandle} {n : Text} (hk : c.nameOf? k = some n) :
      k ≠ ⟨c.pool.lists.length⟩ := by
    rintro rfl
    rw [nameOf?_new] at hk
    cases hk
  refine ⟨fun n k hk => ?_, fun e k hk => ?_, ?_, ?_⟩
  · rw [hnames] at hk
    rw [nameOf?_append]
    split at hk
    · next hn =>
      cases hk
      rw [if_pos rfl, hn, ← hname]
      rfl
    · rw [if_neg (hnew (ho.named n k hk))]
      exact ho.named n k hk
  · rw [nameOf?_append]
    by_cases hlast : k = ⟨c.pool.lists.length⟩
    · rw [if_pos hlast, hlast]
      exact (hnames kind.name).trans (if_pos hname)
    · rw [if_neg hlast]
      have hold := ho.found e k ((mem_subscribeAll hk).resolve_right hlast)
      obtain ⟨n, hn, hfound⟩ := Option.bind_eq_some_iff.mp hold
      rw [hn, Option.bind_some, hnames, if_neg, hfound]
      rintro rfl
      rw [hget] at hfound
      cases hfound
  · rw [List.forall_mem_append, List.forall_mem_singleton]
    refine ⟨fun p hp => ?_, ((hnames raw.name).trans (if_pos rfl)).symm⟩
    rw [hnames, if_neg, ho.placed p hp]
    -- a list of the same name would have gone into an instance, since there is a kind
    intro hsame
    have hnone : p.into = none := by rw [ho.placed p hp, hsame, hget]
    rw [← hsame, ho.unknown p hp hnone] at hkind
    cases hkind
  · rw [List.forall_mem_append, List.forall_mem_singleton]
    exact ⟨ho.unknown, nofun⟩

theorem Orderly.enters (ho : Orderly kinds ps c) (he : Enters kinds c raw.toBatch into c')
    (hnames : ∀ kind, kinds.named? raw.name = some kind → kind.name = raw.name) :
    Orderly kinds (ps ++ [⟨raw, into⟩]) c' := by
  cases he with
  | known hget => exact ho.known hget
  | unknown hget hkind => exact ho.skipped hget hkind
  | new hget hkind => exact ho.new hget hkind (hnames _ hkind)

/-! ## § Any number of lists -/

section Runs

variable {P : List Placement → Catalogue → Prop} {raws : List Value}

/-- What each valid list preserves holds after all of them. -/
theorem foldl_add_induction (b : Building) (hb : P ps b.catalogue)
    (hstep : ∀ ps c raw into c', raw ∈ accepted raws → P ps c →
      Enters kinds c raw.toBatch into c' → P (ps ++ [⟨raw, into⟩]) c') :
    P (ps ++ b.placements kinds raws) (raws.foldl (Building.add kinds) b).catalogue := by
  induction raws generalizing b ps with
  | nil => simpa [Building.placements] using hb
  | cons v later ih =>
    rw [List.foldl_cons, Building.placements]
    have haccepted : accepted (v :: later) = accepted [v] ++ accepted later :=
      RawList.accepted_append [v] later
    simp only [haccepted, List.mem_append] at hstep
    have hlater := fun ps c raw into c' hraw => hstep ps c raw into c' (Or.inr hraw)
    cases hcheck : Check.rawList v with
    | invalid issues =>
      refine ih (b.add kinds v) ?_ hlater
      rw [Building.add, hcheck]
      exact hb
    | valid raw =>
      have hnext : P (ps ++ [⟨raw, b.catalogue.target? kinds raw.name⟩])
          (b.add kinds v).catalogue := by
        rw [Building.add, hcheck]
        refine hstep ps _ raw _ _ (Or.inl ?_) hb (b.enters kinds raw.toBatch)
        rw [RawList.accepted_of_valid hcheck]
        exact List.mem_singleton_self raw
      have hall := ih (b.add kinds v) hnext hlater
      rwa [List.append_assoc] at hall

theorem builtWith_induction (hstart : P [] empty)
    (hstep : ∀ ps c raw into c', raw ∈ accepted raws → P ps c →
      Enters kinds c raw.toBatch into c' → P (ps ++ [⟨raw, into⟩]) c') :
    P (start.placements kinds raws) (builtWith kinds raws) :=
  foldl_add_induction start hstart hstep

theorem sound_builtWith (kinds : ListKinds) (raws : List Value) :
    Sound kinds (start.placements kinds raws) (builtWith kinds raws) := by
  refine builtWith_induction (P := Sound kinds) (Sound.empty kinds) ?_
  intro ps c raw into c' _ hs he
  exact hs.enters he

/-- A table that has every kind under its own name keeps a configuration coherent. -/
theorem coherent_of_names
    (hnames : ∀ raw ∈ accepted raws, ∀ kind, kinds.named? raw.name = some kind →
      kind.name = raw.name) : Coherent kinds raws := by
  have ho : Orderly kinds (start.placements kinds raws) (builtWith kinds raws) := by
    refine builtWith_induction (P := Orderly kinds) (Orderly.empty kinds) ?_
    intro ps c raw into c' hraw ho he
    exact ho.enters he (hnames raw hraw)
  refine ⟨fun p hp q hq hsame => ?_, (sound_builtWith kinds raws).once, ho.found⟩
  rw [ho.placed p hp, ho.placed q hq, hsame]

end Runs

/-! ## § Two lists of one name -/

/-- A configured list with a name and nothing else. -/
def bareList (name : Text) : Value := Value.record [("name", .text name)]

theorem rawList_bareList {name : Text} (hname : name ≠ []) :
    Check.rawList (bareList name) = .valid ⟨name, ActionSet.empty, []⟩ := by
  have hfield : (bareList name).field "name" = .text name := rfl
  have hdefaults : (bareList name).field "defaults" = .absent := rfl
  have hfilters : (bareList name).field "filters" = .absent := rfl
  refine Check.object_eq_valid.mpr ⟨⟨_, rfl⟩, ?_⟩
  simp only [Checked.seq_eq_valid, Checked.map_eq_valid, Check.field_eq_valid, hfield, hdefaults,
    hfilters]
  exact ⟨_, [], ⟨_, ActionSet.empty, ⟨name, if_neg hname, rfl⟩, rfl, rfl⟩, rfl, rfl⟩

/-- A valid list has a name. -/
theorem name_ne_nil_of_mem_accepted {raws : List Value} (hraw : raw ∈ accepted raws) :
    raw.name ≠ [] := by
  obtain ⟨v, -, hv⟩ := List.mem_filterMap.mp hraw
  cases hcheck : Check.rawList v with
  | invalid issues =>
    rw [hcheck] at hv
    cases hv
  | valid list =>
    rw [hcheck] at hv
    cases hv
    obtain ⟨-, hfields⟩ := Check.object_eq_valid.mp hcheck
    simp only [Checked.seq_eq_valid, Checked.map_eq_valid, Check.field_eq_valid] at hfields
    obtain ⟨_, _, ⟨_, _, ⟨name, hname, rfl⟩, -, rfl⟩, -, rfl⟩ := hfields
    exact Check.ne_nil_of_nonEmptyText hname

theorem accepted_bareList {name : Text} (hname : name ≠ []) :
    accepted [bareList name, bareList name] =
      [⟨name, ActionSet.empty, []⟩, ⟨name, ActionSet.empty, []⟩] := by
  simp [accepted, rawList_bareList hname, Checked.result?]

/-- A list of a kind that goes by another name is not found again: the next list of the same name
goes into a second instance. -/
theorem placements_bareList {kind : FilterList} {name : Text} (hname : name ≠ [])
    (hkind : kinds.named? name = some kind) (hne : kind.name ≠ name) :
    start.placements kinds [bareList name, bareList name] =
      [⟨⟨name, ActionSet.empty, []⟩, some ⟨0⟩⟩, ⟨⟨name, ActionSet.empty, []⟩, some ⟨1⟩⟩] := by
  have hfirst : start.catalogue.target? kinds name = some ⟨0⟩ := by
    simp [target?, start, empty, Registry.empty, Registry.get?, ListPool.empty, hkind]
  have hsecond : (start.addBatch kinds ⟨name, []⟩).catalogue.target? kinds name = some ⟨1⟩ := by
    have he := start.enters kinds ⟨name, []⟩
    rw [hfirst] at he
    generalize (start.addBatch kinds ⟨name, []⟩).catalogue = c at he ⊢
    cases he with
    | known hget => cases hget
    | new _ hfound =>
      obtain rfl := Option.some.inj (hkind.symm.trans hfound)
      simp only [target?, get?_subscribeAll, Registry.get?_register, if_neg (Ne.symm hne), hkind]
      rfl
  have hadd : start.add kinds (bareList name) = start.addBatch kinds ⟨name, []⟩ := by
    rw [Building.add, rawList_bareList hname]
    rfl
  rw [Building.placements, rawList_bareList hname]
  simp only [hfirst, hadd]
  rw [Building.placements, rawList_bareList hname]
  simp only [hsecond]
  rfl

/-! ## § Coherence -/

/-- **When a table of kinds keeps the catalogues coherent.**  Take any names that may be asked for:
all configurations that ask for no other ones give coherent catalogues just when every such name
has a kind whose lists have this name, or no kind.  With any table of kinds no instance is
subscribed twice, and each one holds the filters of its kind and, in order, those of the lists that
went into it. -/
theorem coherent_iff (kinds : ListKinds) (asked : Text → Prop) :
    ((∀ raws, (∀ raw ∈ accepted raws, asked raw.name) → Coherent kinds raws) ↔
      ∀ name kind, asked name → name ≠ [] → kinds.named? name = some kind → kind.name = name) ∧
    ∀ raws, (∀ e, ((builtWith kinds raws).registry.subscribers e).Nodup) ∧
      ∀ h list, (builtWith kinds raws).pool.get? h = some list →
        ∃ name kind, kinds.named? name = some kind ∧
          list = kind.add (filtersInto (start.placements kinds raws) h) := by
  refine ⟨⟨fun hall name kind hasked hname hkind => ?_, fun hnames raws hraws => ?_⟩,
    fun raws => ⟨(sound_builtWith kinds raws).once, (sound_builtWith kinds raws).holds⟩⟩
  · by_contra hne
    have hplaced := placements_bareList hname hkind hne
    have hcoherent := hall [bareList name, bareList name] fun raw hraw => by
      rw [accepted_bareList hname] at hraw
      rcases List.mem_pair.mp hraw with rfl | rfl
      · exact hasked
      · exact hasked
    have hsame := hcoherent.together
    rw [hplaced] at hsame
    cases hsame _ List.mem_cons_self _ (List.mem_cons_of_mem _ List.mem_cons_self) rfl
  · refine coherent_of_names fun raw hraw kind hkind => ?_
    exact hnames raw.name kind (hraws raw hraw) (name_ne_nil_of_mem_accepted hraw) hkind

/-- Not every table keeps its catalogues coherent: where the token list is the kind under another
name, two lists of that name go into two instances.  Both see messages, and only the second is found
under its name. -/
theorem coherent_fails :
    let spam (id : Nat) (content : String) := Value.record [("name", .ofString "spam"),
      ("filters", .list [Value.record [("id", .ofNat id), ("content", .ofString content)]])]
    let kinds : ListKinds := [(Text.ofString "spam", .token)]
    let raws := [spam 1 "a", spam 2 "b"]
    let c := builtWith kinds raws
    c.registry.subscribers .message = [⟨0⟩, ⟨1⟩] ∧
      c.nameOf? ⟨0⟩ = some (Text.ofString "token") ∧
      c.registry.get? (Text.ofString "token") = some ⟨1⟩ ∧ ¬ Coherent kinds raws := by
  intro spam kinds raws c
  have hsees : c.registry.subscribers .message = [⟨0⟩, ⟨1⟩] := by decide
  have hname : c.nameOf? ⟨0⟩ = some (Text.ofString "token") := by decide
  have hget : c.registry.get? (Text.ofString "token") = some ⟨1⟩ := by decide
  refine ⟨hsees, hname, hget, fun h => ?_⟩
  have hfound : (c.nameOf? ⟨0⟩).bind c.registry.get? = some ⟨0⟩ :=
    h.found .message ⟨0⟩ (hsees ▸ List.mem_cons_self)
  rw [hname, Option.bind_some, hget] at hfound
  cases hfound

end Catalogue

end ChatModeration
