/-
ChatModeration.Proofs.GroupedFilters — where each stored filter ends up.

`StoredList.group` places the filters one after the other, each in the last list
that has the id it refers to.  Where the ids are distinct there is at most one
such list, so that to place a filter is to show it to every list (`place_eq`):
a list takes the filters that refer to it and no others.  `group_eq` says
without the loop what comes out.

The main statement is `group_partitions`: no filter that has a list is lost or
doubled, and those without one are dropped.
-/
import ChatModeration.Proofs.LoadedTables
import Mathlib.Data.List.Basic

namespace ChatModeration

/-! ## § Numbers as keys -/

namespace Number

/-- What a number is as a key: the two zeros are one. -/
def key : Number → Number
  | negativeZero => finite 0
  | x => x

theorem sameKey_finite (p q : Rat) : (finite p).sameKey (finite q) = true ↔ p = q := by
  show (!decide (p < q) && !decide (q < p)) = true ↔ p = q
  rw [Bool.and_eq_true, Bool.not_eq_true', Bool.not_eq_true', decide_eq_false_iff_not,
    decide_eq_false_iff_not, Rat.not_lt, Rat.not_lt]
  constructor
  · exact fun h => Rat.le_antisymm h.2 h.1
  · rintro rfl
    exact ⟨Rat.le_refl, Rat.le_refl⟩

theorem sameKey_iff (x y : Number) : x.sameKey y = true ↔ x.key = y.key := by
  cases x with
  | nan => cases y <;> simp [sameKey, key]
  | infinity m =>
    cases y with
    | infinity n => cases m <;> cases n <;> simp [sameKey, key, lt]
    | _ => cases m <;> simp [sameKey, key, lt]
  | negativeZero =>
    cases y with
    | infinity n => cases n <;> simp [sameKey, key, lt]
    | finite q => exact (sameKey_finite 0 q).trans (by simp [key])
    | _ => simp [sameKey, key, lt]
  | finite p =>
    cases y with
    | infinity n => cases n <;> simp [sameKey, key, lt]
    | negativeZero => exact (sameKey_finite p 0).trans (by simp [key])
    | finite q => exact (sameKey_finite p q).trans (by simp [key])
    | nan => simp [sameKey, key]

/-- Two numbers that are the same key as a third one are the same key. -/
theorem sameKey_of_sameKey {x y z : Number} (hx : x.sameKey z = true) (hy : y.sameKey z = true) :
    x.sameKey y = true := by
  rw [sameKey_iff] at hx hy ⊢
  rw [hx, hy]

end Number

theorem FilterRow.belongs_cons (filter : FilterRow) (row : ListRow) (rest : List ListRow) :
    filter.belongs (row :: rest) = (row.id.sameKey filter.listId || filter.belongs rest) := rfl

namespace StoredList

/-- No two of the lists have the same id. -/
def DistinctIds (lists : List ListRow) : Prop :=
  lists.Pairwise fun r s => r.id.sameKey s.id = false

instance (lists : List ListRow) : Decidable (DistinctIds lists) :=
  inferInstanceAs (Decidable (List.Pairwise _ _))

variable {lists : List ListRow} {stored : List StoredList} {filter : FilterRow}

/-- A filter that refers to one list refers to no list with another id. -/
theorem not_sameKey_of_ne {row other : ListRow} (hne : row.id.sameKey other.id = false)
    (h : other.id.sameKey filter.listId = true) : row.id.sameKey filter.listId = false := by
  refine Bool.eq_false_iff.mpr fun hrow => ?_
  rw [Number.sameKey_of_sameKey hrow h] at hne
  cases hne

/-! ## § One filter -/

/-- The list with the filter, if the filter refers to it. -/
def take (filter : FilterRow) (list : StoredList) : StoredList :=
  if list.row.id.sameKey filter.listId then { list with filters := list.filters ++ [filter] }
  else list

/-- A filter that belongs to none of the lists is taken by none. -/
theorem map_take_of_not_belongs (h : filter.belongs (stored.map (·.row)) = false) :
    stored.map (take filter) = stored := by
  refine (List.map_congr_left fun list hlist => ?_).trans (List.map_id stored)
  have hother : list.row.id.sameKey filter.listId = false := by
    rw [FilterRow.belongs, List.any_eq_false] at h
    simpa using h list.row (List.mem_map_of_mem hlist)
  rw [take, hother]
  rfl

/-- Where the ids are distinct, the last list of an id is the only one. -/
theorem place?_eq (hdistinct : DistinctIds (stored.map (·.row))) :
    place? filter stored =
      if filter.belongs (stored.map (·.row)) then some (stored.map (take filter)) else none := by
  induction stored with
  | nil => rfl
  | cons list rest ih =>
    obtain ⟨hfirst, hrest⟩ := List.pairwise_cons.mp hdistinct
    rw [place?, ih hrest, List.map_cons, List.map_cons, FilterRow.belongs_cons, take]
    cases hbelongs : filter.belongs (rest.map (·.row)) with
    | true =>
      obtain ⟨other, hother, hkey⟩ := List.any_eq_true.mp hbelongs
      rw [not_sameKey_of_ne (hfirst other hother) hkey]
      rfl
    | false =>
      rw [map_take_of_not_belongs hbelongs]
      cases list.row.id.sameKey filter.listId <;> rfl

/-- To place a filter is to show it to every list. -/
theorem place_eq (hdistinct : DistinctIds (stored.map (·.row))) :
    place stored filter = stored.map (take filter) := by
  rw [place, place?_eq hdistinct]
  cases hbelongs : filter.belongs (stored.map (·.row)) with
  | true => rfl
  | false => exact (map_take_of_not_belongs hbelongs).symm

/-! ## § All filters -/

/-- The filters of a list, in the order of their rows. -/
def filtersOf (row : ListRow) (filters : List FilterRow) : List FilterRow :=
  filters.filter fun f => row.id.sameKey f.listId

theorem foldl_place (hdistinct : DistinctIds (stored.map (·.row))) (filters : List FilterRow) :
    filters.foldl place stored =
      stored.map fun list =>
        { list with filters := list.filters ++ filtersOf list.row filters } := by
  induction filters generalizing stored with
  | nil => simp [filtersOf]
  | cons filter rest ih =>
    have hrows : (place stored filter).map (·.row) = stored.map (·.row) := place_rows stored filter
    rw [List.foldl_cons, ih (hrows ▸ hdistinct), place_eq hdistinct, List.map_map]
    refine List.map_congr_left fun list _ => ?_
    simp only [Function.comp, take, filtersOf, List.filter_cons]
    split <;> simp

/-- Where the ids are distinct, every list has the filters that refer to it. -/
theorem group_eq (hdistinct : DistinctIds lists) (filters : List FilterRow) :
    group lists filters = lists.map fun row => ⟨row, filtersOf row filters⟩ := by
  have hrows : (lists.map fun row => (⟨row, []⟩ : StoredList)).map (·.row) = lists := by
    rw [List.map_map]
    exact List.map_id _
  rw [group, foldl_place (hrows.symm ▸ hdistinct), List.map_map]
  rfl

/-! ## § Every filter once -/

theorem mem_filtersOf {row : ListRow} {filters : List FilterRow} :
    filter ∈ filtersOf row filters ↔ filter ∈ filters ∧ row.id.sameKey filter.listId = true :=
  List.mem_filter

theorem belongs_of_mem_filtersOf {row : ListRow} {filters : List FilterRow} (hrow : row ∈ lists)
    (h : filter ∈ filtersOf row filters) : filter.belongs lists = true :=
  List.any_eq_true.mpr ⟨row, hrow, (mem_filtersOf.mp h).2⟩

/-- The filters of all lists are the filters that belong to one. -/
theorem flatMap_filtersOf_perm (hdistinct : DistinctIds lists) (filters : List FilterRow) :
    (lists.flatMap fun row => filtersOf row filters).Perm (filters.filter (·.belongs lists)) := by
  induction lists with
  | nil => simp [FilterRow.belongs]
  | cons row rest ih =>
    obtain ⟨hfirst, hrest⟩ := List.pairwise_cons.mp hdistinct
    -- those of the first list and those of the others make up all
    have hown : (filters.filter (·.belongs (row :: rest))).filter (row.id.sameKey ·.listId) =
        filtersOf row filters := by
      rw [List.filter_filter, filtersOf]
      refine List.filter_congr fun f _ => ?_
      rw [FilterRow.belongs_cons]
      cases row.id.sameKey f.listId <;> rfl
    have hothers : (filters.filter (·.belongs (row :: rest))).filter (!row.id.sameKey ·.listId) =
        filters.filter (·.belongs rest) := by
      rw [List.filter_filter]
      refine List.filter_congr fun f _ => ?_
      cases hkey : row.id.sameKey f.listId with
      | false => simp [FilterRow.belongs_cons, hkey]
      | true =>
        have hnone : f.belongs rest = false := by
          refine List.any_eq_false.mpr fun other hother h => ?_
          rw [not_sameKey_of_ne (hfirst other hother) h] at hkey
          cases hkey
        simp [hnone]
    rw [List.flatMap_cons]
    refine ((ih hrest).append_left _).trans ?_
    rw [← hown, ← hothers]
    exact List.filter_append_perm _ _

/-- A filter is in the list that it refers to, and in no other. -/
theorem existsUnique_of_belongs (hdistinct : DistinctIds lists) {filters : List FilterRow}
    (hmem : filter ∈ filters) (hbelongs : filter.belongs lists = true) :
    ∃! i : Nat, ∃ row, lists[i]? = some row ∧ filter ∈ filtersOf row filters := by
  obtain ⟨row, hrow, hkey⟩ := List.any_eq_true.mp hbelongs
  obtain ⟨i, hi⟩ := List.mem_iff_getElem?.mp hrow
  refine ⟨i, ⟨row, hi, mem_filtersOf.mpr ⟨hmem, hkey⟩⟩, ?_⟩
  rintro j ⟨other, hj, hother⟩
  have hotherKey := (mem_filtersOf.mp hother).2
  obtain ⟨hjlt, rfl⟩ := List.getElem?_eq_some_iff.mp hj
  obtain ⟨hilt, rfl⟩ := List.getElem?_eq_some_iff.mp hi
  rw [DistinctIds, List.pairwise_iff_getElem] at hdistinct
  rcases Nat.lt_trichotomy j i with hlt | heq | hlt
  · rw [not_sameKey_of_ne (hdistinct j i hjlt hilt hlt) hkey] at hotherKey
    cases hotherKey
  · exact heq
  · rw [not_sameKey_of_ne (hdistinct i j hilt hjlt hlt) hotherKey] at hkey
    cases hkey

/-- **Grouping partitions the filters.**  There is one list for each row, in order, with the name
and the defaults of its row, and its filters are those that refer to the id of that row, in order
and unchanged.  So the lists hold together the filters whose list exists, each as often as it is
stored, every one of these is in a single list, and no other filter is in any. -/
theorem group_partitions (hdistinct : DistinctIds lists) (filters : List FilterRow) :
    group lists filters =
        lists.map (fun row => ⟨row, filters.filter fun f => row.id.sameKey f.listId⟩) ∧
      (group lists filters).map toValue =
        lists.map (fun row => Value.record [("name", .text row.name), ("defaults", row.defaults),
          ("filters", .list ((filters.filter fun f => row.id.sameKey f.listId).map fun f =>
            Value.record [("id", .number f.id), ("content", .text f.content),
              ("description", Value.ofText? f.description), ("actions", f.actions)]))]) ∧
      ((group lists filters).flatMap (·.filters)).Perm (filters.filter (·.belongs lists)) ∧
      (∀ f ∈ filters, f.belongs lists = true →
        ∃! i : Nat, ∃ list, (group lists filters)[i]? = some list ∧ f ∈ list.filters) ∧
      ∀ f, f.belongs lists = false → ∀ list ∈ group lists filters, f ∉ list.filters := by
  have hgroup := group_eq hdistinct filters
  refine ⟨hgroup, ?_, ?_, fun f hf hbelongs => ?_, fun f hnot list hlist hmem => ?_⟩
  · rw [hgroup, List.map_map]
    rfl
  · rw [hgroup, List.flatMap_map]
    exact flatMap_filtersOf_perm hdistinct filters
  · have hone := existsUnique_of_belongs hdistinct hf hbelongs
    simpa [hgroup, List.getElem?_map] using hone
  · rw [hgroup] at hlist
    obtain ⟨row, hrow, rfl⟩ := List.mem_map.mp hlist
    have hyes := belongs_of_mem_filtersOf hrow hmem
    rw [hnot] at hyes
    cases hyes

/-- Two lists of one name; the filters come in turns, and one has no list. -/
theorem group_partitions_in_turns :
    let row (id : Number) : ListRow := ⟨id, Text.ofString "token", .null⟩
    let lists := [row 1, row 2]
    let filter (id listId : Number) : FilterRow := ⟨id, listId, Text.ofString "spam", none, .null⟩
    let filters := [filter 10 2, filter 11 1, filter 12 7, filter 13 2]
    (DistinctIds lists ∧ filter 13 2 ∈ filters ∧ (filter 13 2).belongs lists = true ∧
        (filter 12 7).belongs lists = false) ∧
      (group lists filters).map (fun list => list.filters.map (·.id)) = [[11], [10, 13]] ∧
      (∃! i : Nat, ∃ list, (group lists filters)[i]? = some list ∧ filter 13 2 ∈ list.filters) ∧
      ∀ list ∈ group lists filters, filter 12 7 ∉ list.filters := by
  intro row lists filter filters
  have hdistinct : DistinctIds lists := by decide +kernel
  have hmem : filter 13 2 ∈ filters := by simp [filters]
  have hbelongs : (filter 13 2).belongs lists = true := by decide +kernel
  have horphan : (filter 12 7).belongs lists = false := by decide +kernel
  obtain ⟨hgroup, -, -, hone, hnone⟩ := group_partitions hdistinct filters
  refine ⟨⟨hdistinct, hmem, hbelongs, horphan⟩, ?_, hone _ hmem hbelongs, hnone _ horphan⟩
  rw [hgroup]
  decide +kernel

end StoredList
end ChatModeration
