/-
ChatModeration.Proofs.LoadedTables — what a load shows of tables that change.

A load reads the two tables one after the other, and what changes them may be
committed before, between and after.  So the lists are those of one moment and
the filters those of another, not earlier one (`loaded_tables`).

Filters without a list are dropped, so that lists which are new at the second
moment do no harm: the load shows the first moment as long as the filters of its
lists are still the same.  If the lists are still the same, it shows the second.
Otherwise it may show what has never been there.
-/
import ChatModeration.Proofs.ReloadFreshness

namespace ChatModeration

open Subscriber (Tables)

/-- The lists that two tables of one moment hold. -/
def Subscriber.Tables.stored (t : Tables) : List StoredList := StoredList.group t.lists t.filters

/-! ## § Filters without a list -/

/-- Whether a filter belongs to one of some lists. -/
def FilterRow.belongs (lists : List ListRow) (filter : FilterRow) : Bool :=
  lists.any (·.id.sameKey filter.listId)

namespace StoredList

theorem place?_rows {filter : FilterRow} {stored stored' : List StoredList}
    (h : place? filter stored = some stored') : stored'.map (·.row) = stored.map (·.row) := by
  induction stored generalizing stored' with
  | nil => cases h
  | cons list rest ih =>
    rw [place?] at h
    split at h
    · rename_i rest' hrest
      cases h
      simp [ih hrest]
    · split at h
      · cases h
        rfl
      · cases h

/-- Filters do not change which lists there are. -/
theorem place_rows (stored : List StoredList) (filter : FilterRow) :
    (place stored filter).map (·.row) = stored.map (·.row) := by
  rw [place]
  cases h : place? filter stored with
  | none => rfl
  | some stored' => exact place?_rows h

theorem place?_of_not_belongs {filter : FilterRow} {stored : List StoredList}
    (h : filter.belongs (stored.map (·.row)) = false) : place? filter stored = none := by
  induction stored with
  | nil => rfl
  | cons list rest ih =>
    simp only [FilterRow.belongs, List.map_cons, List.any_cons, Bool.or_eq_false_iff] at h
    have hrest : place? filter rest = none := ih h.2
    simp [place?, hrest, h.1]

/-- A filter that belongs to none of the lists is dropped. -/
theorem foldl_place_filter (filters : List FilterRow) (stored : List StoredList) :
    filters.foldl place stored =
      (filters.filter (·.belongs (stored.map (·.row)))).foldl place stored := by
  induction filters generalizing stored with
  | nil => rfl
  | cons filter rest ih =>
    rw [List.foldl_cons, ih, place_rows]
    cases h : filter.belongs (stored.map (·.row)) with
    | true => rw [List.filter_cons_of_pos h, List.foldl_cons]
    | false =>
      have hplace : place stored filter = stored := by
        rw [place, place?_of_not_belongs h]
        rfl
      rw [List.filter_cons_of_neg (by simp [h]), hplace]

/-- Only the filters that belong to the lists count. -/
theorem group_congr {lists : List ListRow} {filters filters' : List FilterRow}
    (h : filters.filter (·.belongs lists) = filters'.filter (·.belongs lists)) :
    group lists filters = group lists filters' := by
  have hrows : (lists.map fun row => (⟨row, []⟩ : StoredList)).map (·.row) = lists := by
    rw [List.map_map]
    exact List.map_id _
  rw [group, group, foldl_place_filter, foldl_place_filter filters', hrows, h]

end StoredList

namespace Reload

/-! ## § A load while the tables change -/

/-- What remains of a load, and how many times the tables have changed. -/
structure Load where
  moment : Nat
  rest : Program Reloading (Except Fault (List StoredList))

/-- What may happen next. -/
inductive Load.Event where
  /-- A change of both tables is committed. -/
  | commit
  /-- The load reads the table that it waits for. -/
  | read
deriving DecidableEq

/-- A load with the rows that it reads in the tables of one moment. -/
def shown (t : Tables) :
    Program Reloading (Except Fault (List StoredList)) →
      Program Reloading (Except Fault (List StoredList))
  | .ask .selectLists next => next (.ok t.lists)
  | .ask .selectFilters next => next (.ok t.filters)
  | rest => rest

namespace Load

/-- A load that begins. -/
def start : Load := ⟨0, readTables.run⟩

/-- One event, where `history` gives the tables after each number of changes. -/
def step (history : Nat → Tables) (w : Load) : Event → Load
  | .commit => { w with moment := w.moment + 1 }
  | .read => { w with rest := shown (history w.moment) w.rest }

def run (history : Nat → Tables) (events : List Event) (w : Load) : Load :=
  events.foldl (step history) w

/-- What a load returns, if it has ended. -/
def result? (w : Load) : Option (Except Fault (List StoredList)) :=
  match w.rest with
  | .done result => some result
  | .ask .. => none

/-- The moments at which tables are read, when so many changes have been committed already. -/
def readMoments : Nat → List Event → List Nat
  | _, [] => []
  | n, .commit :: rest => readMoments (n + 1) rest
  | n, .read :: rest => n :: readMoments n rest

/-- A load that has the lists and waits for the filters. -/
def awaitFilters (rows : List ListRow) : Program Reloading (Except Fault (List StoredList)) :=
  .ask (I := Reloading) .selectFilters fun answer => .done (answer.map (StoredList.group rows))

variable {history : Nat → Tables} {n : Nat} {events : List Event}

theorem le_of_mem_readMoments {m : Nat} (h : m ∈ readMoments n events) :
    n ≤ m ∧ m ≤ n + events.count .commit := by
  induction events generalizing n with
  | nil => cases h
  | cons e rest ih =>
    cases e with
    | commit =>
      obtain ⟨hle, hge⟩ := ih h
      rw [List.count_cons_self]
      omega
    | read =>
      rw [List.count_cons_of_ne (by decide)]
      rcases List.mem_cons.mp h with rfl | hrest
      · omega
      · exact ih hrest

/-- Time goes on. -/
theorem readMoments_pairwise (n : Nat) (events : List Event) :
    (readMoments n events).Pairwise (· ≤ ·) := by
  induction events generalizing n with
  | nil => exact .nil
  | cons e rest ih =>
    cases e with
    | commit => exact ih (n + 1)
    | read => exact .cons (fun m hm => (le_of_mem_readMoments hm).1) (ih n)

/-! ## § From one read to the next -/

theorem shown_readTables (t : Tables) : shown t readTables.run = awaitFilters t.lists := by
  refine congrArg (Program.ask (I := Reloading) .selectFilters) (funext fun answer => ?_)
  cases answer with
  | error fault => rfl
  | ok filters => rfl

/-- A load that has ended stays as it is. -/
theorem run_done (result : Except Fault (List StoredList)) :
    (run history events ⟨n, .done result⟩).result? = some result := by
  induction events generalizing n with
  | nil => rfl
  | cons e rest ih =>
    cases e with
    | commit => exact ih
    | read => exact ih

theorem run_awaitFilters {rows : List ListRow} {f : Nat} {more : List Nat}
    (h : readMoments n events = f :: more) :
    (run history events ⟨n, awaitFilters rows⟩).result? =
      some (.ok (StoredList.group rows (history f).filters)) := by
  induction events generalizing n with
  | nil => cases h
  | cons e rest ih =>
    cases e with
    | commit => exact ih h
    | read =>
      obtain rfl : n = f := (List.cons.inj h).1
      exact run_done _

theorem run_start {l f : Nat} {more : List Nat} (h : readMoments n events = l :: f :: more) :
    (run history events ⟨n, readTables.run⟩).result? =
      some (.ok (StoredList.group (history l).lists (history f).filters)) := by
  induction events generalizing n with
  | nil => cases h
  | cons e rest ih =>
    cases e with
    | commit => exact ih h
    | read =>
      obtain ⟨rfl, hrest⟩ := List.cons.inj h
      have hstep : run history (.read :: rest) ⟨n, readTables.run⟩ =
          run history rest ⟨n, awaitFilters (history n).lists⟩ := by
        rw [run, List.foldl_cons, step, shown_readTables]
        rfl
      rw [hstep]
      exact run_awaitFilters hrest

/-! ## § Every load -/

/-- **What a load shows.**  A load that reads the lists after `l` changes and the filters after `f`
returns the lists of the one moment with the filters of the other.  That is what the tables held
after `l` changes if the filters of those lists are the same at both moments, and what they held
after `f` changes if the lists are. -/
theorem loaded_tables (history : Nat → Tables) {events : List Event} {l f : Nat} {more : List Nat}
    (hreads : readMoments 0 events = l :: f :: more) :
    (l ≤ f ∧ f ≤ events.count .commit) ∧
    (run history events start).result? =
      some (.ok (StoredList.group (history l).lists (history f).filters)) ∧
    ((history f).filters.filter (·.belongs (history l).lists) =
        (history l).filters.filter (·.belongs (history l).lists) →
      (run history events start).result? = some (.ok (history l).stored)) ∧
    ((history f).lists = (history l).lists →
      (run history events start).result? = some (.ok (history f).stored)) := by
  have hresult : (run history events start).result? =
      some (.ok (StoredList.group (history l).lists (history f).filters)) := run_start hreads
  have horder : l ≤ f := by
    have hpairwise := readMoments_pairwise 0 events
    rw [hreads] at hpairwise
    exact (List.pairwise_cons.mp hpairwise).1 f List.mem_cons_self
  have hwithin : f ≤ events.count .commit := by
    have hmem : f ∈ readMoments 0 events := by simp [hreads]
    have hle := (le_of_mem_readMoments hmem).2
    omega
  refine ⟨⟨horder, hwithin⟩, hresult, fun hfilters => ?_, fun hlists => ?_⟩
  · rw [hresult, Tables.stored, StoredList.group_congr hfilters]
  · rw [hresult, Tables.stored, hlists]

/-! ## § Lists that come and go -/

def tokenRow (id : Number) : ListRow := ⟨id, Text.ofString "token", .object []⟩

/-- A filter for `spam` in the list with an id. -/
def spamRow (id listId : Number) : FilterRow := ⟨id, listId, Text.ofString "spam", none, .null⟩

def oneList : Tables := ⟨[tokenRow 1], [spamRow 10 1]⟩

/-- While the load is under way, a second list comes with a filter.  It is not seen. -/
theorem loaded_tables_new_list :
    let twoLists : Tables := ⟨[tokenRow 1, tokenRow 2], [spamRow 10 1, spamRow 20 2]⟩
    let history (n : Nat) : Tables := if n = 0 then oneList else twoLists
    readMoments 0 [.read, .commit, .read] = [0, 1] ∧
      (run history [.read, .commit, .read] start).result? = some (.ok oneList.stored) := by
  intro twoLists history
  have hreads : readMoments 0 [.read, .commit, .read] = [0, 1] := rfl
  obtain ⟨-, -, hsame, -⟩ := loaded_tables history hreads
  refine ⟨hreads, hsame ?_⟩
  have hold : (spamRow 10 1).belongs [tokenRow 1] = true := by decide +kernel
  have hnew : (spamRow 20 2).belongs [tokenRow 1] = false := by decide +kernel
  simp [history, oneList, twoLists, hold, hnew]

/-- While the load is under way, another list with its filter takes the place of the only one.  The
load shows the old list without its filter, as it never was. -/
theorem not_always_whole :
    ¬ ∀ (history : Nat → Tables) (events : List Event) (lists : List StoredList),
      (run history events start).result? = some (.ok lists) →
        ∃ m ≤ events.count .commit, lists = (history m).stored := by
  intro h
  let otherList : Tables := ⟨[tokenRow 2], [spamRow 20 2]⟩
  let history (n : Nat) : Tables := if n = 0 then oneList else otherList
  obtain ⟨m, hm, hlists⟩ := h history [.read, .commit, .read] _ rfl
  have hfilters := congrArg (List.map fun list => list.filters.length) hlists
  obtain rfl | rfl : m = 0 ∨ m = 1 := Nat.le_one_iff_eq_zero_or_eq_one.mp hm
  · revert hfilters
    decide +kernel
  · revert hfilters
    decide +kernel

end Load
end Reload
end ChatModeration
