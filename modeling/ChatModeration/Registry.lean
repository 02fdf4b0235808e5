/-
ChatModeration.Registry — which lists there are, and which events they see.

List instances live in a `ListPool` and are referred to by handles, so that two
lists with the same name and content are still two lists.  A `Registry` holds a
table of names and, for every event, the subscribers in the order in which they
subscribed.  A `Catalogue` is a registry together with its lists.
-/
import ChatModeration.FilterList.Kinds

namespace ChatModeration

/-- A reference to one list instance. -/
structure ListHandle where
  index : Nat
deriving DecidableEq

/-- All list instances. -/
structure ListPool where
  lists : List FilterList

namespace ListPool

def empty : ListPool := ⟨[]⟩

def get? (pool : ListPool) (h : ListHandle) : Option FilterList := pool.lists[h.index]?

/-- A new instance. -/
def create (pool : ListPool) (list : FilterList) : ListPool × ListHandle :=
  (⟨pool.lists ++ [list]⟩, ⟨pool.lists.length⟩)

/-- The pool with filters added to one instance. -/
def addFilters (pool : ListPool) (h : ListHandle) (filters : List Filter) : ListPool :=
  ⟨pool.lists.modify h.index (·.add filters)⟩

/-- The instances behind handles. -/
def resolve (pool : ListPool) (handles : List ListHandle) : List FilterList :=
  handles.filterMap pool.get?

end ListPool

structure Registry where
  /-- The lists by name, in the order in which the names were first registered. -/
  names : List (Text × ListHandle)
  subscribers : FilterEvent → List ListHandle

namespace Registry

def empty : Registry := ⟨[], fun _ => []⟩

/-- A name put among its peers: a name that is already there keeps its place. -/
def putName (names : List (Text × ListHandle)) (name : Text) (h : ListHandle) :
    List (Text × ListHandle) :=
  match names with
  | [] => [(name, h)]
  | entry :: rest =>
    if entry.1 = name then (name, h) :: rest else entry :: putName rest name h

/-- The registry in which `name` stands for `h`. -/
def register (r : Registry) (name : Text) (h : ListHandle) : Registry :=
  { r with names := putName r.names name h }

/-- The registry in which `h` sees `event`; it is not subscribed a second time. -/
def subscribe (r : Registry) (h : ListHandle) (event : FilterEvent) : Registry :=
  { r with subscribers := fun e =>
      if e = event ∧ h ∉ r.subscribers e then r.subscribers e ++ [h] else r.subscribers e }

def subscribeAll (r : Registry) (h : ListHandle) (events : List FilterEvent) : Registry :=
  events.foldl (·.subscribe h) r

/-- The list that a name stands for. -/
def get? (r : Registry) (name : Text) : Option ListHandle := r.names.lookup name

/-- All named lists. -/
def all (r : Registry) : List ListHandle := r.names.map (·.2)

def size (r : Registry) : Nat := r.names.length

end Registry

/-- A registry with its lists. -/
structure Catalogue where
  pool : ListPool
  registry : Registry

namespace Catalogue

def empty : Catalogue := ⟨ListPool.empty, Registry.empty⟩

/-- The lists that see an event, in the order in which they subscribed. -/
def subscribers (c : Catalogue) (event : FilterEvent) : List FilterList :=
  c.pool.resolve (c.registry.subscribers event)

/-- All named lists, in the order in which their names were first registered. -/
def all (c : Catalogue) : List FilterList := c.pool.resolve c.registry.all

def size (c : Catalogue) : Nat := c.registry.size

/-- A new list instance, registered under its own name and subscribed to its own events. -/
def install (c : Catalogue) (list : FilterList) : Catalogue × ListHandle :=
  let (pool, h) := c.pool.create list
  (⟨pool, (c.registry.register list.name h).subscribeAll h list.events⟩, h)

end Catalogue

end ChatModeration
