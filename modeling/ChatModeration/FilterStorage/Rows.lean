/-
ChatModeration.FilterStorage.Rows — filter lists as they are stored.

The database holds the lists in one table and the filters in another; a filter
names its list by id.  `StoredList.group` puts the filters back under their
lists.  What the tables hold is not validated: a stored list becomes one of the
raw values from which the filter lists are built.
-/
import ChatModeration.Value.Basic

namespace ChatModeration

structure ListRow where
  id : Number
  name : Text
  defaults : Value

structure FilterRow where
  id : Number
  /-- The list that the filter belongs to. -/
  listId : Number
  content : Text
  description : Option Text
  actions : Value

/-- A list with its filters. -/
structure StoredList where
  row : ListRow
  filters : List FilterRow

namespace StoredList

/-- The lists with a filter added to the last one that has the id it refers to, if any has. -/
def place? (filter : FilterRow) : List StoredList → Option (List StoredList)
  | [] => none
  | list :: rest =>
    match place? filter rest with
    | some rest => some (list :: rest)
    | none =>
      if list.row.id.sameKey filter.listId then
        some ({ list with filters := list.filters ++ [filter] } :: rest)
      else none

/-- The lists with a filter added; one that refers to no list is dropped. -/
def place (lists : List StoredList) (filter : FilterRow) : List StoredList :=
  (place? filter lists).getD lists

/-- The lists with their filters; both keep the order of their rows. -/
def group (lists : List ListRow) (filters : List FilterRow) : List StoredList :=
  filters.foldl place (lists.map fun row => ⟨row, []⟩)

end StoredList

/-- A stored filter as configured data. -/
def FilterRow.toValue (f : FilterRow) : Value :=
  Value.record [("id", Value.number f.id), ("content", Value.text f.content),
    ("description", Value.ofText? f.description), ("actions", f.actions)]

/-- A stored list as configured data. -/
def StoredList.toValue (list : StoredList) : Value :=
  Value.record [("name", Value.text list.row.name), ("defaults", list.row.defaults),
    ("filters", Value.list (list.filters.map FilterRow.toValue))]

end ChatModeration
