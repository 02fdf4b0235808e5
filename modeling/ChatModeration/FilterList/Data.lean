/-
ChatModeration.FilterList.Data — filter lists and their reports as data.
-/
import ChatModeration.Context.Data
import ChatModeration.FilterList.Kinds
import ChatModeration.Sanction.Data

namespace ChatModeration

/-- The fields that say which filter it is. -/
def Filter.identityFields (f : Filter) : List (String × Value) :=
  [("id", .number f.id), ("content", .text f.content), ("description", Value.ofText? f.description)]

def Filter.toValue (f : Filter) : Value :=
  Value.record (f.identityFields ++ [("actions", f.actions.toValue)])

/-- The field that holds what a filter found. -/
def TriggeredFilter.foundField (f : TriggeredFilter) : String × Value := ("matches", .list f.found)

def TriggeredFilter.toValue (f : TriggeredFilter) : Value :=
  Value.record (f.identityFields ++ [("actions", f.actions.toValue), f.foundField])

def FilterList.toValue (l : FilterList) : Value :=
  Value.record [("name", .text l.name), ("events", .list (l.events.map FilterEvent.toValue)),
    ("filters", .list (l.filters.map Filter.toValue))]

end ChatModeration
