/-
ChatModeration.FilterList.Basic — filters and what they report.

A filter is a rule: something to look for, and the reaction to it.  A filter
that matched is reported together with the records of what it found.
-/
import ChatModeration.Context
import ChatModeration.Fault
import ChatModeration.Sanction.Combine

namespace ChatModeration

structure Filter where
  id : Number
  content : Text
  description : Option Text
  /-- The reaction, with the defaults of its list folded in. -/
  actions : ActionSet
deriving DecidableEq

/-- A filter that matched, with what it found. -/
structure TriggeredFilter extends Filter where
  found : List Value

/-- One validated batch of filters for the list of that name. -/
structure FilterBatch where
  name : Text
  filters : List Filter

end ChatModeration
