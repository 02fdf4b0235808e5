/-
ChatModeration.Unicode.RangeSet — sets of code points as sorted ranges.

A set is written as hexadecimal codes and ranges `first-last`, in ascending
order with blanks between them (`RangeSet.ofString`).
-/
import ChatModeration.Unicode.RangeMap

namespace ChatModeration.Unicode

/-- Sorted ranges without overlap. -/
structure RangeSet where
  ranges : RangeMap Unit

namespace RangeSet

def ofString (s : String) : RangeSet := ⟨RangeMap.ofString (fun _ => ()) s⟩

def contains (s : RangeSet) (c : Nat) : Bool := (s.ranges.find? c).isSome

end RangeSet

end ChatModeration.Unicode
