/-
ChatModeration.Instant — moments in time.

A moment is a whole number of milliseconds since the epoch, at most 10⁸ days
away from it.  A number of milliseconds that is no such moment, because it is
`nan` or too far away, gives the invalid instant.
-/
import ChatModeration.Number.Basic

namespace ChatModeration

inductive Instant where
  | invalid
  | at (milliseconds : Int)
deriving DecidableEq

namespace Instant

/-- The greatest distance from the epoch, in milliseconds: 10⁸ days. -/
def farthest : Int := 8640000000000000

/-- The moment that many milliseconds after the epoch; a fraction is cut off. -/
def ofNumber (n : Number) : Instant :=
  match n.toRat? with
  | none => invalid
  | some q => if q ≤ farthest ∧ -farthest ≤ q then .at (q.num.tdiv q.den) else invalid

/-- Milliseconds since the epoch. -/
def toNumber : Instant → Number
  | invalid => Number.nan
  | .at ms => Number.ofInt ms

end Instant

end ChatModeration
