/-
ChatModeration.Pattern.Fold — which units are the same letter.

Without regard to case, two units match when their capital forms agree.  A unit
whose capital form is not a single unit stands for itself, and so does a unit
beyond ASCII whose capital form is ASCII.
-/
import ChatModeration.Text.Case

namespace ChatModeration.CodeUnit

open Text.CaseTable

/-- The representative of all units that match `u` without regard to case. -/
def fold (u : CodeUnit) : CodeUnit :=
  match Text.upperOf u.toNat with
  | [c] => if c < 0x10000 ∧ ¬(0x80 ≤ u.toNat ∧ c < 0x80) then UInt16.ofNat c else u
  | _ => u

/-- The code points that a run moves to `c`. -/
def preimage? (c : Nat) (run : CaseRun) : Option CodeUnit :=
  let source := ((c : Int) - run.shift).toNat
  if run.image? source = some c ∧ source < 0x10000 then some (UInt16.ofNat source) else none

/-- All units that match a representative without regard to case. -/
def foldClass (u : CodeUnit) : List CodeUnit :=
  if u < 0x80 then
    if 0x41 ≤ u && u ≤ 0x5A then [u, u + 0x20] else [u]
  else u :: (upperRuns.filterMap (preimage? u.toNat)).filter (fold · == u)

end ChatModeration.CodeUnit
