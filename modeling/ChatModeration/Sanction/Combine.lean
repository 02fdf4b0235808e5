/-
ChatModeration.Sanction.Combine — one sanction that does what several would.

The more severe infraction wins with its own duration, and of two equal ones
the longer duration.  A superstar that meets a different infraction becomes the
rename that goes with it.  Texts and reasons are merged into bullet points.
-/
import ChatModeration.Bullets
import ChatModeration.Sanction.Basic

namespace ChatModeration

/-- The longer of two durations; a permanent one is the longest. -/
def longerDuration : Option Number → Option Number → Option Number
  | some a, some b => some (a.max b)
  | _, _ => none

namespace Superstar

def combine (a b : Superstar) : Superstar :=
  ⟨Bullets.merge a.reason b.reason, longerDuration a.duration b.duration⟩

/-- The combination of those of the two that are there. -/
def combine? : Option Superstar → Option Superstar → Option Superstar
  | none, b => b
  | a, none => a
  | some a, some b => some (a.combine b)

end Superstar

namespace Sanction

/-- The rename that a superstar infraction amounts to beside another infraction. -/
def asSuperstar (s : Sanction) : Superstar := ⟨s.reason, s.duration⟩

/-- The renames of a superstar infraction and of the sanction that it joins. -/
def foldSuperstar (star primary : Sanction) : Option Superstar :=
  Superstar.combine? (Superstar.combine? (some star.asSuperstar) star.superstar) primary.superstar

/-- The duration of the more severe infraction; of equal ones the longer. -/
def severestDuration (a b : Sanction) : Option Number :=
  if a.infraction = b.infraction then longerDuration a.duration b.duration
  else if Infraction.mostSevere a.infraction b.infraction = a.infraction then a.duration
  else b.duration

/-- Two sanctions in one. -/
def combine (a b : Sanction) : Sanction :=
  let dmContent := Bullets.merge a.dmContent b.dmContent
  let dmEmbed := Bullets.merge a.dmEmbed b.dmEmbed
  let superstar := Superstar.combine? a.superstar b.superstar
  if a.infraction = .none then { b with dmContent, dmEmbed, superstar }
  else if b.infraction = .none then { a with dmContent, dmEmbed, superstar }
  else if a.infraction = .superstar ∧ b.infraction ≠ .superstar then
    { b with dmContent, dmEmbed, superstar := foldSuperstar a b }
  else if b.infraction = .superstar ∧ a.infraction ≠ .superstar then
    { a with dmContent, dmEmbed, superstar := foldSuperstar b a }
  else
    { infraction := Infraction.mostSevere a.infraction b.infraction
      reason := Bullets.merge a.reason b.reason
      duration := severestDuration a b
      dmContent, dmEmbed, superstar }

end Sanction

namespace ActionSet

def empty : ActionSet := ⟨none⟩

def ofSanction (s : Sanction) : ActionSet := ⟨some s⟩

def isEmpty (set : ActionSet) : Bool := set.sanction.isNone

/-- Both reactions in one. -/
def merge (a b : ActionSet) : ActionSet :=
  match a.sanction, b.sanction with
  | none, _ => b
  | _, none => a
  | some s, some t => ofSanction (s.combine t)

/-- All reactions in one, from the first to the last. -/
def mergeAll (sets : List ActionSet) : ActionSet := sets.foldl merge empty

def ofSanctions (sanctions : List Sanction) : ActionSet := mergeAll (sanctions.map ofSanction)

/-- The reaction of the second set where it has one, and that of the first otherwise. -/
def orElse (fallback own : ActionSet) : ActionSet := if own.isEmpty then fallback else own

end ActionSet

end ChatModeration
