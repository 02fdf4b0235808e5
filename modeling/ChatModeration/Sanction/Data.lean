/-
ChatModeration.Sanction.Data — sanctions as they are reported.
-/
import ChatModeration.Log
import ChatModeration.Sanction.Basic

namespace ChatModeration

/-- A duration in seconds; `null` for a permanent measure. -/
def durationValue (duration : Option Number) : Value := Value.ofOption (duration.map Value.number)

def Superstar.toValue (s : Superstar) : Value :=
  Value.record [("reason", Value.text s.reason), ("duration", durationValue s.duration)]

def Sanction.toValue (s : Sanction) : Value :=
  Value.record [("kind", Value.ofString sanctionKey),
    ("infractionType", Value.text s.infraction.nameText),
    ("infractionReason", Value.text s.reason),
    ("infractionDuration", durationValue s.duration),
    ("dmContent", Value.text s.dmContent),
    ("dmEmbed", Value.text s.dmEmbed),
    ("superstar", Value.ofOption (s.superstar.map Superstar.toValue))]

/-- An object that holds the sanction, if there is one. -/
def ActionSet.toValue (set : ActionSet) : Value :=
  match set.sanction with
  | none => .object []
  | some s => Value.record [(sanctionKey, s.toValue)]

end ChatModeration
