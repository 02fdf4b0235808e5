/-
ChatModeration.Fault — why something failed.

Every cause has its own constructor; `Fault.kind` is the class under which it
is reported and `Fault.message` its wording.
-/
import ChatModeration.Number.Decimal

namespace ChatModeration

inductive Fault where
  /-- An infraction name that is not in the hierarchy, as it was written. -/
  | unknownInfraction (written : Text)
  /-- A collaborator failed and gave this explanation. -/
  | failure (explanation : Text)
  /-- The chat service refused a request with this numeric code. -/
  | refused (code : Number) (explanation : Text)
  /-- A channel that does not exist or that takes no messages. -/
  | channelNotSendable (channel : Text)
  /-- An alert for a webhook that was never registered. -/
  | webhookNotRegistered (webhook : Text)
  | invalidWebhookUrl
  /-- An embed whose description or thumbnail is out of bounds. -/
  | invalidEmbed
  /-- An embed colour that is not an integer. -/
  | fractionalColour (colour : Number)
  /-- An embed colour below zero or beyond 24 bits. -/
  | colourOutOfRange
deriving DecidableEq

namespace Fault

/-- The class under which a fault is reported. -/
def kind : Fault → String
  | unknownInfraction _ => "Error"
  | failure _ => "Error"
  | refused _ _ => "DiscordAPIError"
  | channelNotSendable _ => "Error"
  | webhookNotRegistered _ => "Error"
  | invalidWebhookUrl => "DiscordjsError"
  | invalidEmbed => "CombinedError"
  | fractionalColour _ => "DiscordjsTypeError"
  | colourOutOfRange => "DiscordjsRangeError"

def message : Fault → Text
  | unknownInfraction written =>
    Text.ofString "Unknown infraction type \"" ++ written ++ Text.ofString "\""
  | failure explanation => explanation
  | refused _ explanation => explanation
  | channelNotSendable channel =>
    Text.ofString "Channel " ++ channel ++
      Text.ofString " is not a channel messages can be sent to"
  | webhookNotRegistered webhook =>
    Text.ofString "Alert webhook " ++ webhook ++ Text.ofString " is not registered"
  | invalidWebhookUrl => Text.ofString "The provided webhook URL is not valid."
  | invalidEmbed => Text.ofString "Received one or more errors"
  | fractionalColour colour =>
    Text.ofString "Unable to convert \"" ++ colour.toText ++ Text.ofString "\" to a number."
  | colourOutOfRange =>
    Text.ofString "Color must be within the range 0 - 16777215 (0xFFFFFF)."

end Fault

end ChatModeration
