/-
ChatModeration.Sanction.Basic — what happens to the author of a message.

A sanction names the infraction to issue, what to tell the author in private,
and possibly a forced rename (a superstar) that goes with it.  The private
message belongs to the sanction because it can no longer be delivered once its
author has been banned or kicked.
-/
import ChatModeration.Infraction
import ChatModeration.Number.Basic

namespace ChatModeration

/-- A forced rename.  No duration means permanent. -/
structure Superstar where
  reason : Text
  duration : Option Number
deriving DecidableEq

structure Sanction where
  infraction : Infraction
  reason : Text
  /-- In seconds; none means permanent. -/
  duration : Option Number
  /-- Text of the private message. -/
  dmContent : Text
  /-- Text of the block beside the private message. -/
  dmEmbed : Text
  superstar : Option Superstar
deriving DecidableEq

namespace Sanction

/-- The sanction that asks for nothing. -/
def blank : Sanction := ⟨.none, [], none, [], [], none⟩

end Sanction

/-- The configured reaction to an event: a sanction or nothing. -/
structure ActionSet where
  sanction : Option Sanction
deriving DecidableEq

end ChatModeration
