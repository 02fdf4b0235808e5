/-
ChatModeration.Discord.Client — what is asked of Discord itself.

Every call may fail.  Users, channels and members have to be fetched before
something is done to them.
-/
import ChatModeration.Discord.Embed
import ChatModeration.Log
import ChatModeration.Program

namespace ChatModeration.Discord

/-- A message to be sent. -/
structure Payload where
  /-- The name under which a webhook speaks. -/
  username : Option Text
  content : Option Text
  embeds : List Embed
deriving DecidableEq

/-- A message as it is sent; what it lacks is left out. -/
def Payload.toValue (p : Payload) : Value :=
  Value.record [("username", Value.ofGiven? p.username), ("content", Value.ofGiven? p.content),
    ("embeds", .list (p.embeds.map Embed.toValue))]

/-- What is found under the id of a channel. -/
inductive ChannelState where
  | sendable
  /-- A channel that takes no messages. -/
  | unsendable
  | missing
deriving DecidableEq

inductive Call where
  | fetchUser (user : Text)
  | sendToUser (user : Text) (payload : Payload)
  | fetchChannel (channel : Text)
  | sendToChannel (channel : Text) (payload : Payload)
  | fetchGuild (guild : Text)
  | fetchMember (member : Text)
  | ban (member reason : Text)
  | kick (member reason : Text)
  | timeout (member : Text) (milliseconds : Number) (reason : Text)
  | setNickname (member nickname : Text) (reason : Option Text)
  /-- Removes a member from the voice channel. -/
  | disconnect (member reason : Text)
  | sendToWebhook (webhook : Text) (payload : Payload)
deriving DecidableEq

/-- The answer to a call that succeeds. -/
abbrev Call.Result : Call → Type
  | fetchChannel _ => ChannelState
  /- whether the member is in a voice channel -/
  | fetchMember _ => Bool
  | _ => Unit

/-- The result of a call that succeeds, given the state of channels and whether members are in
voice. -/
def Call.resultGiven (channel : ChannelState) (inVoice : Bool) : (c : Call) → c.Result
  | fetchChannel _ => channel
  | fetchMember _ => inVoice
  | fetchUser _ | fetchGuild _ => ()
  | sendToUser .. | sendToChannel .. | sendToWebhook .. => ()
  | ban .. | kick .. | timeout .. | setNickname .. | disconnect .. => ()

inductive ClientRequest where
  | call (c : Call)
  | log (event : LogEvent)
  | clock

abbrev ClientRequest.Answer : ClientRequest → Type
  | call c => Except Fault c.Result
  | log _ => Except Fault Unit
  | clock => Number

def Client : Interface := ⟨ClientRequest, ClientRequest.Answer⟩

/-- A sequence of calls that ends with the first one that fails. -/
abbrev Calls := ExceptT Fault (Program Client)

namespace Calls

def call (c : Call) : Calls c.Result := ExceptT.mk (Program.request (I := Client) (.call c))

def clock : Calls Number := ExceptT.lift (Program.request (I := Client) .clock)

end Calls

end ChatModeration.Discord
