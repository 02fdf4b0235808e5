/-
ChatModeration.Discord.Enforcement — carrying requests out on Discord.

Bans, kicks and mutes are enforced by Discord; a voice ban removes the member
from voice.  Warnings, watches and notes are only confirmed.  Every measure is
confirmed in a channel once it has been taken.  The end of a mute is enforced
within the bounds of Discord; the end of any other measure is only reported.
-/
import ChatModeration.Discord.Client
import ChatModeration.Discord.Webhook
import ChatModeration.Number.Decimal
import ChatModeration.Platform

namespace ChatModeration.Discord

open Calls

/-- The server that the bot moderates, and the webhooks to which it can speak. -/
structure Server where
  guild : Text
  webhooks : List Text

/-! ## § Wording -/

/-- The longest timeout, in milliseconds: 28 days. -/
def maxTimeout : Number := 2419200000

/-- The name of a renamed member. -/
def superstarNickname : Text := Text.ofString "Superstar"

/-- The whole seconds of a moment, as text. -/
def secondsText : Instant → Text
  | .invalid => Number.nan.toText
  | .at milliseconds => (Number.ofInt (milliseconds.fdiv 1000)).toText

def describeExpiry : Option Instant → Text
  | none => Text.ofString "permanently"
  | some moment => Text.ofString "until " ++ Markdown.relativeTime (secondsText moment)

/-- The name of an infraction in running text. -/
def label (infraction : Infraction) : Text :=
  infraction.word.map fun u => if u = 0x5F then 0x20 else u

/-- The confirmation of an infraction. -/
def confirmation (r : InfractionRequest) : Text :=
  Text.ofString "Applied " ++ Markdown.bold (label r.infraction) ++ Text.ofString " to " ++
    Markdown.userMention r.actor.id ++ 0x20 :: describeExpiry r.expiresAt ++
    (if r.reason = [] then Text.ofString "." else Text.ofString ": " ++ r.reason)

/-- The confirmation of a rename. -/
def renameConfirmation (r : RenameRequest) : Text :=
  Markdown.userMention r.actor.id ++ Text.ofString " has been superstarified " ++
    describeExpiry r.expiresAt ++ Text.ofString "."

/-- The timeout that lasts until a moment, within the bounds of Discord. -/
def timeoutUntil (moment : Instant) (now : Number) : Number :=
  ((moment.toNumber - now).max 0).min maxTimeout

/-! ## § Messages -/

/-- A message with at most one block beside it. -/
def payload (content : Text) (embed : Option RichContent) : Except Fault Payload :=
  match embed with
  | none => .ok ⟨none, some content, []⟩
  | some block => (Embed.ofContent block).map fun e => ⟨none, some content, [e]⟩

/-- Whether a fault means that a user takes no private messages. -/
def isMessagesClosed : Fault → Bool
  | .refused code _ => code = 50007
  | _ => false

def sendDirectMessage (actor : Actor) (content : Text) (embed : Option RichContent) :
    Calls Delivery := do
  call (.fetchUser actor.id)
  tryCatch
    (do
      let message ← ExceptT.mk (pure (payload content embed))
      call (.sendToUser actor.id message)
      return .sent)
    fun fault => if isMessagesClosed fault then return .forbidden else throw fault

def sendToChannel (channel : Channel) (content : Text) (embed : Option RichContent) :
    Calls Unit := do
  match ← call (.fetchChannel channel.id) with
  | .sendable =>
    let message ← ExceptT.mk (pure (payload content embed))
    call (.sendToChannel channel.id message)
  | _ => throw (.channelNotSendable channel.id)

/-- Speaks through a registered webhook; empty content is left out. -/
def sendAlert (server : Server) (channel : AlertChannel) (alert : Alert) : Calls Unit := do
  if channel.id ∈ server.webhooks then
    let embeds ← ExceptT.mk (pure (alert.embeds.mapM Embed.ofContent))
    let content := if alert.content = [] then none else some alert.content
    call (.sendToWebhook channel.id ⟨some alert.username, content, embeds⟩)
  else throw (.webhookNotRegistered channel.id)

/-! ## § Measures -/

/-- Finds a member of the server; says whether the member is in voice. -/
def fetchMember (server : Server) (user : Text) : Calls Bool := do
  call (.fetchGuild server.guild)
  call (.fetchMember user)

def forceRename (server : Server) (r : RenameRequest) : Calls Unit := do
  let _ ← fetchMember server r.actor.id
  let reason := if r.reason = [] then none else some r.reason
  call (.setNickname r.actor.id superstarNickname reason)
  sendToChannel r.channel (renameConfirmation r) none

/-- Takes the measure that an infraction stands for. -/
def enforce (server : Server) (r : InfractionRequest) : Calls Unit :=
  match r.infraction with
  | .ban => do
    call (.fetchGuild server.guild)
    call (.ban r.actor.id r.reason)
  | .kick => do
    let _ ← fetchMember server r.actor.id
    call (.kick r.actor.id r.reason)
  | .mute => do
    let milliseconds ← match r.expiresAt with
      | none => pure maxTimeout
      | some moment => timeoutUntil moment <$> clock
    let _ ← fetchMember server r.actor.id
    call (.timeout r.actor.id milliseconds r.reason)
  | .voiceBan => do
    let inVoice ← fetchMember server r.actor.id
    if inVoice then call (.disconnect r.actor.id r.reason)
  | _ => pure ()

/-- Takes and confirms a measure; a superstar is a rename with a confirmation of its own. -/
def issueInfraction (server : Server) (r : InfractionRequest) : Calls Unit := do
  if r.infraction = .superstar then
    forceRename server ⟨r.actor, r.expiresAt, r.reason, r.replyChannel⟩
  else
    enforce server r
    sendToChannel r.replyChannel (confirmation r) none

/-! ## § The platform -/

/-- Answers a request of the filtering. -/
def answer (server : Server) : (r : PlatformRequest) → Program Client r.Answer
  | .mention actor => pure (.ok (Markdown.userMention actor.id))
  | .sendDirectMessage actor content embed => sendDirectMessage actor content embed
  | .sendToChannel channel content embed => sendToChannel channel content embed
  | .issueInfraction r => issueInfraction server r
  | .forceRename r => forceRename server r
  | .sendAlert channel alert => sendAlert server channel alert

/-- Answers whatever the filtering asks. -/
def answerAll (server : Server) : (r : ModerationRequest) → Program Client r.Answer
  | .platform r => answer server r
  | .log e => Program.request (I := Client) (.log e)
  | .clock => Program.request (I := Client) .clock

/-- The filtering on Discord. -/
def onDiscord {α : Type} (server : Server) (p : Program Moderation α) : Program Client α :=
  p.translate (I := Moderation) (answerAll server)

namespace Server

/-- A server without webhooks. -/
def ofGuild (guild : Text) : Server := ⟨guild, []⟩

/-- Registers the webhook that has an address, and says to which channel it speaks; if the text is
empty or no address, nothing is registered and the reason is logged. -/
def registerWebhook (server : Server) (url : Text) : Server × Option AlertChannel × List LogEvent :=
  if url = [] then (server, none, [.noWebhook])
  else match Webhook.id? url with
    | .ok id => ({ server with webhooks := server.webhooks ++ [id] }, some ⟨id⟩, [])
    | .error fault => (server, none, [.invalidWebhook fault])

/-- Forgets all webhooks. -/
def destroy (server : Server) : Server := { server with webhooks := [] }

end Server

end ChatModeration.Discord
