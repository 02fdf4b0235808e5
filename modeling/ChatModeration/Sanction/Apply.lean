/-
ChatModeration.Sanction.Apply — carrying a sanction out.

The author is told first, then renamed, then sanctioned.  Each step is made
whatever became of the earlier ones, and a step that fails is logged.
-/
import ChatModeration.Platform
import ChatModeration.Sanction.Combine

namespace ChatModeration

/-- What carrying out a sanction needs to know beside the event. -/
structure ModerationSettings where
  /-- Where infractions are confirmed that must not appear in public. -/
  moderationChannel : Channel
  /-- Colour of the block beside a private message. -/
  dmColour : Number

namespace Sanction

open ChatModeration.Action

/-- Runs a step; a failure is logged and goes no further. -/
def bestEffort (step : SanctionStep) (run : Action Unit) : Action Unit :=
  tryCatch run fun fault => do
    let ctx ← get
    log (.stepFailed fault step ctx.author.id)

/-- The end of a measure that starts now. -/
def expiry : Option Number → Action (Option Instant)
  | none => pure none
  | some duration => do
    let now ← clock
    return some (Instant.ofNumber (now + duration * 1000))

/-- The private message with the texts of a sanction merged in. -/
def addTexts (s : Sanction) (ctx : Context) : Context :=
  { ctx with
    dmContent := Bullets.merge ctx.dmContent s.dmContent
    dmEmbed := { ctx.dmEmbed with
      description := Bullets.merge ctx.dmEmbed.description s.dmEmbed } }

/-- The block beside the private message in the given colour, unless it has one. -/
def colourEmbed (colour : Number) (ctx : Context) : Context :=
  { ctx with dmEmbed := { ctx.dmEmbed with colour := some (ctx.dmEmbed.colour.getD colour) } }

/-- A greeting, and on the next line the text if there is any. -/
def greeting (mention text : Text) : Text :=
  Text.ofString "Hey " ++ mention ++ Text.ofString "!" ++ (if text = [] then [] else 0x0A :: text)

/-- Tells the author in private, or in the channel when private messages are closed. -/
def notify (settings : ModerationSettings) (s : Sanction) : Action Unit := do
  modify s.addTexts
  let ctx ← get
  if ctx.dmContent = [] ∧ ctx.dmEmbed.description = [] then return
  modify (colourEmbed settings.dmColour)
  let ctx ← get
  let mention ← platform (.mention ctx.author) id
  let content := greeting mention ctx.dmContent
  let embed := if ctx.dmEmbed.description = [] then none else some ctx.dmEmbed
  let delivery ← platform (.sendDirectMessage ctx.author content embed) id
  if delivery = .forbidden then
    log (.messagesClosed ctx.author.id ctx.channel.id)
    platform (.sendToChannel ctx.channel content embed) id
  modify (·.describe (Text.ofString "notified"))

/-- Renames the author. -/
def rename (star : Superstar) : Action Unit := do
  let ctx ← get
  let expiresAt ← expiry star.duration
  platform (.forceRename ⟨ctx.author, expiresAt, star.reason, ctx.channel⟩) id
  modify (·.describe (Text.ofString "superstarred"))

/-- Bans, and infractions that originate in a private channel, are confirmed to the moderators. -/
def replyChannel (settings : ModerationSettings) (s : Sanction) (ctx : Context) : Channel :=
  if s.infraction = .ban ∨ ctx.channel.guildId = none then settings.moderationChannel
  else ctx.channel

/-- Issues the infraction. -/
def issue (settings : ModerationSettings) (s : Sanction) : Action Unit := do
  let ctx ← get
  let expiresAt ← expiry s.duration
  platform (.issueInfraction
    ⟨ctx.author, s.infraction, expiresAt, s.reason, s.replyChannel settings ctx⟩) id
  modify (·.describe s.infraction.word)

/-- Carries the sanction out: notify, rename, issue. -/
def apply (settings : ModerationSettings) (s : Sanction) : Action Unit := do
  bestEffort .notify (s.notify settings)
  match s.superstar with
  | some star => bestEffort .superstar (rename star)
  | none => pure ()
  if s.infraction ≠ .none then bestEffort .infraction (s.issue settings)

end Sanction

/-- Carries out the sanction of a set; a failure is logged and goes no further. -/
def ActionSet.apply (settings : ModerationSettings) (set : ActionSet) : Action Unit :=
  match set.sanction with
  | none => pure ()
  | some s => tryCatch (s.apply settings) fun fault => Action.log (.sanctionFailed fault)

end ChatModeration
