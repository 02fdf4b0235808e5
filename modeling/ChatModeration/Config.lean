/-
ChatModeration.Config — the settings of the bot.

Settings are read from a file of blocks.  The last block of a name counts, and
in it the last entry of a key; a setting that is missing there, or that is not
of the right kind, has its default.  Every text is a settings file.
-/
import ChatModeration.Config.Line
import ChatModeration.Number.Reader
import ChatModeration.Value.Basic

namespace ChatModeration

structure Config where
  alertsEnabled : Bool
  /-- The webhook to which alerts are delivered. -/
  webhookUrl : Text
  guildId : Text
  /-- The channel of the moderators. -/
  moderationChannelId : Text
  /-- Colour of the block beside a private message. -/
  dmColour : Number
deriving DecidableEq

namespace Config

/-- Alerts are on but have no webhook, and the colour is blurple. -/
def default : Config := ⟨true, [], [], [], 0x7289DA⟩

/-! ## § Blocks -/

/-- A header with the entries that follow it. -/
structure Block where
  name : Text
  entries : List (Text × Scalar)
deriving DecidableEq

/-- The entries up to the next header, and the blocks from there on. -/
def splitBlocks : List Line → List (Text × Scalar) × List Block
  | [] => ([], [])
  | .header name :: rest =>
    let (entries, blocks) := splitBlocks rest
    ([], ⟨name, entries⟩ :: blocks)
  | .entry key value :: rest =>
    let (entries, blocks) := splitBlocks rest
    ((key, value) :: entries, blocks)

/-- The blocks of a file; entries before the first header belong to none. -/
def blocks (lines : List Line) : List Block := (splitBlocks lines).2

/-- The value given for a key by the last entry that has it, in the last block of that name. -/
def setting? (blocks : List Block) (block key : String) : Option Scalar :=
  (blocks.reverse.find? fun b => b.name = Text.ofString block).bind fun b =>
    b.entries.reverse.lookup (Text.ofString key)

/-! ## § Kinds of settings -/

/-- A setting that is on or off. -/
def flagOr (fallback : Bool) : Option Scalar → Bool
  | some (.flag value) => value
  | _ => fallback

/-- A setting that is a text. -/
def textOr (fallback : Text) : Option Scalar → Text
  | some (.text value) => value
  | _ => fallback

/-- Whether a number is a colour of 24 bits. -/
def isColour (n : Number) : Bool :=
  match n.toInt? with
  | some k => 0 ≤ k && k ≤ 0xFFFFFF
  | none => false

/-- A setting that is a colour, written as a number. -/
def colourOr (fallback : Number) : Option Scalar → Number
  | some (.text written) =>
    if written ≠ [] ∧ isColour (Number.ofText written) then Number.ofText written else fallback
  | _ => fallback

/-! ## § Reading -/

/-- The settings that blocks give. -/
def ofBlocks (blocks : List Block) : Config where
  alertsEnabled := flagOr default.alertsEnabled (setting? blocks "alerts" "enabled")
  webhookUrl := textOr default.webhookUrl (setting? blocks "alerts" "webhook_url")
  guildId := textOr default.guildId (setting? blocks "moderation" "guild_id")
  moderationChannelId :=
    textOr default.moderationChannelId (setting? blocks "moderation" "channel_id")
  dmColour := colourOr default.dmColour (setting? blocks "dm" "colour")

/-- The settings that a file gives. -/
def read (file : Text) : Config := ofBlocks (blocks (readLines file))

/-- The settings of a file that may be missing. -/
def load (file : Option Text) : Config := (file.map read).getD default

/-- The settings as data, block by block. -/
def toValue (c : Config) : Value :=
  Value.record [
    ("alerts",
      Value.record [("enabled", .bool c.alertsEnabled), ("webhook_url", .text c.webhookUrl)]),
    ("moderation", Value.record [("guild_id", .text c.guildId),
      ("channel_id", .text c.moderationChannelId)]),
    ("dm", Value.record [("colour", .number c.dmColour)])]

end Config

end ChatModeration
