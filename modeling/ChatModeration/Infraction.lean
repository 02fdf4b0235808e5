/-
ChatModeration.Infraction — the hierarchy of infractions.

Infractions are listed from the most to the least severe; `Infraction.none` is
the absence of one.  `Infraction.read` reads a name as moderators write it:
in any letter case, with spaces for underscores, and with a blank text for no
infraction.
-/
import ChatModeration.Fault
import ChatModeration.Text.Blank
import ChatModeration.Text.Case

namespace ChatModeration

inductive Infraction where
  | ban
  | kick
  | mute
  | voiceBan
  | warning
  | watch
  | superstar
  | note
  | none
deriving DecidableEq, Inhabited

namespace Infraction

/-- All infractions, the most severe first. -/
def hierarchy : List Infraction :=
  [ban, kick, mute, voiceBan, warning, watch, superstar, note, none]

/-- The place in the hierarchy; lower is more severe. -/
def rank : Infraction → Nat
  | ban => 0
  | kick => 1
  | mute => 2
  | voiceBan => 3
  | warning => 4
  | watch => 5
  | superstar => 6
  | note => 7
  | none => 8

def name : Infraction → String
  | ban => "BAN"
  | kick => "KICK"
  | mute => "MUTE"
  | voiceBan => "VOICE_BAN"
  | warning => "WARNING"
  | watch => "WATCH"
  | superstar => "SUPERSTAR"
  | note => "NOTE"
  | none => "NONE"

def nameText (i : Infraction) : Text := Text.ofString i.name

/-- The word under which an infraction is reported as carried out. -/
def word (i : Infraction) : Text := i.nameText.map CodeUnit.asciiLower

/-- The infraction of exactly that name. -/
def ofName? (name : Text) : Option Infraction := hierarchy.find? fun i => i.nameText = name

/-- The more severe of two infractions. -/
def mostSevere (a b : Infraction) : Infraction := if a.rank ≤ b.rank then a else b

/-- A name as it is looked up: trimmed, with underscores for spaces, in capital letters. -/
def normalizeName (written : Text) : Text :=
  Text.toUpper (written.trim.map fun u => if u = 0x20 then 0x5F else u)

/-- The infraction that a written name denotes; a blank text denotes none. -/
def read (written : Text) : Except Fault Infraction :=
  if written.trim.isEmpty then .ok none
  else match ofName? (normalizeName written) with
    | some i => .ok i
    | Option.none => .error (.unknownInfraction written)

theorem rank_injective {a b : Infraction} (h : a.rank = b.rank) : a = b := by
  cases a <;> cases b <;> first | rfl | exact absurd h (by decide)

theorem ofName?_nameText (i : Infraction) : ofName? i.nameText = some i := by cases i <;> decide

end Infraction

end ChatModeration
