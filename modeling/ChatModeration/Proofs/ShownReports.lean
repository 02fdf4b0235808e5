/-
ChatModeration.Proofs.ShownReports — the answer to a trial, field by field.

What a message would trigger is answered as JSON.  Its objects are written out
here with the names of their fields in order: a list with its filters, a filter
without its reaction, and the combined reaction with everything that it asks
for.  `CheckReport.toValue_eq` says that this is what is answered.
-/
import ChatModeration.Api.Routes

namespace ChatModeration

/-! ## § The parts of an answer -/

namespace Shown

/-- A filter that matched: which it is, and what it found. -/
def filter (f : TriggeredFilter) : Value :=
  .object [(Text.ofString "id", .number f.id),
    (Text.ofString "content", .text f.content),
    (Text.ofString "description",
      match f.description with
      | some description => .text description
      | none => .null),
    (Text.ofString "matches", .list f.found)]

/-- A list with those of its filters that matched. -/
def list (l : TriggeredList) : Value :=
  .object [(Text.ofString "list", .text l.name),
    (Text.ofString "filters", .list (l.filters.map filter))]

/-- A number of seconds; a permanent measure has none. -/
def duration : Option Number → Value
  | some seconds => .number seconds
  | none => .null

def infraction : Infraction → String
  | .ban => "BAN"
  | .kick => "KICK"
  | .mute => "MUTE"
  | .voiceBan => "VOICE_BAN"
  | .warning => "WARNING"
  | .watch => "WATCH"
  | .superstar => "SUPERSTAR"
  | .note => "NOTE"
  | .none => "NONE"

def superstar : Option Superstar → Value
  | some star =>
    .object [(Text.ofString "reason", .text star.reason),
      (Text.ofString "duration", duration star.duration)]
  | none => .null

def sanction (s : Sanction) : Value :=
  .object [(Text.ofString "kind", .text (Text.ofString "infraction_and_notification")),
    (Text.ofString "infractionType", .text (Text.ofString (infraction s.infraction))),
    (Text.ofString "infractionReason", .text s.reason),
    (Text.ofString "infractionDuration", duration s.duration),
    (Text.ofString "dmContent", .text s.dmContent),
    (Text.ofString "dmEmbed", .text s.dmEmbed),
    (Text.ofString "superstar", superstar s.superstar)]

/-- The combined reaction: an empty object when there is none. -/
def actions (set : ActionSet) : Value :=
  match set.sanction with
  | some s => .object [(Text.ofString "infraction_and_notification", sanction s)]
  | none => .object []

/-- All of it. -/
def report (triggered : List TriggeredList) (found : List Value) (set : ActionSet) : Value :=
  .object [(Text.ofString "triggered", .list (triggered.map list)),
    (Text.ofString "matches", .list found),
    (Text.ofString "actions", actions set)]

end Shown

/-! ## § What is answered -/

theorem TriggeredFilter.toReport_eq (f : TriggeredFilter) : f.toReport = Shown.filter f := by
  obtain ⟨⟨id, content, description, actions⟩, found⟩ := f
  cases description <;> rfl

theorem durationValue_eq (duration : Option Number) :
    durationValue duration = Shown.duration duration := by
  cases duration <;> rfl

theorem Sanction.toValue_eq (s : Sanction) : s.toValue = Shown.sanction s := by
  have hname : s.infraction.nameText = Text.ofString (Shown.infraction s.infraction) := by
    cases s.infraction <;> rfl
  have hstar : Value.ofOption (s.superstar.map Superstar.toValue) = Shown.superstar s.superstar := by
    cases hs : s.superstar with
    | none => rfl
    | some star =>
      rw [Option.map_some, Superstar.toValue, durationValue_eq]
      rfl
  rw [Sanction.toValue, hname, hstar, durationValue_eq]
  rfl

theorem ActionSet.toValue_eq (set : ActionSet) : set.toValue = Shown.actions set := by
  obtain ⟨_ | s⟩ := set
  · rfl
  · simp only [ActionSet.toValue, Shown.actions, Sanction.toValue_eq]
    rfl

theorem CheckReport.toValue_eq (r : CheckReport) :
    r.toValue = Shown.report r.triggered r.matchRecords r.actions := by
  have hlists : (r.triggered.map fun list =>
      Value.record [("list", Value.text list.name),
        ("filters", Value.list (list.filters.map TriggeredFilter.toReport))]) =
      r.triggered.map Shown.list := by
    refine List.map_congr_left fun list _ => ?_
    rw [List.map_congr_left fun f _ => f.toReport_eq]
    rfl
  rw [CheckReport.toValue, hlists, ActionSet.toValue_eq]
  rfl

end ChatModeration
