/-
ChatModeration.FilterStorage.Announcement — telling all bots about a change.

Whoever changes the stored filter lists announces it on a channel that every
bot follows.  An announcement that cannot be delivered is logged and stops
nothing.
-/
import ChatModeration.Log
import ChatModeration.Program
import ChatModeration.Value.Json

namespace ChatModeration

inductive AnnouncementRequest where
  /-- The present time, as it is written in an announcement. -/
  | timestamp
  | publish (channel message : Text)
  | log (event : LogEvent)

abbrev AnnouncementRequest.Answer : AnnouncementRequest → Type
  | timestamp => Text
  | publish .. => Except Fault Unit
  | log _ => Unit

def Announcing : Interface := ⟨AnnouncementRequest, AnnouncementRequest.Answer⟩

namespace Announcement

def request (r : AnnouncementRequest) : Program Announcing r.Answer :=
  Program.request (I := Announcing) r

/-- The text of an announcement. -/
def message (timestamp reason : Text) : Text :=
  Json.write (Value.record [("ts", Value.text timestamp), ("reason", Value.text reason)])

/-- Announces a change of the stored lists. -/
def publish (reason : Text) : Program Announcing Unit := do
  let timestamp ← request .timestamp
  match ← request (.publish changesChannel (message timestamp reason)) with
  | .ok () => request (.log (.changePublished reason))
  | .error fault => request (.log (.publishFailed fault reason))

end Announcement

end ChatModeration
