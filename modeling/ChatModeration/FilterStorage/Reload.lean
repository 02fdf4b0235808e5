/-
ChatModeration.FilterStorage.Reload — building the filter lists anew.

A notification that the stored lists have changed starts a reload, unless one
is in progress already.  A reload reads both tables, builds a catalogue and
installs it in place of the current one; when reading fails, the current one
stays.
-/
import ChatModeration.FilterStorage.Rows
import ChatModeration.Program
import ChatModeration.Registry.Build
import ChatModeration.Value.Json

namespace ChatModeration

inductive ReloadRequest where
  /-- Whether a reload is in progress. -/
  | isReloading
  | setReloading (busy : Bool)
  | log (event : LogEvent)
  /-- The rows of the two tables, in the order of their ids. -/
  | selectLists
  | selectFilters
  /-- Makes a catalogue the current one. -/
  | install (catalogue : Catalogue)

abbrev ReloadRequest.Answer : ReloadRequest → Type
  | isReloading => Bool
  | setReloading _ => Unit
  | log _ => Unit
  | selectLists => Except Fault (List ListRow)
  | selectFilters => Except Fault (List FilterRow)
  | install _ => Unit

def Reloading : Interface := ⟨ReloadRequest, ReloadRequest.Answer⟩

namespace Reload

def request (r : ReloadRequest) : Program Reloading r.Answer := Program.request (I := Reloading) r

/-- The reason that a notification gives: the field `reason` of a JSON object, when it is a text. -/
def reason? (notification : Text) : Option Text :=
  (Json.read? notification).bind fun v => (v.field "reason").text?

/-- The stored lists, read table by table. -/
def readTables : ExceptT Fault (Program Reloading) (List StoredList) := do
  let lists ← ExceptT.mk (request .selectLists)
  let filters ← ExceptT.mk (request .selectFilters)
  return StoredList.group lists filters

def logAll : List LogEvent → Program Reloading Unit
  | [] => pure ()
  | e :: rest => do
    request (.log e)
    logAll rest

/-- Builds and installs the catalogue of the stored lists. -/
def rebuild (stored : List StoredList) : Program Reloading Unit := do
  let (catalogue, warnings) := Catalogue.build (stored.map StoredList.toValue)
  logAll warnings
  request (.install catalogue)
  request (.log (.reloadFinished (catalogue.all.map (·.name))))

/-- Reacts to one notification. -/
def onNotification (notification : Text) : Program Reloading Unit := do
  if ← request .isReloading then
    request (.log .reloadSkipped)
  else
    request (.setReloading true)
    request (.log (.reloadStarted (reason? notification)))
    match ← readTables.run with
    | .ok stored => rebuild stored
    | .error fault => request (.log (.reloadFailed fault))
    request (.setReloading false)

end Reload

end ChatModeration
