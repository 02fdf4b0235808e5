/-
ChatModeration.FilterStorage.Subscriber — following the announcements.

A subscriber holds a connection of its own, on which announced changes arrive.
Every announcement starts a reload (`Reload.onNotification`); one that arrives
while a reload waits for the database is skipped.
-/
import ChatModeration.FilterStorage.Reload

namespace ChatModeration

inductive SubscriptionRequest where
  | connect
  | subscribe (channel : Text)
  | unsubscribe (channel : Text)
  | quit
  | log (event : LogEvent)

abbrev SubscriptionRequest.Answer : SubscriptionRequest → Type
  | connect => Except Fault Unit
  | subscribe _ => Except Fault Unit
  | unsubscribe _ => Except Fault Unit
  | quit => Except Fault Unit
  | log _ => Unit

def Subscription : Interface := ⟨SubscriptionRequest, SubscriptionRequest.Answer⟩

namespace Subscriber

/-! ## § Beginning and end -/

abbrev Connection := ExceptT Fault (Program Subscription)

def request (r : SubscriptionRequest) : Program Subscription r.Answer :=
  Program.request (I := Subscription) r

def log (e : LogEvent) : Connection Unit := ExceptT.lift (request (.log e))

/-- Connects and subscribes. -/
def start : Connection Unit := do
  ExceptT.mk (request .connect)
  log .subscriberConnected
  ExceptT.mk (request (.subscribe changesChannel))
  log .subscribed

/-- Unsubscribes and disconnects; a failure is logged and goes no further. -/
def stop : Program Subscription Unit := do
  let outcome ← ExceptT.run do
    ExceptT.mk (request (.unsubscribe changesChannel))
    ExceptT.mk (request .quit)
  match outcome with
  | .ok () => request (.log .subscriberStopped)
  | .error fault => request (.log (.subscriberStopFailed fault))

/-! ## § Announcements -/

structure Announced where
  channel : Text
  message : Text

/-- What the reloads of one bot share. -/
structure Session where
  reloading : Bool
  /-- Set when the bot is about to stop; announcements are ignored from then on. -/
  aborted : Bool
  catalogue : Catalogue
  log : List LogEvent

namespace Session

/-- The session of a bot that has just started. -/
def fresh : Session := ⟨false, false, Catalogue.empty, []⟩

/-- Answers to the requests that need no database. -/
def now : (r : ReloadRequest) → Session → Option (r.Answer × Session)
  | .isReloading, s => some (s.reloading, s)
  | .setReloading busy, s => some ((), { s with reloading := busy })
  | .log e, s => some ((), { s with log := s.log ++ [e] })
  | .install c, s => some ((), { s with catalogue := c })
  | .selectLists, _ => none
  | .selectFilters, _ => none

end Session

/-- The two tables of the database, or the fault with which it answers. -/
abbrev Database := Except Fault (List ListRow × List FilterRow)

/-- Answers to all requests. -/
def answer (db : Database) (r : ReloadRequest) : StateM Session r.Answer := fun s =>
  match r with
  | .selectLists => (db.map (·.1), s)
  | .selectFilters => (db.map (·.2), s)
  | .isReloading => (s.reloading, s)
  | .setReloading busy => ((), { s with reloading := busy })
  | .log e => ((), { s with log := s.log ++ [e] })
  | .install c => ((), { s with catalogue := c })

/-- Reacts to one announcement; those on other channels are ignored. -/
def onAnnounced (s : Session) (a : Announced) : Program Reloading Unit :=
  if a.channel = changesChannel ∧ !s.aborted then Reload.onNotification a.message else pure ()

/-- Starts the reactions to announcements that arrive together: each goes on until it needs the
database. -/
def arrive : List Announced → Session → List (Program Reloading Unit) × Session
  | [], s => ([], s)
  | a :: rest, s =>
    let (reload, s) := (onAnnounced s a).advance Session.now s
    let (reloads, s) := arrive rest s
    (reload :: reloads, s)

/-- Finishes what waits for the database. -/
def finish (db : Database) (reloads : List (Program Reloading Unit)) (s : Session) : Session :=
  reloads.foldl (fun s reload => ((reload.run (I := Reloading) (answer db)).run s).2) s

/-- The session after announcements that arrive together, before the database answers any of
them. -/
def deliver (db : Database) (announced : List Announced) (s : Session) : Session :=
  let (reloads, s) := arrive announced s
  finish db reloads s

end Subscriber

end ChatModeration
