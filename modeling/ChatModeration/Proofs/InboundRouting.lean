/-
ChatModeration.Proofs.InboundRouting — each report is dispatched once.

`Routed` says what the handling of a report asks from its beginning to its end:
the fetch of a message of which only a part is known, one dispatch of the fields
of the message (`Carried`) with whatever the dispatcher asks meanwhile, and one
line of the log for what fails.  The records with which a handling ends are
exactly the routed ones (`endsWith_program`).

The main statement is `routed_once`: with handlings side by side, answered in
any order, each has a record that is routed or is still on the way to one.
-/
import ChatModeration.Proofs.DispatchConduct
import ChatModeration.Proofs.InboundHandlings

namespace ChatModeration.Discord

open Program

/-! ## § What a handling asks -/

namespace Exterior

/-- A fetched message, or the reason why there is none. -/
def fetched (message : Message) (answer : Except Fault Message) : Exchange Exterior :=
  ⟨.fetch message, answer⟩

/-- A message is given to the dispatcher, which works with these filter lists. -/
def dispatched (incoming : Incoming) (catalogue : Catalogue) : Exchange Exterior :=
  ⟨.dispatch incoming, catalogue⟩

/-- What the dispatcher asks at its work. -/
def atWork (e : Exchange Moderation) : Exchange Exterior := ⟨.moderation e.request, e.answer⟩

def line (event : LogEvent) : Exchange Exterior := ⟨.log event, ()⟩

end Exterior

open Exterior

/-- An event of this kind with the fields of a message: who wrote it where, its text and its link,
and its embeds with the attachments after them. -/
structure Carried (id : Text) (body : MessageBody) (event : FilterEvent) (incoming : Incoming) :
    Prop where
  event : incoming.event = event
  author : incoming.author = body.author
  channelId : incoming.channel.id = body.channelId
  channelName : incoming.channel.name =
    match body.place with
    | .direct => Text.ofString "DM"
    | .channel name => name
  guildId : incoming.channel.guildId = body.guildId
  content : incoming.content = body.content
  message : incoming.message = some ⟨id, body.url⟩
  embeds : incoming.embeds = body.embeds ++ body.attachments.map fun a => ⟨some a.url, a.name, none⟩

/-- There is exactly one such event, and it is the one that is dispatched. -/
theorem carried_iff {id : Text} {body : MessageBody} {event : FilterEvent} {incoming : Incoming} :
    Carried id body event incoming ↔ incoming = body.toIncoming id event := by
  have hplace : body.place.name =
      match body.place with
      | .direct => Text.ofString "DM"
      | .channel name => name := by
    cases body.place <;> rfl
  constructor
  · intro h
    obtain ⟨_, _, ⟨_, _, _⟩, _, _, _⟩ := incoming
    obtain ⟨rfl, rfl, rfl, hname, rfl, rfl, rfl, rfl⟩ := h
    obtain rfl := hname.trans hplace.symm
    rfl
  · rintro rfl
    exact ⟨rfl, rfl, rfl, hplace, rfl, rfl, rfl, rfl⟩

/-- The handling of one message: it is dispatched once if it can be read, and what fails is logged
once. -/
inductive Handled (dispatcher : Dispatcher) (message : Message) (event : FilterEvent) :
    Conversation Exterior → Prop
  | unreadable {fault : Fault} (hbody : message.body = .error fault) :
      Handled dispatcher message event [line (.dispatchFailed fault message.id event)]
  | resolved {body : MessageBody} {incoming : Incoming} {catalogue : Catalogue}
      {inner : Conversation Moderation} (hbody : message.body = .ok body)
      (hcarried : Carried message.id body event incoming)
      (hends : (dispatcher catalogue incoming).EndsWith inner (.ok ())) :
      Handled dispatcher message event (dispatched incoming catalogue :: inner.map atWork)
  | rejected {body : MessageBody} {incoming : Incoming} {catalogue : Catalogue}
      {inner : Conversation Moderation} {fault : Fault} (hbody : message.body = .ok body)
      (hcarried : Carried message.id body event incoming)
      (hends : (dispatcher catalogue incoming).EndsWith inner (.error fault)) :
      Handled dispatcher message event
        (dispatched incoming catalogue ::
          (inner.map atWork ++ [line (.dispatchFailed fault message.id event)]))

/-- An edit that is known to have left the text as it was. -/
def Unchanged (before after : Message) : Prop :=
  before.isPartial = false ∧ after.isPartial = false ∧ before.content = after.content

/-- The handling of a report from its beginning to its end. -/
inductive Routed (dispatcher : Dispatcher) : Report → Conversation Exterior → Prop
  | created {message : Message} {record : Conversation Exterior}
      (hrecord : Handled dispatcher message .message record) :
      Routed dispatcher (.created message) record
  | unchanged {before after : Message} (hsame : Unchanged before after) :
      Routed dispatcher (.edited before after) []
  | edited {before after : Message} {record : Conversation Exterior}
      (hchanged : ¬ Unchanged before after) (hcomplete : after.isPartial = false)
      (hrecord : Handled dispatcher after .messageEdit record) :
      Routed dispatcher (.edited before after) record
  | fetched {before after message : Message} {record : Conversation Exterior}
      (hpartial : after.isPartial = true)
      (hrecord : Handled dispatcher message .messageEdit record) :
      Routed dispatcher (.edited before after) (fetched after (.ok message) :: record)
  | missing {before after : Message} {fault : Fault} (hpartial : after.isPartial = true) :
      Routed dispatcher (.edited before after)
        [fetched after (.error fault), line (.fetchFailed fault after.id)]

variable {dispatcher : Dispatcher} {reports : List Report} {world : List Handling}
  {message before after : Message} {event : FilterEvent} {record : Conversation Exterior}
  {report : Report}

/-! ## § The records with which a handling ends -/

theorem endsWith_request {r : HandlingRequest} {a : r.Answer} :
    (Exterior.request r).EndsWith record a ↔ record = [⟨r, a⟩] := by
  constructor
  · intro h
    obtain ⟨answer, later, rfl, hlater⟩ := endsWith_ask.mp h
    obtain ⟨rfl, rfl⟩ := endsWith_done.mp hlater
    rfl
  · rintro rfl
    exact endsWith_ask.mpr ⟨a, [], rfl, .refl _⟩

/-- The dispatcher's own record is a part of that of the handling. -/
theorem endsWith_within {α : Type} {p : Program Moderation α} {a : α} :
    (within p).EndsWith record a ↔ ∃ inner, record = inner.map atWork ∧ p.EndsWith inner a := by
  induction p generalizing record with
  | done b =>
    constructor
    · intro h
      obtain ⟨rfl, rfl⟩ := endsWith_done.mp h
      exact ⟨[], rfl, .refl _⟩
    · rintro ⟨inner, rfl, h⟩
      obtain ⟨rfl, rfl⟩ := endsWith_done.mp h
      exact .refl _
  | ask r next ih =>
    constructor
    · intro h
      obtain ⟨answer, later, rfl, hlater⟩ := endsWith_ask.mp h
      obtain ⟨inner, rfl, hinner⟩ := (ih answer).mp hlater
      exact ⟨⟨r, answer⟩ :: inner, rfl, endsWith_ask.mpr ⟨answer, inner, rfl, hinner⟩⟩
    · rintro ⟨inner, rfl, h⟩
      obtain ⟨answer, later, rfl, hlater⟩ := endsWith_ask.mp h
      exact endsWith_ask.mpr ⟨answer, _, rfl, (ih answer).mpr ⟨later, rfl, hlater⟩⟩

theorem endsWith_dispatch {incoming : Incoming} {outcome : Except Fault Unit} :
    (meet dispatcher (.dispatch incoming)).EndsWith record outcome ↔
      ∃ catalogue inner, record = dispatched incoming catalogue :: inner.map atWork ∧
        (dispatcher catalogue incoming).EndsWith inner outcome := by
  constructor
  · intro h
    obtain ⟨catalogue, later, rfl, hlater⟩ := endsWith_ask.mp h
    obtain ⟨inner, rfl, hinner⟩ := endsWith_within.mp hlater
    exact ⟨catalogue, inner, rfl, hinner⟩
  · rintro ⟨catalogue, inner, rfl, hinner⟩
    exact endsWith_ask.mpr ⟨catalogue, _, rfl, endsWith_within.mpr ⟨inner, rfl, hinner⟩⟩

/-- A request of a reaction, and then what follows from the answer. -/
theorem endsWith_then {r : InboundRequest} {next : r.Answer → Program Inbox Unit} :
    ((Inbound.request r >>= next).translate (meet dispatcher)).EndsWith record () ↔
      ∃ first answer later, record = first ++ later ∧ (meet dispatcher r).EndsWith first answer ∧
        ((next answer).translate (meet dispatcher)).EndsWith later () :=
  endsWith_bind

theorem endsWith_log {e : LogEvent} :
    ((Inbound.request (.log e)).translate (meet dispatcher)).EndsWith record () ↔
      record = [line e] :=
  endsWith_request

theorem endsWith_handle :
    ((Inbound.handle message event).translate (meet dispatcher)).EndsWith record () ↔
      Handled dispatcher message event record := by
  cases hbody : message.body with
  | error fault =>
    have hhandle : Inbound.handle message event =
        Inbound.request (.log (.dispatchFailed fault message.id event)) := by
      simp [Inbound.handle, hbody]
    rw [hhandle, endsWith_log]
    constructor
    · rintro rfl
      exact .unreadable hbody
    · intro hrecord
      cases hrecord <;> simp_all
  | ok body =>
    simp only [Inbound.handle, hbody]
    refine endsWith_then.trans ?_
    constructor
    · rintro ⟨first, outcome, later, rfl, hfirst, hlater⟩
      obtain ⟨catalogue, inner, rfl, hinner⟩ := endsWith_dispatch.mp hfirst
      cases outcome with
      | ok _ =>
        obtain ⟨rfl, -⟩ := endsWith_done.mp hlater
        rw [List.append_nil]
        exact .resolved hbody (carried_iff.mpr rfl) hinner
      | error fault =>
        obtain rfl := endsWith_log.mp hlater
        exact .rejected hbody (carried_iff.mpr rfl) hinner
    · intro hrecord
      cases hrecord with
      | unreadable hfault => simp [hbody] at hfault
      | resolved hbody' hcarried hinner =>
        obtain rfl : _ = body := by simpa [hbody] using hbody'.symm
        obtain rfl := carried_iff.mp hcarried
        exact ⟨_, .ok (), [], (List.append_nil _).symm,
          endsWith_dispatch.mpr ⟨_, _, rfl, hinner⟩, .refl _⟩
      | rejected hbody' hcarried hinner =>
        obtain rfl : _ = body := by simpa [hbody] using hbody'.symm
        obtain rfl := carried_iff.mp hcarried
        exact ⟨_, .error _, _, rfl, endsWith_dispatch.mpr ⟨_, _, rfl, hinner⟩, endsWith_log.mpr rfl⟩

theorem isUnchanged_iff : Inbound.isUnchanged before after = true ↔ Unchanged before after := by
  simp [Inbound.isUnchanged, Unchanged, and_assoc]

theorem endsWith_onUpdate :
    ((Inbound.onUpdate before after).translate (meet dispatcher)).EndsWith record () ↔
      Routed dispatcher (.edited before after) record := by
  rw [Inbound.onUpdate]
  by_cases hsame : Unchanged before after
  · rw [if_pos (isUnchanged_iff.mpr hsame)]
    constructor
    · intro hends
      obtain ⟨rfl, -⟩ := endsWith_done.mp hends
      exact .unchanged hsame
    · intro hrouted
      cases hrouted with
      | unchanged => exact .refl _
      | edited hchanged => exact absurd hsame hchanged
      | fetched hpartial => simp [hsame.2.1] at hpartial
      | missing hpartial => simp [hsame.2.1] at hpartial
  rw [if_neg (mt isUnchanged_iff.mp hsame)]
  cases hpartial : after.isPartial with
  | false =>
    refine Iff.trans endsWith_handle ?_
    constructor
    · exact .edited hsame hpartial
    · intro hrouted
      cases hrouted with
      | unchanged h => exact absurd h hsame
      | edited _ _ hrecord => exact hrecord
      | fetched h => simp [hpartial] at h
      | missing h => simp [hpartial] at h
  | true =>
    refine endsWith_then.trans ?_
    constructor
    · rintro ⟨first, answer, later, rfl, hfirst, hlater⟩
      obtain rfl := endsWith_request.mp hfirst
      cases answer with
      | ok message => exact .fetched hpartial (endsWith_handle.mp hlater)
      | error fault =>
        obtain rfl := endsWith_log.mp hlater
        exact .missing hpartial
    · intro hrouted
      cases hrouted with
      | unchanged h => exact absurd h hsame
      | edited _ h => simp [hpartial] at h
      | fetched _ hrecord =>
        exact ⟨_, .ok _, _, rfl, endsWith_request.mpr rfl, endsWith_handle.mpr hrecord⟩
      | missing =>
        exact ⟨_, .error _, _, rfl, endsWith_request.mpr rfl, endsWith_log.mpr rfl⟩

/-- The handling of a report ends with the records that are routed, and with no others. -/
theorem endsWith_program :
    (Handling.program dispatcher report).EndsWith record () ↔ Routed dispatcher report record := by
  cases report with
  | created message =>
    refine Iff.trans endsWith_handle ⟨.created, fun hrouted => ?_⟩
    cases hrouted with
    | created hrecord => exact hrecord
  | edited before after => exact endsWith_onUpdate

/-! ## § What is dispatched, logged and asked -/

/-- The messages that are given to the dispatcher. -/
def dispatches (record : Conversation Exterior) : List Incoming :=
  record.filterMap fun e => match e.request with
    | .dispatch incoming => some incoming
    | _ => none

/-- The lines that the handling writes to the log; those of the dispatcher are not among them. -/
def lines (record : Conversation Exterior) : List LogEvent :=
  record.filterMap fun e => match e.request with
    | .log event => some event
    | _ => none

/-- What the dispatcher asks the platform, its log and the clock. -/
def work (record : Conversation Exterior) : List ModerationRequest :=
  record.filterMap fun e => match e.request with
    | .moderation r => some r
    | _ => none

variable {later : Conversation Exterior}

@[simp] theorem dispatches_atWork (inner : Conversation Moderation) :
    dispatches (inner.map atWork) = [] := by
  simp [dispatches, atWork]

@[simp] theorem lines_atWork (inner : Conversation Moderation) : lines (inner.map atWork) = [] := by
  simp [lines, atWork]

@[simp] theorem dispatches_append :
    dispatches (record ++ later) = dispatches record ++ dispatches later :=
  List.filterMap_append

@[simp] theorem lines_append : lines (record ++ later) = lines record ++ lines later :=
  List.filterMap_append

@[simp] theorem work_append : work (record ++ later) = work record ++ work later :=
  List.filterMap_append

@[simp] theorem dispatches_nil : dispatches [] = [] := rfl

@[simp] theorem lines_nil : lines [] = [] := rfl

@[simp] theorem dispatches_dispatched {incoming : Incoming} {catalogue : Catalogue} :
    dispatches (dispatched incoming catalogue :: record) = incoming :: dispatches record := rfl

@[simp] theorem lines_dispatched {incoming : Incoming} {catalogue : Catalogue} :
    lines (dispatched incoming catalogue :: record) = lines record := rfl

@[simp] theorem work_dispatched {incoming : Incoming} {catalogue : Catalogue} :
    work (dispatched incoming catalogue :: record) = work record := rfl

@[simp] theorem dispatches_line {e : LogEvent} : dispatches [line e] = [] := rfl

@[simp] theorem lines_line {e : LogEvent} : lines [line e] = [e] := rfl

@[simp] theorem work_line {e : LogEvent} : work [line e] = [] := rfl

@[simp] theorem dispatches_fetched {answer : Except Fault Message} :
    dispatches (fetched message answer :: record) = dispatches record := rfl

@[simp] theorem lines_fetched {answer : Except Fault Message} :
    lines (fetched message answer :: record) = lines record := rfl

theorem Handled.counts (h : Handled dispatcher message event record) :
    (dispatches record).length ≤ 1 ∧ (lines record).length ≤ 1 := by
  cases h <;> simp

theorem Routed.counts (h : Routed dispatcher report record) :
    (dispatches record).length ≤ 1 ∧ (lines record).length ≤ 1 := by
  cases h with
  | created hrecord => exact hrecord.counts
  | unchanged => exact ⟨Nat.zero_le 1, Nat.zero_le 1⟩
  | edited _ _ hrecord => exact hrecord.counts
  | fetched _ hrecord => simpa using hrecord.counts
  | missing => simp

/-! ## § Messages of bots -/

/-- The filtering as a dispatcher. -/
def filtering (settings : DispatchSettings) : Dispatcher := fun catalogue incoming => do
  let outcome ← Dispatch.onMessage settings catalogue incoming
  match outcome with
  | some (.error fault, _) => return .error fault
  | _ => return .ok ()

variable {settings : DispatchSettings}

/-- A message of a bot is done with at once. -/
theorem filtering_of_bot {incoming : Incoming} (hbot : incoming.author.bot = true)
    (catalogue : Catalogue) : filtering settings catalogue incoming = .done (.ok ()) := by
  simp [filtering, Dispatch.onMessage, hbot]
  rfl

/-- The complete message that a handling is about: the one that was reported, or the one that was
fetched where only a part had been. -/
def Handling.message? (h : Handling) : Option Message :=
  match h.report with
  | .created message => some message
  | .edited _ after =>
    if after.isPartial then
      h.record.findSome? fun e =>
        match e with
        | ⟨.fetch _, .ok message⟩ => some message
        | _ => none
    else some after

variable {r : ModerationRequest}

/-- The dispatcher asks something only about a message whose author is no bot. -/
theorem Handled.author_of_work (h : Handled (filtering settings) message event record)
    (hr : r ∈ work record) : ∃ body, message.body = .ok body ∧ body.author.bot = false := by
  have hauthor {body : MessageBody} {incoming : Incoming} {catalogue : Catalogue}
      {inner : Conversation Moderation} {outcome : Except Fault Unit}
      (hcarried : Carried message.id body event incoming)
      (hends : (filtering settings catalogue incoming).EndsWith inner outcome)
      (hinner : r ∈ work (inner.map atWork)) : body.author.bot = false := by
    rw [Bool.eq_false_iff]
    intro hbot
    rw [filtering_of_bot (hcarried.author ▸ hbot)] at hends
    obtain ⟨rfl, -⟩ := endsWith_done.mp hends
    cases hinner
  cases h with
  | unreadable => cases hr
  | resolved hbody hcarried hends => exact ⟨_, hbody, hauthor hcarried hends hr⟩
  | rejected hbody hcarried hends =>
    exact ⟨_, hbody, hauthor hcarried hends (by simpa using hr)⟩

/-- This holds at all times: the message is known before the dispatcher asks anything. -/
theorem Routed.author_of_work {rest : Program Exterior Unit}
    (h : Routed (filtering settings) report (record ++ later)) (hr : r ∈ work record) :
    ∃ message body, Handling.message? ⟨report, rest, record⟩ = some message ∧
      message.body = .ok body ∧ body.author.bot = false := by
  have hfull : r ∈ work (record ++ later) := by
    rw [work_append]
    exact List.mem_append_left _ hr
  generalize hrecord : record ++ later = full at h hfull
  cases h with
  | created hhandled =>
    obtain ⟨body, hbody⟩ := hhandled.author_of_work hfull
    exact ⟨_, body, rfl, hbody⟩
  | unchanged | missing => cases hfull
  | edited _ hcomplete hhandled =>
    obtain ⟨body, hbody⟩ := hhandled.author_of_work hfull
    exact ⟨_, body, by simp [Handling.message?, hcomplete], hbody⟩
  | fetched hpartial hhandled =>
    obtain ⟨body, hbody⟩ := hhandled.author_of_work hfull
    cases record with
    | nil => cases hr
    | cons e more =>
      obtain ⟨rfl, -⟩ := List.cons.inj hrecord
      exact ⟨_, body, by simp [Handling.message?, hpartial, Exterior.fetched], hbody⟩

/-! ## § Each report once -/

/-- **Each report is dispatched once.**  After any reports, with anything answered in any order,
there is one handling for each report, and its record is routed, or the beginning of a routed one
while it has not ended; it gives one message to the dispatcher and writes one line at most.  No
handling touches another, for those may stand side by side that may stand alone.  Until the next
report there is an end to the answers, and nothing is left to be answered exactly when all handlings
have ended.  Where the filtering is the dispatcher, it asks something only in the handling of a
message whose author is no bot. -/
theorem routed_once (hworld : Reachable dispatcher reports world) :
    world.map (·.report) = reports ∧
    (∀ h ∈ world, ∃ later, Routed dispatcher h.report (h.record ++ later) ∧
      (h.Ended → later = [])) ∧
    (∀ h ∈ world, (dispatches h.record).length ≤ 1 ∧ (lines h.record).length ≤ 1) ∧
    (∀ reports others, Reachable dispatcher reports others ↔
      others.map (·.report) = reports ∧ ∀ h ∈ others, Reachable dispatcher [h.report] [h]) ∧
    Acc (fun later earlier => Answered earlier later) world ∧
    ((∀ h ∈ world, h.Ended) ↔ ∀ world', ¬ Answered world world') ∧
    (∀ settings, dispatcher = filtering settings → ∀ h ∈ world, ∀ r ∈ work h.record,
      ∃ message body, h.message? = some message ∧ message.body = .ok body ∧
        body.author.bot = false) := by
  have hrouted : ∀ h ∈ world, ∃ later, Routed dispatcher h.report (h.record ++ later) ∧
      (h.Ended → later = []) := by
    intro h hmem
    have hreaches := hworld.sound h hmem
    by_cases hended : h.Ended
    · have hends : (Handling.program dispatcher h.report).EndsWith h.record () := by
        rw [EndsWith, ← show h.rest = .done () from hended]
        exact hreaches
      refine ⟨[], ?_, fun _ => rfl⟩
      rw [List.append_nil]
      exact endsWith_program.mp hends
    · obtain ⟨later, a, hends⟩ := exists_endsWith h.rest
      exact ⟨later, endsWith_program.mp (hreaches.trans hends), fun h => absurd h hended⟩
  refine ⟨hworld.reports_eq, hrouted, fun h hmem => ?_, fun reports others => reachable_iff,
    wellFounded_answered.apply world, forall_ended_iff, ?_⟩
  · obtain ⟨later, hlater, -⟩ := hrouted h hmem
    have hcounts := hlater.counts
    simp only [dispatches_append, lines_append, List.length_append] at hcounts
    omega
  · rintro settings rfl h hmem r hr
    obtain ⟨later, hlater, -⟩ := hrouted h hmem
    exact hlater.author_of_work hr

/-- What a user writes in a channel, with a picture. -/
def spamBody : MessageBody where
  channelId := Text.ofString "2002"
  guildId := some (Text.ofString "guild-1")
  place := .channel (Text.ofString "general")
  author := ⟨Text.ofString "1001", [], none, false⟩
  content := Text.ofString "spam"
  url := Text.ofString "https://chat.example/3003"
  embeds := []
  attachments := [⟨Text.ofString "https://cdn.example/1.png", some (Text.ofString "1.png")⟩]

/-- What a bot says in private. -/
def greetingBody : MessageBody where
  channelId := Text.ofString "2003"
  guildId := none
  place := .direct
  author := ⟨Text.ofString "1002", [], none, true⟩
  content := Text.ofString "spam"
  url := []
  embeds := []
  attachments := []

/-- A user and a bot write the same, and an edit of the bot is reported in part when its message is
gone already: the dispatcher is at work on the message of the user alone. -/
theorem routed_once_bot :
    let settings := Dispatch.toWebhook
    let catalogue := Dispatch.tokens [Dispatch.spamFilter []]
    let written : Message := ⟨Text.ofString "3003", false, some spamBody.content, .ok spamBody⟩
    let greeting : Message :=
      ⟨Text.ofString "3004", false, some greetingBody.content, .ok greetingBody⟩
    let gone : Message := ⟨greeting.id, true, none, .error (.failure [])⟩
    let fromUser : Incoming :=
      ⟨.message, ⟨Text.ofString "1001", [], none, false⟩,
        ⟨Text.ofString "2002", Text.ofString "general", some (Text.ofString "guild-1")⟩,
        Text.ofString "spam", some ⟨Text.ofString "3003", Text.ofString "https://chat.example/3003"⟩,
        [⟨some (Text.ofString "https://cdn.example/1.png"), some (Text.ofString "1.png"), none⟩]⟩
    let fromBot : Incoming :=
      ⟨.message, ⟨Text.ofString "1002", [], none, true⟩,
        ⟨Text.ofString "2003", Text.ofString "DM", none⟩,
        Text.ofString "spam", some ⟨Text.ofString "3004", []⟩, []⟩
    let atUser := (Program.play Dispatch.closedToMessages
      (filtering settings catalogue fromUser) []).2
    let world : List Handling :=
      [⟨.created written, .done (), dispatched fromUser catalogue :: atUser.map atWork⟩,
        ⟨.created greeting, .done (), [dispatched fromBot catalogue]⟩,
        ⟨.edited greeting gone, .done (),
          [fetched gone (.error (.failure [])), line (.fetchFailed (.failure []) gone.id)]⟩]
    Reachable (filtering settings) [.created written, .created greeting, .edited greeting gone]
        world ∧
      (∀ h ∈ world, h.Ended) ∧
      (∀ h ∈ world, Routed (filtering settings) h.report h.record) ∧
      world.map (fun h => (work h.record).length) = [10, 0, 0] ∧
      (∀ h ∈ world, ∀ r ∈ work h.record, ∃ message body, h.message? = some message ∧
        message.body = .ok body ∧ body.author.bot = false) ∧
      ∀ world', ¬ Answered world world' := by
  intro settings catalogue written greeting gone fromUser fromBot atUser world
  have huser : (filtering settings catalogue fromUser).EndsWith atUser (.ok ()) := by
    obtain ⟨record, hrecord, hends⟩ :=
      endsWith_play Dispatch.closedToMessages (filtering settings catalogue fromUser) []
    have hok : (Program.play Dispatch.closedToMessages (filtering settings catalogue fromUser) []).1 =
        .ok () := by
      decide +kernel
    rw [hok] at hends
    rwa [show atUser = record from hrecord]
  have hbot : Handled (filtering settings) greeting .message
      (dispatched fromBot catalogue :: ([] : Conversation Moderation).map atWork) := by
    refine .resolved rfl (carried_iff.mpr rfl) ?_
    rw [filtering_of_bot rfl]
    exact .refl _
  have hsound : ∀ h ∈ world, h.Sound (filtering settings) := by
    simp only [world, List.forall_mem_cons]
    exact ⟨endsWith_program.mpr (.created (.resolved rfl (carried_iff.mpr rfl) huser)),
      endsWith_program.mpr (.created hbot), endsWith_program.mpr (.missing rfl), by simp⟩
  have hworld : Reachable (filtering settings) _ world := reachable_of_sound hsound
  have hended : ∀ h ∈ world, h.Ended := by simp [world, Handling.Ended]
  obtain ⟨-, hrouted, -, -, -, hquiet, hbots⟩ := routed_once hworld
  refine ⟨hworld, hended, fun h hmem => ?_, ?_, hbots settings rfl, hquiet.mp hended⟩
  · obtain ⟨later, hlater, hnothing⟩ := hrouted h hmem
    rwa [hnothing (hended h hmem), List.append_nil] at hlater
  · decide +kernel

end ChatModeration.Discord
