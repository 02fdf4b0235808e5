/-
ChatModeration.Proofs.InboundHandlings — reports that are handled side by side.

Every message that Discord reports is handled by a program of its own, and
nobody waits for one handling to end before the next begins: between two reports
any of the handlings may get answers to what it has asked.  The dispatcher takes
part with a program for each message that it is given, and what it asks is asked
by the handling.

The main statements are `reachable_iff`, by which handlings do not touch each
other, and `wellFounded_answered`: whatever is answered and in whichever order,
all handlings come to their ends.
-/
import ChatModeration.Discord.Inbound
import ChatModeration.Proofs.AnsweredPrograms
import ChatModeration.Registry
import Mathlib.Data.List.Induction

namespace ChatModeration.Discord

/-! ## § Handlings -/

/-- What Discord reports of messages. -/
inductive Report where
  | created (message : Message)
  | edited (before after : Message)

/-- How a report is reacted to. -/
def Report.reaction : Report → Program Inbox Unit
  | created message => Inbound.onCreate message
  | edited before after => Inbound.onUpdate before after

/-- What the dispatcher does with a message, given the filter lists of the moment. -/
abbrev Dispatcher := Catalogue → Incoming → Program Moderation (Except Fault Unit)

/-- What is asked while a report is handled. -/
inductive HandlingRequest where
  | fetch (message : Message)
  /-- The dispatcher is given a message and takes the filter lists of the moment. -/
  | dispatch (incoming : Incoming)
  /-- The dispatcher, at work on the message, asks something. -/
  | moderation (request : ModerationRequest)
  | log (event : LogEvent)

abbrev HandlingRequest.Answer : HandlingRequest → Type
  | fetch _ => Except Fault Message
  | dispatch _ => Catalogue
  | moderation r => r.Answer
  | log _ => Unit

def Exterior : Interface := ⟨HandlingRequest, HandlingRequest.Answer⟩

namespace Exterior

def request (r : HandlingRequest) : Program Exterior r.Answer := Program.request (I := Exterior) r

/-- The dispatcher's program as a part of a handling. -/
def within {α : Type} (p : Program Moderation α) : Program Exterior α :=
  p.translate fun r => request (.moderation r)

/-- How the requests of a reaction are met: messages are given to the dispatcher. -/
def meet (dispatcher : Dispatcher) : (r : InboundRequest) → Program Exterior r.Answer
  | .fetch message => request (.fetch message)
  | .dispatch incoming => do
    let catalogue ← request (.dispatch incoming)
    within (dispatcher catalogue incoming)
  | .log event => request (.log event)

end Exterior

/-- The handling of a report. -/
structure Handling where
  report : Report
  /-- What is still to be done. -/
  rest : Program Exterior Unit
  /-- What has been asked, with the answers. -/
  record : Conversation Exterior

namespace Handling

/-- The program that handles a report. -/
def program (dispatcher : Dispatcher) (report : Report) : Program Exterior Unit :=
  report.reaction.translate (Exterior.meet dispatcher)

def start (dispatcher : Dispatcher) (report : Report) : Handling :=
  ⟨report, program dispatcher report, []⟩

def Ended (h : Handling) : Prop := h.rest = .done ()

/-- The handling gets an answer to what it has asked. -/
inductive Answered : Handling → Handling → Prop
  | answer {report : Report} {r : HandlingRequest} {next : r.Answer → Program Exterior Unit}
      {record : Conversation Exterior} (answer : r.Answer) :
      Answered ⟨report, .ask r next, record⟩ ⟨report, next answer, record ++ [⟨r, answer⟩]⟩

end Handling

/-! ## § Arrivals and answers -/

/-- One of the handlings gets an answer. -/
inductive Answered : List Handling → List Handling → Prop
  | here {h h' : Handling} (step : h.Answered h') (others : List Handling) :
      Answered (h :: others) (h' :: others)
  | later (h : Handling) {world world' : List Handling} (step : Answered world world') :
      Answered (h :: world) (h :: world')

/-- The handlings that there may be when the reports have arrived in this order, and each handling
has been answered any number of times meanwhile. -/
inductive Reachable (dispatcher : Dispatcher) : List Report → List Handling → Prop
  | none : Reachable dispatcher [] []
  | arrive {reports : List Report} {world : List Handling}
      (hworld : Reachable dispatcher reports world) (report : Report) :
      Reachable dispatcher (reports ++ [report]) (world ++ [Handling.start dispatcher report])
  | answer {reports : List Report} {world world' : List Handling}
      (hworld : Reachable dispatcher reports world) (step : Answered world world') :
      Reachable dispatcher reports world'

variable {dispatcher : Dispatcher} {reports : List Report} {world world' : List Handling}
  {h h' : Handling}

/-! ## § Each handling by itself -/

/-- A handling has come to where it is by its own program. -/
def Handling.Sound (dispatcher : Dispatcher) (h : Handling) : Prop :=
  (program dispatcher h.report).Reaches h.record h.rest

theorem Handling.Answered.sound (step : h.Answered h') (hs : h.Sound dispatcher) :
    h'.Sound dispatcher := by
  cases step with
  | answer answer => exact Program.Reaches.answer hs answer

theorem Answered.sound (step : Answered world world') (hs : ∀ h ∈ world, h.Sound dispatcher) :
    ∀ h ∈ world', h.Sound dispatcher := by
  induction step with
  | here step others =>
    simp only [List.forall_mem_cons] at hs ⊢
    exact ⟨step.sound hs.1, hs.2⟩
  | later h _ ih =>
    simp only [List.forall_mem_cons] at hs ⊢
    exact ⟨hs.1, ih hs.2⟩

/-- An answer neither drops a report nor repeats one. -/
theorem Answered.reports_eq (step : Answered world world') :
    world'.map (·.report) = world.map (·.report) := by
  induction step with
  | here step others =>
    cases step
    rfl
  | later h _ ih => rw [List.map_cons, ih, List.map_cons]

theorem Reachable.reports_eq (hworld : Reachable dispatcher reports world) :
    world.map (·.report) = reports := by
  induction hworld with
  | none => rfl
  | arrive _ report ih =>
    rw [List.map_append, ih]
    rfl
  | answer _ step ih => rw [step.reports_eq, ih]

theorem Reachable.sound (hworld : Reachable dispatcher reports world) :
    ∀ h ∈ world, h.Sound dispatcher := by
  induction hworld with
  | none => simp
  | arrive _ report ih => simpa [or_imp, forall_and] using ⟨ih, Program.Reaches.refl _⟩
  | answer _ step ih => exact step.sound ih

/-- What a handling can do is not changed by others in front of it. -/
theorem Answered.append_left (step : Answered world world') (front : List Handling) :
    Answered (front ++ world) (front ++ world') := by
  induction front with
  | nil => exact step
  | cons h front ih => exact .later h ih

/-- The last handling goes on by its program while the others wait. -/
theorem Reachable.reaches {p q : Program Exterior Unit} {record : Conversation Exterior}
    {report : Report} {past : Conversation Exterior}
    (hworld : Reachable dispatcher reports (world ++ [⟨report, p, past⟩]))
    (hreaches : p.Reaches record q) :
    Reachable dispatcher reports (world ++ [⟨report, q, past ++ record⟩]) := by
  induction hreaches generalizing past with
  | refl p => rwa [List.append_nil]
  | @ask r next record q answer _ ih =>
    have hlast : Answered [⟨report, .ask r next, past⟩]
        [⟨report, next answer, past ++ [⟨r, answer⟩]⟩] := .here (.answer answer) []
    have hrest := ih (hworld.answer (hlast.append_left world))
    rwa [List.append_assoc] at hrest

theorem reachable_of_sound (hsound : ∀ h ∈ world, h.Sound dispatcher) :
    Reachable dispatcher (world.map (·.report)) world := by
  -- each handling goes all its way before the next report arrives
  induction world using List.reverseRecOn with
  | nil => exact .none
  | append_singleton world h ih =>
    obtain ⟨hworld, hlast⟩ := List.forall_mem_append.mp hsound
    have hreaches : h.Sound dispatcher := hlast h (List.mem_singleton_self h)
    rw [List.map_append]
    exact ((ih hworld).arrive h.report).reaches hreaches

/-- Handlings do not touch each other: after some reports they may stand side by side exactly when
there is one for each report and each may stand alone. -/
theorem reachable_iff : Reachable dispatcher reports world ↔
    world.map (·.report) = reports ∧ ∀ h ∈ world, Reachable dispatcher [h.report] [h] := by
  constructor
  · intro hworld
    refine ⟨hworld.reports_eq, fun h hmem => ?_⟩
    have hsound : ∀ k ∈ [h], k.Sound dispatcher := by simpa using hworld.sound h hmem
    exact reachable_of_sound hsound
  · rintro ⟨rfl, halone⟩
    exact reachable_of_sound fun h hmem => (halone h hmem).sound h (by simp)

/-! ## § Ends -/

/-- A handling cannot be answered without end. -/
theorem Handling.acc_answered (h : Handling) :
    Acc (fun later earlier => Handling.Answered earlier later) h := by
  obtain ⟨report, rest, record⟩ := h
  induction rest generalizing record with
  | done a => exact ⟨_, fun h' step => nomatch step⟩
  | ask r next ih =>
    refine ⟨_, fun h' step => ?_⟩
    cases step with
    | answer answer => exact ih answer _

/-- Each answer takes the first handling further, or one of the others. -/
theorem acc_cons (hfirst : Acc (fun later earlier => Handling.Answered earlier later) h)
    (hothers : Acc (fun later earlier => Answered earlier later) world) :
    Acc (fun later earlier => Answered earlier later) (h :: world) := by
  induction hfirst generalizing world with
  | intro h _ ihfirst =>
    induction hothers with
    | intro world hacc ihothers =>
      refine ⟨_, fun world' step => ?_⟩
      cases step with
      | here step => exact ihfirst _ step ⟨_, hacc⟩
      | later _ step => exact ihothers _ step

/-- Without further reports there is an end to the answers, in whichever order they come. -/
theorem wellFounded_answered : WellFounded fun later earlier => Answered earlier later := by
  refine ⟨fun world => ?_⟩
  induction world with
  | nil => exact ⟨_, fun world' step => nomatch step⟩
  | cons h world ih => exact acc_cons h.acc_answered ih

/-- Whatever is asked, some answer can be given. -/
instance (r : Exterior.Request) : Nonempty (Exterior.Answer r) :=
  match r with
  | .fetch _ => ⟨(.error (.failure []) : Except Fault Message)⟩
  | .dispatch _ => ⟨Catalogue.empty⟩
  | .moderation (.platform (.mention _)) => ⟨(.ok [] : Except Fault Text)⟩
  | .moderation (.platform (.sendDirectMessage ..)) => ⟨(.ok .sent : Except Fault Delivery)⟩
  | .moderation (.platform (.sendToChannel ..)) => ⟨(.ok () : Except Fault Unit)⟩
  | .moderation (.platform (.issueInfraction _)) => ⟨(.ok () : Except Fault Unit)⟩
  | .moderation (.platform (.forceRename _)) => ⟨(.ok () : Except Fault Unit)⟩
  | .moderation (.platform (.sendAlert ..)) => ⟨(.ok () : Except Fault Unit)⟩
  | .moderation (.log _) => ⟨(.ok () : Except Fault Unit)⟩
  | .moderation .clock => ⟨(0 : Number)⟩
  | .log _ => ⟨()⟩

/-- A handling that has not ended can be answered. -/
theorem Handling.exists_answered (h : Handling) (hgoing : ¬ h.Ended) : ∃ h', h.Answered h' := by
  obtain ⟨report, rest, record⟩ := h
  cases rest with
  | done a => exact absurd rfl hgoing
  | ask r next =>
    obtain ⟨answer⟩ : Nonempty (Exterior.Answer r) := inferInstance
    exact ⟨_, .answer answer⟩

/-- Nothing is left to be answered exactly when all handlings have ended. -/
theorem forall_ended_iff : (∀ h ∈ world, h.Ended) ↔ ∀ world', ¬ Answered world world' := by
  constructor
  · intro hended world' step
    induction step with
    | here step others =>
      obtain ⟨hfirst, -⟩ := List.forall_mem_cons.mp hended
      cases step
      exact nomatch hfirst
    | later h _ ih => exact ih (List.forall_mem_cons.mp hended).2
  · intro hquiet
    induction world with
    | nil => simp
    | cons h world ih =>
      refine List.forall_mem_cons.mpr ⟨?_, ih fun world' step => hquiet _ (.later h step)⟩
      by_contra hgoing
      obtain ⟨h', step⟩ := h.exists_answered hgoing
      exact hquiet _ (.here step world)

end ChatModeration.Discord
