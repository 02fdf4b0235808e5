/-
ChatModeration.Proofs.Measures — what a measure on Discord comes to.

A measure is several calls long: the member is found, the measure is taken, and
a message in a channel confirms it.  Any of them can fail, and the first that
does ends the measure.  So the calls that went through are an initial part of a
plan (`Plan`, and `confirming` after it), and the measure as a whole went
through exactly when its last call did, which is the confirmation.
-/
import ChatModeration.Discord.Enforcement
import ChatModeration.Proofs.Relay

namespace ChatModeration.Discord

/-! ## § Calls that went through -/

/-- Whether a call does something to a member. -/
def Call.enforces : Call → Bool
  | .ban .. | .kick .. | .timeout .. | .setNickname .. | .disconnect .. => true
  | _ => false

/-- The call that an exchange is, if it went through. -/
def succeeded? : Exchange Client → Option Call
  | ⟨.call c, .ok _⟩ => some c
  | _ => none

/-- The calls that went through, in order. -/
def succeeded (record : Conversation Client) : List Call := record.filterMap succeeded?

@[simp] theorem succeeded_append (record later : Conversation Client) :
    succeeded (record ++ later) = succeeded record ++ succeeded later := List.filterMap_append

theorem succeeded_ok (c : Call) (a : c.Result) : succeeded [⟨.call c, .ok a⟩] = [c] := rfl

theorem succeeded_error (c : Call) (fault : Fault) :
    succeeded [⟨.call c, .error fault⟩] = [] := rfl

/-- What holds of all calls that were made holds of those that went through. -/
theorem succeeded_of_asked {P : Call → Prop} {record : Conversation Client}
    (h : ∀ e ∈ record, ∀ c, e.request = .call c → P c) : ∀ c ∈ succeeded record, P c := by
  intro c hc
  obtain ⟨⟨r, answer⟩, he, hsome⟩ := List.mem_filterMap.mp hc
  refine h _ he c ?_
  unfold succeeded? at hsome
  split at hsome
  · rename_i heq
    cases heq
    cases hsome
    rfl
  · cases hsome

/-- Whether a message reached a channel. -/
def Delivered (channel : Channel) (calls : List Call) : Prop :=
  ∃ message, .sendToChannel channel.id message ∈ calls

/-- Something that is done to a member, and the channel in which it is confirmed. -/
structure Measure where
  infraction : Infraction
  reason : Text
  channel : Channel

/-- The calls of a measure when nothing fails, from finding the member to taking the measure. -/
inductive Plan (server : Server) (member reason : Text) : Infraction → List Call → Prop where
  | ban : Plan server member reason .ban [.fetchGuild server.guild, .ban member reason]
  | kick : Plan server member reason .kick
      [.fetchGuild server.guild, .fetchMember member, .kick member reason]
  | mute (milliseconds : Number) : Plan server member reason .mute
      [.fetchGuild server.guild, .fetchMember member, .timeout member milliseconds reason]
  | voiceBan : Plan server member reason .voiceBan
      [.fetchGuild server.guild, .fetchMember member, .disconnect member reason]
  /-- A member who is not in voice is left alone. -/
  | notInVoice : Plan server member reason .voiceBan
      [.fetchGuild server.guild, .fetchMember member]
  | superstar : Plan server member reason .superstar
      [.fetchGuild server.guild, .fetchMember member,
        .setNickname member superstarNickname (if reason = [] then none else some reason)]
  | warning : Plan server member reason .warning []
  | watch : Plan server member reason .watch []
  | note : Plan server member reason .note []

/-- The calls of a confirmation when nothing fails. -/
def confirming (channel : Channel) (message : Payload) : List Call :=
  [.fetchChannel channel.id, .sendToChannel channel.id message]

/-- The calls that went through for a measure, if there is one: an initial part of a plan for it,
which ends with its confirmation. -/
inductive Pursued (server : Server) (member : Text) : Option Measure → List Call → Prop where
  | nothing : Pursued server member none []
  | partly {m : Measure} {calls plan : List Call} {message : Payload}
      (hplan : Plan server member m.reason m.infraction plan)
      (hcalls : calls <+: plan ++ confirming m.channel message) :
      Pursued server member (some m) calls

theorem Plan.not_delivered {server : Server} {member reason : Text} {infraction : Infraction}
    {plan : List Call} (h : Plan server member reason infraction plan) (channel : Channel) :
    ¬ Delivered channel plan := by
  rintro ⟨message, hmem⟩
  cases h <;> simp at hmem

/-- The confirmation arrives when the plan is carried out to its end. -/
theorem Plan.delivered_iff {server : Server} {member reason : Text} {infraction : Infraction}
    {plan calls : List Call} (h : Plan server member reason infraction plan) {channel : Channel}
    {message : Payload} (hcalls : calls <+: plan ++ confirming channel message) :
    Delivered channel calls ↔ calls = plan ++ confirming channel message := by
  constructor
  · rintro ⟨sent, hmem⟩
    have hconcat : plan ++ confirming channel message =
        (plan ++ [.fetchChannel channel.id]) ++ [.sendToChannel channel.id message] := by
      simp [confirming]
    rw [hconcat] at hcalls ⊢
    -- otherwise the last call is missing, and no other one is a message
    refine (List.prefix_concat_iff.mp hcalls).resolve_right fun hshort => ?_
    exact h.not_delivered channel ⟨sent, by simpa using hshort.subset hmem⟩
  · rintro rfl
    exact ⟨message, by simp [confirming]⟩

/-! ## § Sequences of calls -/

namespace Calls

variable {α β : Type} {s : Surroundings Client} {past : Conversation Client}

def play (s : Surroundings Client) (calls : Calls α) (past : Conversation Client) :
    Except Fault α × Conversation Client :=
  Program.play s calls.run past

/-- A sequence ends with its first part when that one fails. -/
theorem play_bind (calls : Calls α) (f : α → Calls β) :
    (calls >>= f).play s past =
      match calls.play s past with
      | (.ok a, past) => (f a).play s past
      | (.error fault, past) => (.error fault, past) := by
  have h : (calls >>= f).play s past = Program.play s (calls.run.bind fun out =>
      match out with
      | .ok a => (f a).run
      | .error fault => .done (.error fault)) past := by
    refine congrArg (fun f => Program.play s (calls.run.bind f) past) (funext fun out => ?_)
    cases out <;> rfl
  rw [h, Program.play_bind]
  unfold play
  generalize Program.play s calls.run past = out
  obtain ⟨outcome, past⟩ := out
  cases outcome <;> rfl

theorem asks_call {P : ClientRequest → Prop} {c : Call} (h : P (.call c)) : (call c).run.Asks P :=
  ⟨h, fun _ => trivial⟩

/-- The requests of a sequence are those of its parts. -/
theorem asks_bind {P : ClientRequest → Prop} {calls : Calls α} {f : α → Calls β}
    (h : calls.run.Asks P) (hf : ∀ a, (f a).run.Asks P) : (calls >>= f).run.Asks P := by
  refine h.bind fun out => ?_
  cases out with
  | error fault => trivial
  | ok a => exact hf a

/-- Whatever fails, the calls that go through are an initial part of a plan, and the sequence goes
through exactly when they are all of it. -/
def Does (plans : List Call → Prop) (calls : Calls α) : Prop :=
  ∀ s past, ∃ out made plan, calls.play s past = (out, past ++ made) ∧ plans plan ∧
    succeeded made <+: plan ∧ ((∃ a, out = .ok a) ↔ succeeded made = plan)

theorem does_pure (a : α) : (pure a : Calls α).Does (· = []) :=
  fun _ past => ⟨.ok a, [], [], congrArg (Prod.mk _) (List.append_nil past).symm, rfl,
    List.prefix_rfl, by simp [succeeded]⟩

theorem does_throw (fault : Fault) (c : Call) : (throw fault : Calls α).Does (· = [c]) :=
  fun _ past => ⟨.error fault, [], [c], congrArg (Prod.mk _) (List.append_nil past).symm, rfl,
    List.nil_prefix, by simp [succeeded]⟩

theorem does_clock : clock.Does (· = []) :=
  fun s past => ⟨.ok (s past .clock), [⟨.clock, s past .clock⟩], [], rfl, rfl, List.prefix_rfl,
    ⟨fun _ => rfl, fun _ => ⟨_, rfl⟩⟩⟩

theorem does_call (c : Call) : (call c).Does (· = [c]) := by
  intro s past
  have hplay : (call c).play s past =
      (s past (.call c), past ++ [⟨.call c, s past (.call c)⟩]) := rfl
  refine ⟨_, _, [c], hplay, rfl, ?_⟩
  cases s past (.call c) with
  | error fault =>
    rw [succeeded_error]
    exact ⟨List.nil_prefix, by simp⟩
  | ok a =>
    rw [succeeded_ok]
    exact ⟨List.prefix_rfl, by simp⟩

theorem Does.mono {plans plans' : List Call → Prop} {calls : Calls α} (h : calls.Does plans)
    (hplans : ∀ plan, plans plan → plans' plan) : calls.Does plans' := by
  intro s past
  obtain ⟨out, made, plan, hplay, hplan, hmade, hout⟩ := h s past
  exact ⟨out, made, plan, hplay, hplans plan hplan, hmade, hout⟩

/-- A sequence pursues one plan after the other. -/
theorem Does.bind {plans plans' : List Call → Prop} {calls : Calls α} {f : α → Calls β}
    (h : calls.Does plans) (hf : ∀ a, (f a).Does plans') (hplans' : ∃ later, plans' later) :
    (calls >>= f).Does fun plan =>
      ∃ first later, plans first ∧ plans' later ∧ plan = first ++ later := by
  intro s past
  obtain ⟨out, made, first, hplay, hfirst, hmade, hout⟩ := h s past
  rw [play_bind, hplay]
  cases out with
  | error fault =>
    obtain ⟨later, hlater⟩ := hplans'
    refine ⟨.error fault, made, first ++ later, rfl, ⟨first, later, hfirst, hlater, rfl⟩,
      hmade.trans (List.prefix_append _ _), ?_⟩
    have hshort : succeeded made ≠ first := fun heq => by simpa using hout.mpr heq
    refine iff_of_false (by simp) fun heq => hshort ?_
    have hlength : (first ++ later).length ≤ first.length := heq ▸ hmade.length_le
    exact hmade.eq_of_length_le (by rw [heq, List.length_append]; omega)
  | ok a =>
    obtain ⟨out', made', later, hplay', hlater, hmade', hout'⟩ := hf a s (past ++ made)
    have hwhole : succeeded made = first := hout.mp ⟨a, rfl⟩
    refine ⟨out', made ++ made', first ++ later, ?_, ⟨first, later, hfirst, hlater, rfl⟩, ?_, ?_⟩
    · rw [← List.append_assoc]
      exact hplay'
    · rw [succeeded_append, hwhole]
      exact (List.prefix_append_right_inj first).mpr hmade'
    · rw [succeeded_append, hwhole, List.append_cancel_left_eq]
      exact hout'

/-- A sequence with but one plan. -/
theorem Does.andThen {first later : List Call} {calls : Calls α} {f : α → Calls β}
    (h : calls.Does (· = first)) (hf : ∀ a, (f a).Does (· = later)) :
    (calls >>= f).Does (· = first ++ later) := by
  refine (h.bind hf ⟨later, rfl⟩).mono ?_
  rintro _ ⟨_, _, rfl, rfl, rfl⟩
  rfl

end Calls

/-! ## § Measures -/

section Measures

open Calls

theorem does_sendToChannel (channel : Channel) (content : Text) :
    (sendToChannel channel content none).Does
      (· = confirming channel ⟨none, some content, []⟩) := by
  refine (does_call (.fetchChannel channel.id)).andThen fun state => ?_
  cases state with
  | sendable => exact does_call _
  | unsendable => exact does_throw _ _
  | missing => exact does_throw _ _

theorem does_fetchMember (server : Server) (user : Text) :
    (fetchMember server user).Does (· = [.fetchGuild server.guild, .fetchMember user]) :=
  (does_call _).andThen fun _ => does_call _

theorem does_enforce (server : Server) (r : InfractionRequest) (hnone : r.infraction ≠ .none)
    (hstar : r.infraction ≠ .superstar) :
    (enforce server r).Does (Plan server r.actor.id r.reason r.infraction) := by
  have hmember (c : Call) : (do
      let _ ← fetchMember server r.actor.id
      call c : Calls c.Result).Does
        (· = [.fetchGuild server.guild, .fetchMember r.actor.id, c]) :=
    (does_fetchMember _ _).andThen fun _ => does_call c
  unfold enforce
  cases hinfraction : r.infraction with
  | none => exact absurd hinfraction hnone
  | superstar => exact absurd hinfraction hstar
  | ban => exact ((does_call _).andThen fun _ => does_call _).mono fun _ h => h ▸ .ban
  | kick => exact (hmember _).mono fun _ h => h ▸ .kick
  | mute =>
    have htimeout (milliseconds : Number) :=
      (hmember (.timeout r.actor.id milliseconds r.reason)).mono
        fun _ (h : _ = _) => h ▸ Plan.mute milliseconds
    cases r.expiresAt with
    | none => exact htimeout maxTimeout
    | some moment =>
      refine (does_clock.bind (fun now => htimeout (timeoutUntil moment now)) ⟨_, .mute 0⟩).mono ?_
      rintro _ ⟨_, _, rfl, hplan, rfl⟩
      exact hplan
  | voiceBan =>
    have hdisconnect (inVoice : Bool) :
        (if inVoice then call (.disconnect r.actor.id r.reason) else pure () : Calls Unit).Does
          fun plan => plan = [.disconnect r.actor.id r.reason] ∨ plan = [] := by
      cases inVoice with
      | false => exact (does_pure ()).mono fun _ => Or.inr
      | true => exact (does_call _).mono fun _ => Or.inl
    refine ((does_fetchMember _ _).bind hdisconnect ⟨_, Or.inr rfl⟩).mono ?_
    rintro _ ⟨_, _, rfl, rfl | rfl, rfl⟩
    · exact .voiceBan
    · exact .notInVoice
  | warning => exact (does_pure ()).mono fun _ h => h ▸ .warning
  | watch => exact (does_pure ()).mono fun _ h => h ▸ .watch
  | note => exact (does_pure ()).mono fun _ h => h ▸ .note

/-- What a measure came to, and the calls that went through for it. -/
structure Measured (server : Server) (member : Text) (m : Measure) (out : Except Fault Unit)
    (calls : List Call) : Prop where
  pursued : Pursued server member (some m) calls
  delivered_iff : out = .ok () ↔ Delivered m.channel calls

/-- A measure with its confirmation. -/
theorem measured_of_does {server : Server} {member : Text} {m : Measure} {measure : Calls Unit}
    (h : measure.Does (Plan server member m.reason m.infraction)) (content : Text)
    (s : Surroundings Client) (past : Conversation Client) :
    ∃ out made, (measure >>= fun _ => sendToChannel m.channel content none).play s past =
        (out, past ++ made) ∧
      Measured server member m out (succeeded made) := by
  obtain ⟨out, made, _, hplay, ⟨plan, _, hplan, rfl, rfl⟩, hmade, hout⟩ :=
    h.bind (fun _ => does_sendToChannel m.channel content) ⟨_, rfl⟩ s past
  refine ⟨out, made, hplay, .partly hplan hmade, ?_⟩
  rw [hplan.delivered_iff hmade, ← hout]
  exact ⟨fun h => ⟨(), h⟩, fun ⟨_, h⟩ => h⟩

theorem play_forceRename (server : Server) (r : RenameRequest) (s : Surroundings Client)
    (past : Conversation Client) :
    ∃ out made, (forceRename server r).play s past = (out, past ++ made) ∧
      Measured server r.actor.id ⟨.superstar, r.reason, r.channel⟩ out (succeeded made) := by
  have hrename : (do
      let _ ← fetchMember server r.actor.id
      call (.setNickname r.actor.id superstarNickname
        (if r.reason = [] then none else some r.reason)) : Calls Unit).Does
        (Plan server r.actor.id r.reason .superstar) :=
    ((does_fetchMember _ _).andThen fun _ => does_call _).mono fun _ h => h ▸ .superstar
  obtain ⟨out, made, hplay, hmeasured⟩ :=
    measured_of_does (m := ⟨.superstar, r.reason, r.channel⟩) hrename (renameConfirmation r) s past
  refine ⟨out, made, ?_, hmeasured⟩
  rw [← hplay, bind_assoc]
  rfl

theorem play_issueInfraction (server : Server) (r : InfractionRequest)
    (hnone : r.infraction ≠ .none) (s : Surroundings Client) (past : Conversation Client) :
    ∃ out made, (issueInfraction server r).play s past = (out, past ++ made) ∧
      Measured server r.actor.id ⟨r.infraction, r.reason, r.replyChannel⟩ out
        (succeeded made) := by
  unfold issueInfraction
  split
  · rename_i hstar
    rw [hstar]
    exact play_forceRename server ⟨r.actor, r.expiresAt, r.reason, r.replyChannel⟩ s past
  · rename_i hstar
    exact measured_of_does (m := ⟨r.infraction, r.reason, r.replyChannel⟩)
      (does_enforce server r hnone hstar) _ s past

end Measures

end ChatModeration.Discord
