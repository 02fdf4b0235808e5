/-
ChatModeration.Proofs.TimeoutBounds — the timeouts that Discord is asked for.

A mute lasts until a moment, and what is left until then is cut to what Discord
accepts.  A mute has no upper bound, but moments have one: when the mute would
end after the farthest moment there is no such moment, nothing can be said about
what is left, and cutting it does not help (`timeoutFor_eq`).

The main statement is `timeout_legal_iff`: a mute asks for one timeout, and it
is the one that is due, or none that Discord accepts.
-/
import ChatModeration.Proofs.BackedReports
import ChatModeration.Proofs.ReportedSanctions
import ChatModeration.Proofs.ValidLists
import ChatModeration.Proofs.WholeNumbers

namespace ChatModeration.Discord

/-! ## § Timeouts -/

/-- A timeout that a member was to get. -/
structure Timeout where
  member : Text
  milliseconds : Number
  reason : Text
deriving DecidableEq

/-- The timeout that an exchange asks for. -/
def timeout? : Exchange Client → Option Timeout
  | ⟨.call (.timeout member milliseconds reason), _⟩ => some ⟨member, milliseconds, reason⟩
  | _ => none

/-- The timeouts that were asked for, in order. -/
def timeouts (record : Conversation Client) : List Timeout := record.filterMap timeout?

/-- A request for something else than a timeout. -/
def Untimed (r : ClientRequest) : Prop :=
  ∀ member milliseconds reason, r ≠ .call (.timeout member milliseconds reason)

/-- Whether an exchange is about a line that could not be written to the log. -/
def logFails : Exchange Client → Bool
  | ⟨.log _, .error _⟩ => true
  | _ => false

/-- Some line could not be written to the log. -/
def LogFailed (record : Conversation Client) : Prop := ∃ e ∈ record, logFails e = true

instance (record : Conversation Client) : Decidable (LogFailed record) :=
  inferInstanceAs (Decidable (∃ e ∈ record, logFails e = true))

theorem LogFailed.of_append_right {later : Conversation Client} (h : LogFailed later)
    (record : Conversation Client) : LogFailed (record ++ later) := by
  obtain ⟨e, hmem, hfails⟩ := h
  exact ⟨e, List.mem_append_right record hmem, hfails⟩

@[simp] theorem timeouts_append (record later : Conversation Client) :
    timeouts (record ++ later) = timeouts record ++ timeouts later := List.filterMap_append

theorem timeouts_eq_nil {record : Conversation Client} (h : ∀ e ∈ record, Untimed e.request) :
    timeouts record = [] := by
  refine List.filterMap_eq_nil_iff.mpr fun e he => ?_
  unfold timeout?
  split
  · exact absurd rfl (h _ he _ _ _)
  · rfl

theorem untimed_of_harmless {r : ClientRequest} (h : Harmless r) : Untimed r := by
  rintro member milliseconds reason rfl
  exact absurd (h _ rfl) (by simp [Call.enforces])

/-! ## § What is asked for -/

/-- The timeout for a mute that lasts until a moment, or for good. -/
def timeoutFor (expiresAt : Option Instant) (now : Number) : Number :=
  match expiresAt with
  | none => maxTimeout
  | some moment => timeoutUntil moment now

/-- A timeout that Discord accepts: whole milliseconds, and no more than 28 days. -/
def Legal (milliseconds : Number) : Prop :=
  ∃ n : Int, milliseconds = .finite n ∧ 0 ≤ n ∧ n ≤ 2419200000

/-- A duration is permanent, or a whole number of seconds. -/
inductive Lasts : Option Number → Option Int → Prop where
  | forever : Lasts none none
  | seconds {d : Number} {k : Int} (h : d.toInt? = some k) : Lasts (some d) (some k)

/-- The milliseconds of the timeout for a mute of some seconds, or for a permanent one. -/
def due : Option Int → Int
  | none => 2419200000
  | some k => if 28 * 24 * 60 * 60 ≤ k then 2419200000 else k * 1000

/-- What starts at a moment is over by the farthest moment, or never. -/
def EndsInTime (moment : Int) : Option Int → Prop
  | none => True
  | some k => moment + k * 1000 ≤ Instant.farthest

instance (moment : Int) (seconds : Option Int) : Decidable (EndsInTime moment seconds) :=
  match seconds with
  | none => inferInstanceAs (Decidable True)
  | some _ => inferInstanceAs (Decidable (_ ≤ _))

variable {now : Number} {moment : Int} {duration : Option Number} {seconds : Option Int}

theorem legal_due (h : ∀ k ∈ seconds, 0 ≤ k) : Legal (.finite (due seconds)) := by
  refine ⟨due seconds, rfl, ?_⟩
  cases seconds with
  | none => decide
  | some k =>
    have hk : 0 ≤ k := h k rfl
    unfold due
    dsimp only
    split <;> omega

theorem not_legal_nan : ¬ Legal .nan := fun ⟨_, h, _⟩ => Number.noConfusion h

/-- What is left of a mute that has just begun. -/
theorem timeoutFor_eq (hnow : now.toInt? = some moment) (hmoment : |moment| ≤ Instant.farthest)
    (hduration : Lasts duration seconds) (hseconds : ∀ k ∈ seconds, 0 ≤ k) :
    timeoutFor (duration.map fun d => Instant.ofNumber (now + d * 1000)) now =
      if EndsInTime moment seconds then .finite (due seconds) else .nan := by
  cases hduration with
  | forever => rfl
  | @seconds d k hd =>
    have hk : 0 ≤ k := hseconds k rfl
    show timeoutUntil (Instant.ofNumber (now + d * 1000)) now = _
    rw [Instant.ofNumber_add_seconds hnow hmoment hd hk, timeoutUntil]
    by_cases hend : moment + k * 1000 ≤ Instant.farthest
    · have hleft := Instant.toInt?_since hnow hmoment hk hend
      have hmax : maxTimeout = .finite ((2419200000 : Int) : Rat) := rfl
      have hdue : min (max (k * 1000) 0) 2419200000 = due (some k) := by
        unfold due
        dsimp only
        split <;> omega
      rw [if_pos hend, Number.max_zero hleft, hmax, Number.min_intCast, hdue]
      exact (if_pos hend).symm
    · rw [if_neg hend]
      exact (if_neg hend).symm

/-! ## § Steps without timeouts -/

section Steps

open ChatModeration.Action Calls

variable {server : Server} {ctx : Context} {α β : Type}

/-- An action that leaves the event as it is and does not ask for a timeout. -/
def Quiet (server : Server) (action : Action α) (ctx : Context) : Prop :=
  ∀ record, action.Keeps (answerAll server) (fun _ r => Untimed r)
    (fun _ ctx' _ => ctx'.toIncoming = ctx.toIncoming) ctx record

theorem quiet_bind {action : Action α} {f : α → Action β} (h : Quiet server action ctx)
    (hf : ∀ a ctx', ctx'.toIncoming = ctx.toIncoming → Quiet server (f a) ctx') :
    Quiet server (action >>= f) ctx := by
  intro record
  refine keeps_bind (h record) (fun a ctx' made hsame => ?_) (fun _ _ _ hsame => hsame)
  exact Program.Keeps.mono (hf a ctx' hsame _) fun _ _ hlast => hlast.trans hsame

theorem quiet_ask {r : ModerationRequest} {given : r.Answer → Except Fault α}
    (h : (answerAll server r).Asks Untimed) : Quiet server (ask r given) ctx :=
  fun _ => keeps_ask (h.keeps fun _ _ => rfl)

theorem untimed_forceRename (server : Server) (r : RenameRequest) :
    (forceRename server r).run.Asks Untimed := by
  have hmember : (fetchMember server r.actor.id).run.Asks Untimed :=
    asks_bind (asks_call (by simp [Untimed])) fun _ => asks_call (by simp [Untimed])
  refine asks_bind hmember fun _ => asks_bind (asks_call (by simp [Untimed])) fun _ => ?_
  exact (harmless_sendToChannel _ _ _).mono fun _ => untimed_of_harmless

theorem untimed_answerAll {r : ModerationRequest} (h : ¬ IsMeasure r) :
    (answerAll server r).Asks Untimed :=
  (harmless_answerAll server h).mono fun _ => untimed_of_harmless

/-- Only measures lead to timeouts. -/
theorem quiet_other {r : ModerationRequest} {given : r.Answer → Except Fault α}
    (h : ¬ IsMeasure r) : Quiet server (ask r given) ctx :=
  quiet_ask (untimed_answerAll h)

theorem quiet_describe (word : Text) : Quiet server (modify (·.describe word)) ctx :=
  fun _ => rfl

theorem quiet_tell (ctx after : Context) : Quiet server (Sanction.tell ctx) after := by
  unfold Sanction.tell
  refine quiet_bind (quiet_other (by simp [IsMeasure])) fun mention _ _ => ?_
  refine quiet_bind (quiet_other (by simp [IsMeasure])) fun delivery _ _ => ?_
  split
  · refine quiet_bind (quiet_other (by simp [IsMeasure])) fun _ _ _ => ?_
    refine quiet_bind (quiet_other (by simp [IsMeasure])) fun _ _ _ => ?_
    exact quiet_describe _
  · exact quiet_describe _

theorem quiet_notify (server : Server) (settings : ModerationSettings) (t : Sanction)
    (ctx : Context) : Quiet server (t.notify settings) ctx := by
  intro record
  refine keeps_modify (keeps_get ?_)
  dsimp only
  split
  · exact rfl
  · exact quiet_tell (t.noticed settings ctx) (t.noticed settings ctx) record

theorem quiet_expiry (duration : Option Number) : Quiet server (Sanction.expiry duration) ctx := by
  cases duration with
  | none => exact fun _ => rfl
  | some d =>
    refine quiet_bind (quiet_other (by simp [IsMeasure])) fun moment _ _ => ?_
    exact fun _ => rfl

theorem quiet_rename (star : Superstar) (ctx : Context) :
    Quiet server (Sanction.rename star) ctx := by
  intro record
  refine keeps_get ?_
  refine quiet_bind (quiet_expiry star.duration) (fun moment _ _ => ?_) record
  refine quiet_bind (quiet_ask (untimed_forceRename server _)) fun _ _ _ => ?_
  exact quiet_describe _

/-! ## § Steps that are carried out -/

variable {s : Surroundings Client} {past : Conversation Client}

/-- A step goes through, whatever becomes of what it does, unless the log fails. -/
theorem play_bestEffort (step : SanctionStep) {run : Action Unit} {out : Except Fault Unit}
    {ctx' : Context} {made : Conversation Client}
    (h : (onDiscord server (run.run.run ctx)).play s past = ((out, ctx'), past ++ made)) :
    ∃ out' later, (onDiscord server ((Sanction.bestEffort step run).run.run ctx)).play s past =
        ((out', ctx'), past ++ (made ++ later)) ∧
      timeouts later = [] ∧ (out' = .ok () ∨ LogFailed later) := by
  rw [Sanction.bestEffort, play_onDiscord_tryCatch, h]
  cases out with
  | ok u => exact ⟨.ok (), [], by rw [List.append_nil], rfl, .inl rfl⟩
  | error fault =>
    let line := ClientRequest.log (.stepFailed fault step ctx'.author.id)
    refine ⟨s (past ++ made) line, [⟨line, s (past ++ made) line⟩], ?_, rfl, ?_⟩
    · rw [← List.append_assoc]
      rfl
    · cases s (past ++ made) line with
      | ok u => exact .inl rfl
      | error fault => exact .inr ⟨_, List.mem_singleton_self _, rfl⟩

/-- A quiet step goes through without a timeout. -/
theorem Quiet.play {run : Action Unit} (h : Quiet server run ctx) (step : SanctionStep)
    (s : Surroundings Client) (past : Conversation Client) :
    ∃ out ctx' made, (onDiscord server ((Sanction.bestEffort step run).run.run ctx)).play s past =
        ((out, ctx'), past ++ made) ∧
      ctx'.toIncoming = ctx.toIncoming ∧ timeouts made = [] ∧ (out = .ok () ∨ LogFailed made) := by
  obtain ⟨⟨out, ctx'⟩, made, hplay, hsame, huntimed⟩ := Program.Keeps.play (h []) s past
  obtain ⟨out', later, hplay', hlater, hout⟩ := play_bestEffort step hplay
  have hmade : timeouts made = [] := timeouts_eq_nil fun e he => by
    obtain ⟨before, after, hsplit⟩ := List.append_of_mem he
    exact huntimed before e after hsplit
  refine ⟨out', ctx', made ++ later, hplay', hsame, by rw [timeouts_append, hmade, hlater]; rfl, ?_⟩
  exact hout.imp_right fun hfailed => hfailed.of_append_right made

/-! ## § The mute -/

/-- Surroundings in which every call to the client goes through. -/
def Serves (s : Surroundings Client) : Prop := ∀ past c, ∃ result, s past (.call c) = .ok result

/-- Whatever came before, the sequence goes through, and asks for these timeouts. -/
def Grants (s : Surroundings Client) (calls : Calls α) (given : List Timeout) : Prop :=
  ∀ past, ∃ a made, calls.play s past = (.ok a, past ++ made) ∧ timeouts made = given

theorem grants_call (hserves : Serves s) (c : Call) {given : List Timeout}
    (h : ∀ result, timeouts [⟨.call c, .ok result⟩] = given) : Grants s (call c) given := by
  intro past
  obtain ⟨result, hresult⟩ := hserves past c
  refine ⟨result, [⟨.call c, .ok result⟩], ?_, h result⟩
  rw [← hresult]
  rfl

theorem Grants.bind {calls : Calls α} {f : α → Calls β} {given later : List Timeout}
    (h : Grants s calls given) (hf : ∀ a, Grants s (f a) later) :
    Grants s (calls >>= f) (given ++ later) := by
  intro past
  obtain ⟨a, made, hplay, hmade⟩ := h past
  obtain ⟨b, rest, hrest, hgiven⟩ := hf a (past ++ made)
  refine ⟨b, made ++ rest, ?_, by rw [timeouts_append, hmade, hgiven]⟩
  rw [Calls.play_bind, hplay, ← List.append_assoc]
  exact hrest

/-- The member is found and gets the timeout. -/
theorem grants_timeout (hserves : Serves s) (server : Server) (t : Timeout) :
    Grants s (do
      let _ ← fetchMember server t.member
      call (.timeout t.member t.milliseconds t.reason) : Calls Unit) [t] := by
  have hmember : Grants s (fetchMember server t.member) [] :=
    (grants_call hserves (.fetchGuild server.guild) fun _ => rfl).bind fun _ =>
      grants_call hserves (.fetchMember t.member) fun _ => rfl
  exact hmember.bind fun _ => grants_call hserves _ fun _ => rfl

theorem grants_enforce (hserves : Serves s) (hclock : ∀ past, s past .clock = now)
    (server : Server) {r : InfractionRequest} (hmute : r.infraction = .mute) :
    Grants s (enforce server r) [⟨r.actor.id, timeoutFor r.expiresAt now, r.reason⟩] := by
  have htimeout (milliseconds : Number) :=
    grants_timeout hserves server ⟨r.actor.id, milliseconds, r.reason⟩
  unfold enforce
  rw [hmute]
  cases r.expiresAt with
  | none => exact htimeout maxTimeout
  | some moment =>
    intro past
    obtain ⟨a, made, hplay, hmade⟩ := htimeout (timeoutUntil moment now) (past ++ [⟨.clock, now⟩])
    refine ⟨a, ⟨.clock, now⟩ :: made, ?_, hmade⟩
    rw [List.append_assoc] at hplay
    rw [← List.singleton_append, ← hplay]
    show Calls.play s (clock >>= fun now => _) past = _
    rw [Calls.play_bind]
    have hread : clock.play s past = (.ok now, past ++ [⟨.clock, now⟩]) := by
      rw [← hclock past]
      rfl
    rw [hread]

theorem play_issueInfraction_mute (hserves : Serves s) (hclock : ∀ past, s past .clock = now)
    (server : Server) {r : InfractionRequest} (hmute : r.infraction = .mute)
    (past : Conversation Client) :
    ∃ out made, (issueInfraction server r).play s past = (out, past ++ made) ∧
      timeouts made = [⟨r.actor.id, timeoutFor r.expiresAt now, r.reason⟩] := by
  obtain ⟨a, enforced, hplay, henforced⟩ := grants_enforce hserves hclock server hmute past
  obtain ⟨confirmed, hconfirm, hharmless⟩ :=
    (harmless_sendToChannel r.replyChannel (confirmation r) none).play s (past ++ enforced)
  have hnone : timeouts confirmed = [] :=
    timeouts_eq_nil fun e he => untimed_of_harmless (hharmless e he)
  refine ⟨((sendToChannel r.replyChannel (confirmation r) none).play s (past ++ enforced)).1,
    enforced ++ confirmed, ?_, by rw [timeouts_append, henforced, hnone]; rfl⟩
  rw [issueInfraction, if_neg (by simp [hmute]), Calls.play_bind, hplay, ← List.append_assoc]
  exact hconfirm

theorem play_expiry (hclock : ∀ past, s past .clock = now) (server : Server)
    (duration : Option Number) (ctx : Context) (past : Conversation Client) :
    ∃ before, (onDiscord server ((Sanction.expiry duration).run.run ctx)).play s past =
        ((.ok (duration.map fun d => Instant.ofNumber (now + d * 1000)), ctx), past ++ before) ∧
      timeouts before = [] := by
  cases duration with
  | none => exact ⟨[], by rw [List.append_nil]; rfl, rfl⟩
  | some d =>
    refine ⟨[⟨.clock, now⟩], ?_, rfl⟩
    rw [← hclock past]
    rfl

theorem play_platform (server : Server) (r : PlatformRequest) (given : r.Answer → Except Fault α)
    (ctx : Context) (s : Surroundings Client) (past : Conversation Client) :
    (onDiscord server ((platform r given).run.run ctx)).play s past =
      ((given ((answer server r).play s past).1, ctx), ((answer server r).play s past).2) :=
  Program.play_bind s past (answer server r) fun a => Program.done (given a, ctx)

/-- What a mute asks for, from the moment when it begins. -/
theorem play_issue (hserves : Serves s) (hclock : ∀ past, s past .clock = now) (server : Server)
    (settings : ModerationSettings) {t : Sanction} (hmute : t.infraction = .mute) (ctx : Context)
    (past : Conversation Client) :
    ∃ out ctx' made, (onDiscord server ((t.issue settings).run.run ctx)).play s past =
        ((out, ctx'), past ++ made) ∧
      timeouts made = [⟨ctx.author.id,
        timeoutFor (t.duration.map fun d => Instant.ofNumber (now + d * 1000)) now, t.reason⟩] := by
  obtain ⟨before, hbefore, hnone⟩ := play_expiry hclock server t.duration ctx past
  generalize t.duration.map (fun d => Instant.ofNumber (now + d * 1000)) = expiry at hbefore ⊢
  let r : InfractionRequest :=
    ⟨ctx.author, t.infraction, expiry, t.reason, t.replyChannel settings ctx⟩
  obtain ⟨out, made, hplay, hmade⟩ :=
    play_issueInfraction_mute hserves hclock server (r := r) hmute (past ++ before)
  have hasked := play_platform server (.issueInfraction r) id ctx s (past ++ before)
  rw [show (answer server (.issueInfraction r)).play s (past ++ before) =
    (out, past ++ before ++ made) from hplay] at hasked
  have hget : (onDiscord server ((t.issue settings).run.run ctx)).play s past =
      (onDiscord server ((Sanction.expiry t.duration >>= fun expiry =>
        platform (.issueInfraction
          ⟨ctx.author, t.infraction, expiry, t.reason, t.replyChannel settings ctx⟩) id >>= fun _ =>
        modify (·.describe t.infraction.word)).run.run ctx)).play s past := rfl
  have htimeouts : timeouts (before ++ made) = [⟨ctx.author.id, timeoutFor expiry now, t.reason⟩] := by
    rw [timeouts_append, hnone]
    exact hmade
  rw [hget, play_onDiscord_bind, hbefore]
  simp only
  rw [play_onDiscord_bind, hasked, List.append_assoc]
  cases out with
  | error fault => exact ⟨_, _, before ++ made, rfl, htimeouts⟩
  | ok u => exact ⟨_, _, before ++ made, rfl, htimeouts⟩

/-- A mute that is carried out asks for its timeout. -/
theorem play_issueStep (hserves : Serves s) (hclock : ∀ past, s past .clock = now) (server : Server)
    (settings : ModerationSettings) {t : Sanction} (hmute : t.infraction = .mute) (ctx : Context)
    (past : Conversation Client) :
    ∃ out ctx' made, (onDiscord server ((issueStep settings t).run.run ctx)).play s past =
        ((out, ctx'), past ++ made) ∧
      timeouts made = [⟨ctx.author.id,
        timeoutFor (t.duration.map fun d => Instant.ofNumber (now + d * 1000)) now, t.reason⟩] := by
  obtain ⟨out, ctx', made, hplay, hmade⟩ := play_issue hserves hclock server settings hmute ctx past
  obtain ⟨out', later, hplay', hlater, -⟩ := play_bestEffort .infraction hplay
  refine ⟨out', ctx', made ++ later, ?_, by rw [timeouts_append, hmade, hlater]; rfl⟩
  rw [issueStep, if_pos (by simp [hmute])]
  exact hplay'

/-- The rename of a sanction, if there is one, leaves the timeouts alone. -/
theorem play_renameStep (server : Server) (t : Sanction) (ctx : Context) (s : Surroundings Client)
    (past : Conversation Client) :
    ∃ out ctx' made, (onDiscord server ((renameStep t).run.run ctx)).play s past =
        ((out, ctx'), past ++ made) ∧
      ctx'.toIncoming = ctx.toIncoming ∧ timeouts made = [] ∧ (out = .ok () ∨ LogFailed made) := by
  unfold renameStep
  cases t.superstar with
  | none => exact ⟨.ok (), ctx, [], by rw [List.append_nil]; rfl, rfl, rfl, .inl rfl⟩
  | some star => exact (quiet_rename star ctx).play .superstar s past

end Steps

/-! ## § What Discord is asked for -/

/-- A number that passes the check of durations is not negative. -/
theorem not_negative_of_check {v : Value} {d : Number} (h : Check.duration v = .valid d) :
    d.lt 0 = false := by
  unfold Check.duration at h
  split at h
  · cases h
  · next n hn =>
    simp only [Checked.seq_eq_valid, Checked.map_eq_valid] at h
    obtain ⟨_, _, ⟨_, -, rfl⟩, hsign, rfl⟩ := h
    split at hsign
    · cases hsign
    · next hnot => exact Bool.eq_false_iff.mpr hnot

theorem seconds_nonneg {v : Value} (hcheck : Check.nullish Check.duration v = .valid duration)
    (hseconds : Lasts duration seconds) : ∀ k ∈ seconds, 0 ≤ k := by
  cases hseconds with
  | forever => exact nofun
  | @seconds d k hd =>
    intro k' hk'
    obtain rfl := Option.some.inj hk'
    obtain ⟨-, hnone⟩ | ⟨-, d', hvalid, hd'⟩ := Check.nullish_eq_valid.mp hcheck
    · cases hnone
    · obtain rfl := Option.some.inj hd'
      have hsign := not_negative_of_check hvalid
      obtain rfl | ⟨-, rfl⟩ := Number.toInt?_eq_some.mp hd
      · have hzero : (0 : Number) = .finite ((0 : Int) : Rat) := rfl
        rw [hzero, Number.lt_intCast, decide_eq_false_iff_not, not_lt] at hsign
        exact hsign
      · exact le_refl 0

/-- **The timeout of a mute.**  Let all calls to the client go through and the clock show one and the
same moment, and let a mute be permanent or last for whole seconds that pass the check of durations.
Unless the log fails, it asks for exactly one timeout.  If the mute ends by the farthest moment, or
never, that is the one that is due: 28 days for a permanent mute and for one that is no shorter, and
otherwise as long as the mute.  If not, the timeout is not a number; Discord accepts no such one. -/
theorem timeout_legal_iff {s : Surroundings Client} (hserves : Serves s)
    (hclock : ∀ past, s past .clock = now) (hnow : now.toInt? = some moment)
    (hmoment : |moment| ≤ Instant.farthest) {t : Sanction} (hmute : t.infraction = .mute) {v : Value}
    (hcheck : Check.nullish Check.duration v = .valid t.duration)
    (hseconds : Lasts t.duration seconds) (server : Server) (settings : ModerationSettings)
    (ctx : Context) (past : Conversation Client) :
    ∃ out ctx' made milliseconds,
      (onDiscord server ((t.apply settings).run.run ctx)).play s past =
        ((out, ctx'), past ++ made) ∧
      (¬ LogFailed made → timeouts made = [⟨ctx.author.id, milliseconds, t.reason⟩]) ∧
      milliseconds = (if EndsInTime moment seconds then .finite (due seconds) else .nan) ∧
      (Legal milliseconds ↔ EndsInTime moment seconds) := by
  have hnonneg := seconds_nonneg hcheck hseconds
  have hms := timeoutFor_eq hnow hmoment hseconds hnonneg
  have hlegal : Legal (if EndsInTime moment seconds then .finite (due seconds) else .nan) ↔
      EndsInTime moment seconds := by
    split
    · next hend => exact iff_of_true (legal_due hnonneg) hend
    · next hend => exact iff_of_false not_legal_nan hend
  obtain ⟨out₁, ctx₁, told, hplay₁, hsame₁, hnone₁, hout₁⟩ :=
    (quiet_notify server settings t ctx).play .notify s past
  rw [apply_eq_steps, play_onDiscord_bind, hplay₁]
  cases out₁ with
  | error fault =>
    have hfailed : LogFailed told := hout₁.resolve_left (by simp)
    exact ⟨_, _, told, _, rfl, fun hlog => absurd hfailed hlog, rfl, hlegal⟩
  | ok u =>
    obtain ⟨out₂, ctx₂, renamed, hplay₂, hsame₂, hnone₂, hout₂⟩ :=
      play_renameStep server t ctx₁ s (past ++ told)
    simp only [play_onDiscord_bind, hplay₂]
    cases out₂ with
    | error fault =>
      have hfailed : LogFailed renamed := hout₂.resolve_left (by simp)
      refine ⟨_, _, told ++ renamed, _, by rw [List.append_assoc], fun hlog => ?_, rfl, hlegal⟩
      exact absurd (hfailed.of_append_right told) hlog
    | ok u =>
      obtain ⟨out₃, ctx₃, issued, hplay₃, hgiven⟩ :=
        play_issueStep hserves hclock server settings hmute ctx₂ (past ++ told ++ renamed)
      refine ⟨out₃, ctx₃, told ++ (renamed ++ issued), _, ?_, fun _ => ?_, rfl, hlegal⟩
      · refine hplay₃.trans ?_
        simp only [List.append_assoc]
      · rw [timeouts_append, timeouts_append, hnone₁, hnone₂, hgiven, hms, hsame₂, hsame₁]
        rfl

theorem serves_obliging : Serves (obliging false) := by
  intro past c
  cases c <;> exact ⟨_, rfl⟩

/-- A mute without a message to the author. -/
def muting (seconds : Option Number) : Sanction :=
  ⟨.mute, Text.ofString "spam", seconds, [], [], none⟩

/-- A mute of ten minutes. -/
theorem timeout_legal_iff_ten_minutes :
    let ctx := Context.ofIncoming Dispatch.spam
    let played := (onDiscord guild
      (((muting (some 600)).apply Dispatch.toWebhook.moderation).run.run ctx)).play (obliging false) []
    (Serves (obliging false) ∧ (∀ past, obliging false past .clock = (0 : Number)) ∧
      (0 : Number).toInt? = some 0 ∧ |(0 : Int)| ≤ Instant.farthest ∧
      (muting (some 600)).infraction = .mute ∧
      Check.nullish Check.duration (.number 600) = .valid (muting (some 600)).duration ∧
      Lasts (muting (some 600)).duration (some 600)) ∧
      timeouts played.2 = [⟨ctx.author.id, 600000, Text.ofString "spam"⟩] ∧ Legal 600000 := by
  intro ctx played
  have hclock : ∀ past, obliging false past .clock = (0 : Number) := fun _ => rfl
  have hnow : (0 : Number).toInt? = some 0 := rfl
  have hmoment : |(0 : Int)| ≤ Instant.farthest := by decide
  have hcheck : Check.nullish Check.duration (.number 600) = .valid (muting (some 600)).duration :=
    rfl
  have hseconds : Lasts (muting (some 600)).duration (some 600) := .seconds rfl
  obtain ⟨out, ctx', made, milliseconds, hplay, hmade, hms, hlegal⟩ :=
    timeout_legal_iff serves_obliging hclock hnow hmoment rfl hcheck hseconds guild
      Dispatch.toWebhook.moderation ctx []
  have hend : EndsInTime 0 (some 600) := by decide
  have hlog : ¬ LogFailed played.2 := by decide +kernel
  obtain rfl : milliseconds = 600000 := hms.trans (if_pos hend)
  refine ⟨⟨serves_obliging, hclock, hnow, hmoment, rfl, hcheck, hseconds⟩, ?_, hlegal.mpr hend⟩
  have hrecord : played.2 = made := congrArg Prod.snd hplay
  rw [hrecord] at hlog ⊢
  exact hmade hlog

/-- A mute that would end after the farthest moment asks for a timeout that is not a number. -/
theorem timeout_not_always_legal :
    ¬ ∀ (s : Surroundings Client) (now : Number) (moment : Int) (t : Sanction) (v : Value)
        (seconds : Option Int) (server : Server) (settings : ModerationSettings) (ctx : Context),
      Serves s → Logs s → (∀ past, s past .clock = now) → now.toInt? = some moment →
      |moment| ≤ Instant.farthest → t.infraction = .mute →
      Check.nullish Check.duration v = .valid t.duration → Lasts t.duration seconds →
      timeouts ((onDiscord server ((t.apply settings).run.run ctx)).play s []).2 =
        [⟨ctx.author.id, .finite (due seconds), t.reason⟩] := by
  intro h
  have hmute := h (obliging false) 0 0 (muting (some 10000000000000)) (.number 10000000000000)
    (some 10000000000000) guild Dispatch.toWebhook.moderation (Context.ofIncoming Dispatch.spam)
    serves_obliging (obliging_logs false) (fun _ => rfl) rfl (by decide) rfl rfl (.seconds rfl)
  revert hmute
  decide +kernel

end ChatModeration.Discord
