/-
ChatModeration.Proofs.ReportedSanctions — which sanctions the moderators hear of.

What a sanction does on Discord is seen from two sides: the filtering has the
answers of the platform, and the client has the calls that the platform made for
them.  A word for a measure is put down when the platform says that the measure
went through, and that is when its confirmation arrived.  A measure that was
taken but could not be confirmed is not put down.
-/
import ChatModeration.Proofs.DispatchConduct
import ChatModeration.Proofs.Measures

namespace ChatModeration.Discord

/-! ## § Requests that do nothing to a member -/

/-- A request that is about a measure. -/
def IsMeasure : ModerationRequest → Prop
  | .platform (.issueInfraction _) => True
  | .platform (.forceRename _) => True
  | _ => False

/-- Of what is asked of the client, only calls that do nothing to a member. -/
def Harmless (r : ClientRequest) : Prop := ∀ c, r = .call c → c.enforces = false

section Requests

open Calls

theorem harmless_call {c : Call} (h : c.enforces = false) : (call c).run.Asks Harmless :=
  asks_call fun _ heq => by cases heq; exact h

theorem harmless_sendDirectMessage (actor : Actor) (content : Text) (embed : Option RichContent) :
    (sendDirectMessage actor content embed).run.Asks Harmless := by
  refine asks_bind (harmless_call rfl) fun _ => Program.Asks.bind ?_ fun out => ?_
  · refine asks_bind trivial fun message => ?_
    exact asks_bind (harmless_call rfl) fun _ => trivial
  · cases out with
    | ok delivery => trivial
    | error fault =>
      dsimp only
      split
      · trivial
      · trivial

theorem harmless_sendToChannel (channel : Channel) (content : Text) (embed : Option RichContent) :
    (sendToChannel channel content embed).run.Asks Harmless := by
  refine asks_bind (harmless_call rfl) fun state => ?_
  cases state with
  | sendable => exact asks_bind trivial fun message => harmless_call rfl
  | unsendable => trivial
  | missing => trivial

theorem harmless_sendAlert (server : Server) (channel : AlertChannel) (alert : Alert) :
    (sendAlert server channel alert).run.Asks Harmless := by
  unfold sendAlert
  split
  · exact asks_bind trivial fun embeds => harmless_call rfl
  · trivial

theorem harmless_answerAll (server : Server) {r : ModerationRequest} (h : ¬ IsMeasure r) :
    (answerAll server r).Asks Harmless := by
  cases r with
  | log event => exact ⟨nofun, fun _ => trivial⟩
  | clock => exact ⟨nofun, fun _ => trivial⟩
  | platform r =>
    cases r with
    | mention actor => trivial
    | sendDirectMessage actor content embed => exact harmless_sendDirectMessage actor content embed
    | sendToChannel channel content embed => exact harmless_sendToChannel channel content embed
    | sendAlert channel alert => exact harmless_sendAlert server channel alert
    | issueInfraction r => exact absurd trivial h
    | forceRename r => exact absurd trivial h

end Requests

/-! ## § Steps of a sanction on Discord -/

/-- Surroundings in which writing to the log never fails. -/
def Logs (s : Surroundings Client) : Prop := ∀ past event, s past (.log event) = .ok ()

/-- The platform as it looks from the filtering. -/
def platformOf (s : Surroundings Client) (server : Server) (past : Conversation Client) :
    Surroundings Moderation :=
  s.behind (I := Moderation) (answerAll server) past

/-- What has been asked of the client when a record of the filtering is complete. -/
def clientRecord (s : Surroundings Client) (server : Server) (past : Conversation Client)
    (record : Conversation Moderation) : Conversation Client :=
  s.unfold (I := Moderation) (answerAll server) past record

/-- The rename that a sanction asks for. -/
def renameOf (t : Sanction) (ctx : Context) : Option Measure :=
  t.superstar.map fun star => ⟨.superstar, star.reason, ctx.channel⟩

/-- The infraction that a sanction asks for. -/
def infractionOf (settings : ModerationSettings) (t : Sanction) (ctx : Context) : Option Measure :=
  if t.infraction = .none then none
  else some ⟨t.infraction, t.reason, t.replyChannel settings ctx⟩

/-- What a step of a sanction came to: the calls that went through for its measure, if it has one,
and the words that were put down.  The measure is put down when its confirmation arrived. -/
inductive StepReports (server : Server) (member word : Text) :
    Option Measure → List Call → List Text → Prop where
  | unasked : StepReports server member word none [] []
  | reported {m : Measure} {calls : List Call} (h : Pursued server member (some m) calls)
      (hdelivered : Delivered m.channel calls) :
      StepReports server member word (some m) calls [word]
  | unreported {m : Measure} {calls : List Call} (h : Pursued server member (some m) calls)
      (hdelivered : ¬ Delivered m.channel calls) :
      StepReports server member word (some m) calls []

section Steps

open Sanction (Expires Notifies Renames Issues)

variable {s : Surroundings Client} {server : Server} {past : Conversation Client}
  {settings : ModerationSettings} {t : Sanction} {ctx ctx' : Context}
  {earlier record : Conversation Moderation}

theorem clientRecord_append (s : Surroundings Client) (server : Server) (past : Conversation Client)
    (record later : Conversation Moderation) :
    clientRecord s server past (record ++ later) =
      clientRecord s server (clientRecord s server past record) later :=
  s.unfold_append (I := Moderation) (answerAll server) past record later

/-- The filtering on Discord is the filtering on the platform as it looks from there. -/
theorem play_onDiscord {α : Type} (s : Surroundings Client) (server : Server)
    (past : Conversation Client) (p : Program Moderation α) :
    (onDiscord server p).play s past =
      ((p.play (platformOf s server past) []).1,
        clientRecord s server past (p.play (platformOf s server past) []).2) :=
  p.play_translate (I := Moderation) s (answerAll server) past []

theorem platformOf_logs (hlog : Logs s) (server : Server) (past : Conversation Client) :
    (platformOf s server past).Logs := fun _ _ => hlog _ _

theorem clientRecord_harmless (s : Surroundings Client) (server : Server)
    (h : ∀ e ∈ record, ¬ IsMeasure e.request) (past : Conversation Client) :
    ∃ made, clientRecord s server past record = past ++ made ∧
      ∀ c ∈ succeeded made, c.enforces = false := by
  obtain ⟨made, hmade, hasked⟩ := s.unfold_asks (I := Moderation) (answerAll server)
    (fun e he => harmless_answerAll server (h e he)) past
  exact ⟨made, hmade, succeeded_of_asked hasked⟩

/-- The clock and the log do not concern the client. -/
theorem clientRecord_quiet (s : Surroundings Client) (server : Server)
    (h : ∀ e ∈ record, ∀ r, e.request ≠ .platform r) (past : Conversation Client) :
    ∃ made, clientRecord s server past record = past ++ made ∧ succeeded made = [] := by
  have hquiet : ∀ e ∈ record, (answerAll server e.request).Asks
      fun r : ClientRequest => ∀ c, r = .call c → False := by
    intro e he
    cases hr : e.request with
    | platform r => exact absurd hr (h e he r)
    | log event => exact ⟨nofun, fun _ => trivial⟩
    | clock => exact ⟨nofun, fun _ => trivial⟩
  obtain ⟨made, hmade, hasked⟩ := s.unfold_asks (I := Moderation) (answerAll server) hquiet past
  exact ⟨made, hmade, List.eq_nil_iff_forall_not_mem.mpr (succeeded_of_asked hasked)⟩

theorem expires_quiet {duration : Option Number} {moment : Option Instant}
    (h : Expires duration record moment) : ∀ e ∈ record, ∀ r, e.request ≠ .platform r := by
  cases h with
  | never => exact List.forall_mem_nil _
  | after duration now => exact List.forall_mem_singleton.mpr nofun

theorem logged_quiet {event : LogEvent} : ∀ r, (logged event).request ≠ .platform r :=
  fun _ h => ModerationRequest.noConfusion h

/-- The calls for a measure that the filtering asked for, when it had `a` for an answer. -/
theorem clientRecord_measure {r : PlatformRequest} {M : r.Answer → List Call → Prop}
    (hr : ∀ past, ∃ out made, (answer server r).play s past = (out, past ++ made) ∧
      M out (succeeded made))
    ⦃past : Conversation Client⦄ ⦃earlier before after : Conversation Moderation⦄ ⦃a : r.Answer⦄
    (hbefore : ∀ e ∈ before, ∀ r, e.request ≠ .platform r)
    (hafter : ∀ e ∈ after, ∀ r, e.request ≠ .platform r)
    (hgave : (platformOf s server past).Gave earlier (before ++ asked r a :: after)) :
    ∃ made, clientRecord s server past (earlier ++ (before ++ asked r a :: after)) =
        clientRecord s server past earlier ++ made ∧
      M a (succeeded made) := by
  obtain ⟨first, hfirst, hfirstNone⟩ :=
    clientRecord_quiet s server hbefore (clientRecord s server past earlier)
  obtain ⟨out, made, hplay, hmade⟩ := hr (clientRecord s server past earlier ++ first)
  obtain ⟨last, hlast, hlastNone⟩ :=
    clientRecord_quiet s server hafter (clientRecord s server past earlier ++ first ++ made)
  have hone : clientRecord s server (clientRecord s server past earlier ++ first) [asked r a] =
      clientRecord s server past earlier ++ first ++ made := congrArg Prod.snd hplay
  have hout : a = out := by
    have ha : a = ((answer server r).play s (clientRecord s server past (earlier ++ before))).1 :=
      (Surroundings.gave_append.mp hgave).2.1
    rw [ha, clientRecord_append, hfirst, hplay]
  refine ⟨first ++ made ++ last, ?_, ?_⟩
  · rw [clientRecord_append, clientRecord_append, hfirst, ← List.singleton_append,
      clientRecord_append, hone, hlast]
    simp only [List.append_assoc]
  · rw [hout, succeeded_append, succeeded_append, hfirstNone, hlastNone, List.nil_append,
      List.append_nil]
    exact hmade

theorem tells_no_measure (h : Sanction.Tells ctx record ctx') :
    ∀ e ∈ record, ¬ IsMeasure e.request := by
  cases h <;> simp [asked, logged, IsMeasure]

theorem notifies_no_measure (h : Notifies settings t ctx record ctx') :
    ∀ e ∈ record, ¬ IsMeasure e.request := by
  cases h with
  | silent => exact List.forall_mem_nil _
  | tells _ ht => exact tells_no_measure ht

theorem tells_words (h : Sanction.Tells ctx record ctx') :
    ∃ words, ctx'.actionDescriptions = ctx.actionDescriptions ++ words ∧
      ∀ word ∈ words, word = Text.ofString "notified" := by
  cases h with
  | delivered => exact ⟨_, rfl, fun _ => List.mem_singleton.mp⟩
  | rerouted => exact ⟨_, rfl, fun _ => List.mem_singleton.mp⟩
  | _ => exact ⟨[], (List.append_nil _).symm, List.forall_mem_nil _⟩

theorem notifies_words (h : Notifies settings t ctx record ctx') :
    ∃ words, ctx'.actionDescriptions = ctx.actionDescriptions ++ words ∧
      ∀ word ∈ words, word = Text.ofString "notified" := by
  cases h with
  | silent => exact ⟨[], (List.append_nil _).symm, List.forall_mem_nil _⟩
  | tells _ ht =>
    obtain ⟨words, hwords, hnotified⟩ := tells_words ht
    exact ⟨words, hwords, hnotified⟩

theorem Measured.reported {member word : Text} {m : Measure} {calls : List Call}
    (h : Measured server member m (.ok ()) calls) :
    StepReports server member word (some m) calls [word] :=
  .reported h.pursued (h.delivered_iff.mp rfl)

theorem Measured.unreported {member word : Text} {m : Measure} {fault : Fault} {calls : List Call}
    (h : Measured server member m (.error fault) calls) :
    StepReports server member word (some m) calls [] :=
  .unreported h.pursued fun hd => absurd (h.delivered_iff.mpr hd) (by simp)

/-- The rename of a sanction. -/
theorem renames_reports (h : Renames ctx t.superstar record ctx')
    (hgave : (platformOf s server past).Gave earlier record) :
    ∃ made words, clientRecord s server past (earlier ++ record) =
        clientRecord s server past earlier ++ made ∧
      ctx'.actionDescriptions = ctx.actionDescriptions ++ words ∧
      StepReports server ctx.author.id (Text.ofString "superstarred") (renameOf t ctx)
        (succeeded made) words := by
  have hrename (star : Superstar) (moment : Option Instant) :=
    clientRecord_measure (r := .forceRename ⟨ctx.author, moment, star.reason, ctx.channel⟩)
      (M := Measured server ctx.author.id ⟨.superstar, star.reason, ctx.channel⟩)
      (play_forceRename server _ s)
  unfold renameOf
  generalize t.superstar = star? at h ⊢
  cases h with
  | unasked =>
    exact ⟨[], [], by rw [List.append_nil, List.append_nil], (List.append_nil _).symm, .unasked⟩
  | @done star _ moment he =>
    obtain ⟨made, hmade, hmeasured⟩ :=
      hrename star moment (expires_quiet he) (List.forall_mem_nil _) hgave
    exact ⟨made, _, hmade, rfl, hmeasured.reported⟩
  | @failed star _ moment he fault =>
    obtain ⟨made, hmade, hmeasured⟩ :=
      hrename star moment (expires_quiet he) (List.forall_mem_singleton.mpr logged_quiet) hgave
    exact ⟨made, [], hmade, (List.append_nil _).symm, hmeasured.unreported⟩

/-- The infraction of a sanction. -/
theorem issues_reports (h : Issues settings t ctx record ctx')
    (hgave : (platformOf s server past).Gave earlier record) :
    ∃ made words, clientRecord s server past (earlier ++ record) =
        clientRecord s server past earlier ++ made ∧
      ctx'.actionDescriptions = ctx.actionDescriptions ++ words ∧
      StepReports server ctx.author.id t.infraction.word (infractionOf settings t ctx)
        (succeeded made) words := by
  have hissue (ht : t.infraction ≠ .none) (moment : Option Instant) :=
    clientRecord_measure (r := .issueInfraction
        ⟨ctx.author, t.infraction, moment, t.reason, t.replyChannel settings ctx⟩)
      (M := Measured server ctx.author.id ⟨t.infraction, t.reason, t.replyChannel settings ctx⟩)
      (play_issueInfraction server _ ht s)
  unfold infractionOf
  cases h with
  | unasked hnone =>
    rw [if_pos hnone]
    exact ⟨[], [], by rw [List.append_nil, List.append_nil], (List.append_nil _).symm, .unasked⟩
  | @done ht _ moment he =>
    obtain ⟨made, hmade, hmeasured⟩ :=
      hissue ht moment (expires_quiet he) (List.forall_mem_nil _) hgave
    rw [if_neg ht]
    exact ⟨made, _, hmade, rfl, hmeasured.reported⟩
  | @failed ht _ moment he fault =>
    obtain ⟨made, hmade, hmeasured⟩ :=
      hissue ht moment (expires_quiet he) (List.forall_mem_singleton.mpr logged_quiet) hgave
    rw [if_neg ht]
    exact ⟨made, [], hmade, (List.append_nil _).symm, hmeasured.unreported⟩

end Steps

/-! ## § What is reported -/

section Reports

variable {s : Surroundings Client} {server : Server} {member word : Text} {m? : Option Measure}
  {calls : List Call} {words : List Text}

theorem StepReports.mem_iff (h : StepReports server member word m? calls words) (w : Text) :
    w ∈ words ↔ w = word ∧ ∃ m ∈ m?, Delivered m.channel calls := by
  cases h with
  | unasked => simp
  | reported _ hd => simp [hd]
  | unreported _ hd => simp [hd]

theorem StepReports.pursued (h : StepReports server member word m? calls words) :
    Pursued server member m? calls := by
  cases h with
  | unasked => exact .nothing
  | reported h _ => exact h
  | unreported h _ => exact h

theorem word_ne_notified (i : Infraction) : i.word ≠ Text.ofString "notified" := by
  cases i <;> decide

theorem word_ne_superstarred (i : Infraction) : i.word ≠ Text.ofString "superstarred" := by
  cases i <;> decide

theorem renameOf_congr {t : Sanction} {ctx ctx' : Context}
    (h : ctx'.toIncoming = ctx.toIncoming) : renameOf t ctx' = renameOf t ctx := by
  simp only [renameOf, h]

theorem infractionOf_congr {settings : ModerationSettings} {t : Sanction} {ctx ctx' : Context}
    (h : ctx'.toIncoming = ctx.toIncoming) :
    infractionOf settings t ctx' = infractionOf settings t ctx := by
  simp only [infractionOf, Sanction.replyChannel, h]

/-- What a whole sanction came to, step by step. -/
theorem carries_reports {settings : ModerationSettings} {t : Sanction} {ctx ctx' : Context}
    {record : Conversation Moderation} {past : Conversation Client}
    (h : t.Carries settings ctx record ctx')
    (hgave : (platformOf s server past).Gave [] record) :
    ∃ told renamed issued notice starred sanctioned,
      clientRecord s server past record = past ++ (told ++ renamed ++ issued) ∧
      ctx'.actionDescriptions = ctx.actionDescriptions ++ (notice ++ starred ++ sanctioned) ∧
      (∀ c ∈ succeeded told, c.enforces = false) ∧
      (∀ word ∈ notice, word = Text.ofString "notified") ∧
      StepReports server ctx.author.id (Text.ofString "superstarred") (renameOf t ctx)
        (succeeded renamed) starred ∧
      StepReports server ctx.author.id t.infraction.word (infractionOf settings t ctx)
        (succeeded issued) sanctioned := by
  cases h with
  | @steps toldM renamedM issuedM ctx₁ ctx₂ _ hn hr hi =>
    have hctx₁ : ctx₁.toIncoming = ctx.toIncoming := hn.follows.incoming
    have hctx₂ : ctx₂.toIncoming = ctx.toIncoming := hr.follows.incoming.trans hctx₁
    rw [Surroundings.gave_append, Surroundings.gave_append, List.nil_append, List.nil_append]
      at hgave
    obtain ⟨⟨-, hgaveR⟩, hgaveI⟩ := hgave
    obtain ⟨told, htold, hharmless⟩ :=
      clientRecord_harmless s server (notifies_no_measure hn) past
    obtain ⟨notice, hnotice, hnotified⟩ := notifies_words hn
    obtain ⟨renamed, starred, hrenamed, hstarred, hrename⟩ := renames_reports hr hgaveR
    obtain ⟨issued, sanctioned, hissued, hsanctioned, hissue⟩ := issues_reports hi hgaveI
    refine ⟨told, renamed, issued, notice, starred, sanctioned, ?_, ?_, hharmless, hnotified,
      ?_, ?_⟩
    · rw [hissued, hrenamed, htold]
      simp only [List.append_assoc]
    · rw [hsanctioned, hstarred, hnotice]
      simp only [List.append_assoc]
    · rw [hctx₁, renameOf_congr hctx₁] at hrename
      exact hrename
    · rw [hctx₂, infractionOf_congr hctx₂] at hissue
      exact hissue

/-- **A measure is reported exactly when it is confirmed.**  However the calls to the client succeed
and fail, a sanction ends, and the calls that went through are those for the message to the author,
which do nothing to him, then an initial part of what the rename takes, then one of what the
infraction takes.  Each of these plans ends with the confirmation, which comes after the measure
itself, and the word for the measure is put down if and only if the confirmation arrived. -/
theorem reported_iff_confirmed (hlog : Logs s) (server : Server) (settings : ModerationSettings)
    (t : Sanction) (ctx : Context) (past : Conversation Client) :
    ∃ ctx' told renamed issued words,
      (onDiscord server ((t.apply settings).run.run ctx)).play s past =
        ((.ok (), ctx'), past ++ (told ++ renamed ++ issued)) ∧
      ctx'.actionDescriptions = ctx.actionDescriptions ++ words ∧
      (∀ c ∈ succeeded told, c.enforces = false) ∧
      Pursued server ctx.author.id (renameOf t ctx) (succeeded renamed) ∧
      Pursued server ctx.author.id (infractionOf settings t ctx) (succeeded issued) ∧
      (Text.ofString "superstarred" ∈ words ↔
        ∃ m ∈ renameOf t ctx, Delivered m.channel (succeeded renamed)) ∧
      (t.infraction.word ∈ words ↔
        ∃ m ∈ infractionOf settings t ctx, Delivered m.channel (succeeded issued)) := by
  obtain ⟨ctx', record, hplay, hcarries⟩ :=
    Sanction.play_apply (platformOf_logs hlog server past) settings t ctx []
  obtain ⟨record', hrecord, hgave⟩ :=
    Program.play_record (platformOf s server past) ((t.apply settings).run.run ctx) []
  have hsame : record' = record := by
    have h := congrArg Prod.snd (hrecord.symm.trans hplay)
    simpa using h
  subst hsame
  obtain ⟨told, renamed, issued, notice, starred, sanctioned, hclient, hwords, hharmless, hnotified,
    hrename, hissue⟩ := carries_reports hcarries hgave
  refine ⟨ctx', told, renamed, issued, _, ?_, hwords, hharmless, hrename.pursued, hissue.pursued,
    ?_, ?_⟩
  · have hplay' : Program.play (platformOf s server past) ((t.apply settings).run.run ctx) [] =
        ((.ok (), ctx'), record') := hplay
    rw [play_onDiscord, hplay', hclient]
  · rw [List.mem_append, List.mem_append, hrename.mem_iff, hissue.mem_iff]
    constructor
    · rintro ((h | ⟨-, h⟩) | ⟨h, -⟩)
      · exact absurd (hnotified _ h) (by decide)
      · exact h
      · exact absurd h.symm (word_ne_superstarred t.infraction)
    · exact fun h => Or.inl (Or.inr ⟨rfl, h⟩)
  · rw [List.mem_append, List.mem_append, hrename.mem_iff, hissue.mem_iff]
    constructor
    · rintro ((h | ⟨h, -⟩) | ⟨-, h⟩)
      · exact absurd (hnotified _ h) (word_ne_notified t.infraction)
      · exact absurd h (word_ne_superstarred t.infraction)
      · exact h
    · exact fun h => Or.inr ⟨rfl, h⟩

end Reports

/-! ## § A confirmation that does not arrive -/

/-- A client that does whatever it is asked, but for messages to channels if it refuses those. -/
def obliging (refusesMessages : Bool) : Surroundings Client
  | _, .call (.sendToChannel ..) => if refusesMessages then .error (.failure []) else .ok ()
  | _, .call c => .ok (c.resultGiven .sendable true)
  | _, .log _ => .ok ()
  | _, .clock => (0 : Number)

theorem obliging_logs (refusesMessages : Bool) : Logs (obliging refusesMessages) :=
  fun _ _ => rfl

def guild : Server := Server.ofGuild (Text.ofString "guild-1")

/-- A ban without a message to the author. -/
def phishing : Sanction := ⟨.ban, Text.ofString "phishing", none, [], [], none⟩

/-- A ban that is confirmed is reported. -/
theorem reported_iff_confirmed_ban :
    let ctx := Context.ofIncoming Dispatch.spam
    Logs (obliging false) ∧
      ∃ ctx' told renamed issued words,
        (onDiscord guild ((phishing.apply Dispatch.toWebhook.moderation).run.run ctx)).play
            (obliging false) [] = ((.ok (), ctx'), told ++ renamed ++ issued) ∧
          ctx'.actionDescriptions = words ∧ Text.ofString "ban" ∈ words ∧
          Delivered Dispatch.general (succeeded issued) := by
  intro ctx
  obtain ⟨ctx', told, renamed, issued, words, hplay, hwords, -, -, -, -, hiff⟩ :=
    reported_iff_confirmed (obliging_logs false) guild Dispatch.toWebhook.moderation phishing ctx []
  have hban : Text.ofString "ban" ∈ ((onDiscord guild
      ((phishing.apply Dispatch.toWebhook.moderation).run.run ctx)).play
        (obliging false) []).1.2.actionDescriptions := by decide +kernel
  rw [hplay, hwords] at hban
  have hword : Text.ofString "ban" = phishing.infraction.word := by decide
  obtain ⟨m, hm, hdelivered⟩ := hiff.mp (hword ▸ hban)
  cases hm
  exact ⟨obliging_logs false, ctx', told, renamed, issued, words, hplay, hwords, hban, hdelivered⟩

/-- The member is banned, the message that says so is refused, and the ban is not put down. -/
theorem not_always_reported :
    ¬ ∀ (s : Surroundings Client) (server : Server) (settings : ModerationSettings) (t : Sanction)
        (ctx : Context), Logs s → t.superstar = none →
      let played := (onDiscord server ((t.apply settings).run.run ctx)).play s []
      (∃ c ∈ succeeded played.2, c.enforces) →
        t.infraction.word ∈ played.1.2.actionDescriptions := by
  intro h
  have hban := h (obliging true) guild Dispatch.toWebhook.moderation phishing
    (Context.ofIncoming Dispatch.spam) (obliging_logs true) rfl
  revert hban
  decide +kernel

end ChatModeration.Discord
