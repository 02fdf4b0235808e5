/-
ChatModeration.Proofs.BackedReports — nothing is reported that did not happen.

A sanction on Discord puts down a word for each of its steps that it carried
out.  The word comes after the calls it speaks of: it is backed by calls of the
step that went through (`Notified`, `Completed`), whichever other calls fail, and
if the log fails as well.
-/
import ChatModeration.Proofs.ConfirmedMeasures
import ChatModeration.Proofs.SanctionSteps

namespace ChatModeration.Discord

/-! ## § Steps of a sanction -/

/-- The author was told: in private, or, after a private message that was refused because he takes
none, by the same message in a channel. -/
inductive Notified (member : Text) (channel : Channel) (record : Conversation Client) : Prop where
  | inPrivate {message : Payload} (h : .sendToUser member message ∈ succeeded record)
  | inChannel (before later : Conversation Client) {message : Payload} {fault : Fault}
      (hrecord : record = before ++ ⟨.call (.sendToUser member message), .error fault⟩ :: later)
      (hclosed : isMessagesClosed fault = true)
      (h : .sendToChannel channel.id message ∈ succeeded later)

/-- A step leaves the event as it was, and puts down nothing or, if it happened, its word. -/
def Reports (word : Text) (happened : Conversation Client → Prop) (ctx ctx' : Context)
    (record : Conversation Client) : Prop :=
  ctx'.toIncoming = ctx.toIncoming ∧
    ∃ words, ctx'.actionDescriptions = ctx.actionDescriptions ++ words ∧
      (words = [] ∨ words = [word] ∧ happened record)

section Steps

open ChatModeration.Action

variable {server : Server} {member word : Text} {happened : Conversation Client → Prop}
  {ctx ctx' : Context} {record : Conversation Client}

theorem reports_nothing (hincoming : ctx'.toIncoming = ctx.toIncoming)
    (h : ctx'.actionDescriptions = ctx.actionDescriptions) :
    Reports word happened ctx ctx' record :=
  ⟨hincoming, [], by rw [h, List.append_nil], Or.inl rfl⟩

theorem reports_describe (h : happened record) :
    Reports word happened ctx (ctx.describe word) record :=
  ⟨rfl, [word], rfl, Or.inr ⟨rfl, h⟩⟩

theorem Notified.append {channel : Channel} (h : Notified member channel record)
    (later : Conversation Client) : Notified member channel (record ++ later) := by
  cases h with
  | inPrivate h => exact .inPrivate (mem_succeeded_append h later)
  | inChannel before rest hrecord hclosed h =>
    refine .inChannel before (rest ++ later) ?_ hclosed (mem_succeeded_append h later)
    rw [hrecord, List.append_assoc]
    rfl

theorem Completed.append {infraction : Infraction} {channel : Channel}
    (h : Completed member infraction channel record) (later : Conversation Client) :
    Completed member infraction channel (record ++ later) := by
  obtain ⟨htaken, message, hmem⟩ := h
  exact ⟨htaken.append later, message, mem_succeeded_append hmem later⟩

/-- What a step keeps on Discord. -/
abbrev StepKeeps (server : Server) (action : Action Unit) (word : Text)
    (happened : Conversation Client → Prop) (ctx : Context) (record : Conversation Client) : Prop :=
  action.Keeps (answerAll server) (InOrder ctx.author.id)
    (fun _ ctx' record => Reports word happened ctx ctx' record) ctx record

/-- A line in the log, whether it can be written or not, changes nothing. -/
theorem keeps_bestEffort {step : SanctionStep} {run : Action Unit}
    (hmono : ∀ record later, happened record → happened (record ++ later))
    (h : StepKeeps server run word happened ctx record) :
    StepKeeps server (Sanction.bestEffort step run) word happened ctx record := by
  refine keeps_tryCatch h (fun _ _ _ hreports => hreports)
    fun fault ctx' made hreports => ?_
  obtain ⟨hincoming, words, hwords, hbacked⟩ := hreports
  refine ⟨trivial, fun answer => ⟨hincoming, words, hwords, hbacked.imp_right ?_⟩⟩
  exact fun ⟨hword, hhappened⟩ => ⟨hword, hmono _ _ hhappened⟩

/-- The message in a channel, after the private one was refused. -/
theorem keeps_inChannel {content : Text} {embed : Option RichContent} {message : Payload}
    {fault : Fault} (hpayload : payload content embed = .ok message)
    (hclosed : isMessagesClosed fault = true)
    (hsayable : ∀ record, Sayable ctx.author.id record content)
    (before later : Conversation Client) :
    (platform (.sendToChannel ctx.channel content embed) id).Keeps (answerAll server)
      (InOrder ctx.author.id)
      (fun out after record => ctx = after ∧
        (out = .ok () → Notified ctx.author.id ctx.channel record)) ctx
      (before ++ ⟨.call (.sendToUser ctx.author.id message), .error fault⟩ :: later) := by
  refine keeps_ask (Program.Keeps.mono (keeps_sendToChannel (hsayable _))
    fun out last hsent => ⟨rfl, fun hout => ?_⟩)
  obtain ⟨sent, made, hsame, hmade, hmem⟩ := hsent hout
  cases hpayload.symm.trans hsame
  rw [List.append_cancel_left hmade]
  refine .inChannel before (later ++ made) (List.append_assoc ..) hclosed ?_
  rw [succeeded_append]
  exact List.mem_append_right _ hmem

theorem keeps_tell (server : Server) (ctx : Context) :
    StepKeeps server (Sanction.tell ctx) (Text.ofString "notified")
      (Notified ctx.author.id ctx.channel) ctx [] := by
  let content := Sanction.greeting (Markdown.userMention ctx.author.id) ctx.dmContent
  let embed := Sanction.noticeEmbed ctx
  unfold Sanction.tell
  refine keeps_bind (Q := fun out after _ => ctx = after ∧
      out = .ok (Markdown.userMention ctx.author.id)) (keeps_ask ⟨rfl, rfl⟩)
    (fun mention after made hmention => ?_) (fun fault after made hmention => nomatch hmention.2)
  obtain ⟨rfl, hmention⟩ := hmention
  cases hmention
  refine keeps_bind (Q := fun out after record => ctx = after ∧
      DirectMessage ctx.author content embed out record)
    (keeps_ask ((keeps_sendDirectMessage ctx.author content embed _).mono
      fun out made hmessage => ⟨rfl, hmessage⟩))
    (fun delivery after made hdelivery => ?_) (fun fault after made hdelivery => ?_)
  · obtain ⟨rfl, hmessage⟩ := hdelivery
    generalize [] ++ _ ++ made = record at hmessage ⊢
    cases hmessage with
    | sent h => exact reports_describe (.inPrivate h)
    | @forbidden before message fault hpayload hclosed =>
      refine keeps_bind (Q := fun _ after _ => ctx = after)
        (keeps_ask ⟨trivial, fun answer => rfl⟩) (fun _ after made hafter => ?_)
        (fun fault after made hafter => ?_)
      · subst hafter
        rw [List.append_assoc]
        refine keeps_bind (keeps_inChannel hpayload hclosed (fun _ => sayable_greeting _ _) before
          ([] ++ made)) (fun _ after last hlast => ?_) (fun fault after last hlast => ?_)
        · obtain ⟨rfl, hnotified⟩ := hlast
          exact reports_describe (hnotified rfl)
        · obtain ⟨rfl, -⟩ := hlast
          exact reports_nothing rfl rfl
      · exact reports_nothing (by rw [hafter]) (by rw [hafter])
  · obtain ⟨rfl, -⟩ := hdelivery
    exact reports_nothing rfl rfl

/-- Telling the author. -/
theorem keeps_notify (server : Server) (settings : ModerationSettings) (t : Sanction)
    (ctx : Context) :
    StepKeeps server (t.notify settings) (Text.ofString "notified")
      (Notified ctx.author.id ctx.channel) ctx [] := by
  have htell := keeps_tell server (t.noticed settings ctx)
  refine keeps_modify (keeps_get ?_)
  dsimp only
  split
  · exact reports_nothing rfl rfl
  · exact htell

theorem keeps_expiry (server : Server) (member : Text) (duration : Option Number) (ctx : Context)
    (record : Conversation Client) :
    (Sanction.expiry duration).Keeps (answerAll server) (InOrder member)
      (fun out after _ => ctx = after ∧ ∃ moment, out = .ok moment) ctx record := by
  cases duration with
  | none => exact ⟨rfl, none, rfl⟩
  | some d => exact ⟨trivial, fun now => ⟨rfl, _, rfl⟩⟩

/-- A request for a measure, which is put down when it has gone through. -/
theorem keeps_measure (duration : Option Number) {r : Option Instant → PlatformRequest}
    {given : (moment : Option Instant) → (r moment).Answer → Except Fault Unit}
    (h : ∀ moment record, (answer server (r moment)).Keeps (InOrder ctx.author.id)
      (fun a record => given moment a = .ok () → happened record) record) :
    StepKeeps server
      (do
        let moment ← Sanction.expiry duration
        platform (r moment) (given moment)
        modify (·.describe word))
      word happened ctx [] := by
  refine keeps_bind (keeps_expiry server ctx.author.id duration ctx [])
    (fun moment after made hmoment => ?_) (fun fault after made hmoment => ?_)
  · obtain ⟨rfl, -⟩ := hmoment
    refine keeps_bind (Q := fun out after record => ctx = after ∧ (out = .ok () → happened record))
      (keeps_ask ((h moment _).mono fun out made hdone => ⟨rfl, hdone⟩))
      (fun _ after made hdone => ?_) (fun fault after made hdone => ?_)
    · obtain ⟨rfl, hdone⟩ := hdone
      exact reports_describe (hdone rfl)
    · obtain ⟨rfl, -⟩ := hdone
      exact reports_nothing rfl rfl
  · obtain ⟨-, moment, hmoment⟩ := hmoment
    cases hmoment

theorem keeps_rename (server : Server) (star : Superstar) (ctx : Context) :
    StepKeeps server (Sanction.rename star) (Text.ofString "superstarred")
      (Completed ctx.author.id .superstar ctx.channel) ctx [] :=
  keeps_get (keeps_measure star.duration fun moment =>
    keeps_forceRename server ⟨ctx.author, moment, star.reason, ctx.channel⟩)

theorem keeps_issue (server : Server) (settings : ModerationSettings) {t : Sanction}
    (hnone : t.infraction ≠ .none) (ctx : Context) :
    StepKeeps server (t.issue settings) t.infraction.word
      (Completed ctx.author.id t.infraction (t.replyChannel settings ctx)) ctx [] :=
  keeps_get (keeps_measure t.duration fun moment =>
    keeps_issueInfraction server (r :=
      ⟨ctx.author, t.infraction, moment, t.reason, t.replyChannel settings ctx⟩) hnone)

end Steps

/-! ## § What is reported -/

/-- What one step asked and put down: every request is in order after those before it, and the step
put down nothing, or its word when that is backed by its calls. -/
structure Truthful (member word : Text) (happened : Conversation Client → Prop)
    (record : Conversation Client) (words : List Text) : Prop where
  inOrder : ∀ before e later, record = before ++ e :: later → InOrder member before e.request
  backed : words = [] ∨ words = [word] ∧ happened record

theorem Truthful.nothing (member word : Text) (happened : Conversation Client → Prop) :
    Truthful member word happened [] [] where
  inOrder := fun before e later h => absurd h.symm (by simp)
  backed := Or.inl rfl

section Reports

variable {server : Server} {word : Text} {happened : Conversation Client → Prop} {ctx : Context}

/-- A run of a step. -/
theorem StepKeeps.play {action : Action Unit} (h : StepKeeps server action word happened ctx [])
    (s : Surroundings Client) (past : Conversation Client) :
    ∃ out ctx' made words, (onDiscord server (action.run.run ctx)).play s past =
        ((out, ctx'), past ++ made) ∧
      ctx'.toIncoming = ctx.toIncoming ∧
      ctx'.actionDescriptions = ctx.actionDescriptions ++ words ∧
      Truthful ctx.author.id word happened made words := by
  obtain ⟨⟨out, ctx'⟩, made, hplay, ⟨hincoming, words, hwords, hbacked⟩, horder⟩ :=
    Program.Keeps.play h s past
  exact ⟨out, ctx', made, words, hplay, hincoming, hwords, horder, hbacked⟩

theorem play_onDiscord_bind {α β : Type} (server : Server) (action : Action α) (f : α → Action β)
    (ctx : Context) (s : Surroundings Client) (past : Conversation Client) :
    (onDiscord server ((action >>= f).run.run ctx)).play s past =
      match (onDiscord server (action.run.run ctx)).play s past with
      | ((.ok a, ctx), past) => (onDiscord server ((f a).run.run ctx)).play s past
      | ((.error fault, ctx), past) => ((.error fault, ctx), past) := by
  refine (Action.play_translate_bind (answerAll server) action f ctx s past).trans ?_
  unfold onDiscord
  obtain ⟨⟨outcome, ctx'⟩, past'⟩ :=
    Program.play s ((action.run.run ctx).translate (I := Moderation) (answerAll server)) past
  cases outcome <;> rfl

theorem play_onDiscord_tryCatch (server : Server) (action : Action Unit)
    (handler : Fault → Action Unit) (ctx : Context) (s : Surroundings Client)
    (past : Conversation Client) :
    (onDiscord server ((tryCatch action handler).run.run ctx)).play s past =
      match (onDiscord server (action.run.run ctx)).play s past with
      | ((.ok a, ctx), past) => ((.ok a, ctx), past)
      | ((.error fault, ctx), past) =>
        (onDiscord server ((handler fault).run.run ctx)).play s past := by
  refine (Action.play_translate_tryCatch (answerAll server) action handler ctx s past).trans ?_
  unfold onDiscord
  obtain ⟨⟨outcome, ctx'⟩, past'⟩ :=
    Program.play s ((action.run.run ctx).translate (I := Moderation) (answerAll server)) past
  cases outcome <;> rfl

/-- The rename of a sanction, if it asks for one. -/
def renameStep (t : Sanction) : Action Unit :=
  match t.superstar with
  | some star => Sanction.bestEffort .superstar (Sanction.rename star)
  | none => pure ()

/-- The infraction of a sanction, if it asks for one. -/
def issueStep (settings : ModerationSettings) (t : Sanction) : Action Unit :=
  if t.infraction ≠ .none then Sanction.bestEffort .infraction (t.issue settings) else pure ()

/-- A sanction is its three steps in their order. -/
theorem apply_eq_steps (settings : ModerationSettings) (t : Sanction) :
    t.apply settings =
      (Sanction.bestEffort .notify (t.notify settings) >>= fun _ =>
        renameStep t >>= fun _ => issueStep settings t) := by
  unfold Sanction.apply renameStep issueStep
  cases t.superstar <;> rfl

theorem keeps_renameStep (server : Server) (t : Sanction) (ctx : Context) :
    StepKeeps server (renameStep t) (Text.ofString "superstarred")
      (Completed ctx.author.id .superstar ctx.channel) ctx [] := by
  unfold renameStep
  cases t.superstar with
  | none => exact reports_nothing rfl rfl
  | some star =>
    exact keeps_bestEffort (fun _ later h => h.append later) (keeps_rename server star ctx)

theorem keeps_issueStep (server : Server) (settings : ModerationSettings) (t : Sanction)
    (ctx : Context) :
    StepKeeps server (issueStep settings t) t.infraction.word
      (Completed ctx.author.id t.infraction (t.replyChannel settings ctx)) ctx [] := by
  unfold issueStep
  split
  · rename_i hnone
    exact keeps_bestEffort (fun _ later h => h.append later) (keeps_issue server settings hnone ctx)
  · exact reports_nothing rfl rfl

/-- **Nothing is reported that did not happen.**  Whichever calls to the client fail, and whatever
becomes of the log, a sanction makes its calls in three steps, and each puts down at most its own
word, once.  `notified` is backed by a private message that was delivered, or by one that was refused
because the author takes none and, after it, the same message in the channel; `superstarred` by a
new nickname; the word for the infraction by the call that enforces it; and both measures by their
confirmation as well.  No confirmation is sent before the measure it speaks of has been taken. -/
theorem reports_backed (s : Surroundings Client) (server : Server) (settings : ModerationSettings)
    (t : Sanction) (ctx : Context) (past : Conversation Client) :
    ∃ out ctx' told renamed issued notice starred sanctioned,
      (onDiscord server ((t.apply settings).run.run ctx)).play s past =
        ((out, ctx'), past ++ (told ++ renamed ++ issued)) ∧
      ctx'.actionDescriptions = ctx.actionDescriptions ++ (notice ++ starred ++ sanctioned) ∧
      Truthful ctx.author.id (Text.ofString "notified") (Notified ctx.author.id ctx.channel)
        told notice ∧
      Truthful ctx.author.id (Text.ofString "superstarred")
        (Completed ctx.author.id .superstar ctx.channel) renamed starred ∧
      Truthful ctx.author.id t.infraction.word
        (Completed ctx.author.id t.infraction (t.replyChannel settings ctx)) issued sanctioned := by
  rw [apply_eq_steps, play_onDiscord_bind]
  have hnotify : StepKeeps server (Sanction.bestEffort .notify (t.notify settings)) _ _ ctx [] :=
    keeps_bestEffort (fun _ later h => h.append later) (keeps_notify server settings t ctx)
  obtain ⟨out₁, ctx₁, told, notice, hplay₁, hincoming₁, hwords₁, ht₁⟩ := hnotify.play s past
  rw [hplay₁]
  cases out₁ with
  | error fault =>
    exact ⟨.error fault, ctx₁, told, [], [], notice, [], [], by simp, by simp [hwords₁], ht₁,
      .nothing _ _ _, .nothing _ _ _⟩
  | ok u =>
    obtain ⟨out₂, ctx₂, renamed, starred, hplay₂, hincoming₂, hwords₂, ht₂⟩ :=
      (keeps_renameStep server t ctx₁).play s (past ++ told)
    rw [hincoming₁] at ht₂ hincoming₂
    simp only [play_onDiscord_bind, hplay₂]
    cases out₂ with
    | error fault =>
      exact ⟨.error fault, ctx₂, told, renamed, [], notice, starred, [], by simp,
        by simp [hwords₂, hwords₁], ht₁, ht₂, .nothing _ _ _⟩
    | ok u =>
      obtain ⟨out₃, ctx₃, issued, sanctioned, hplay₃, -, hwords₃, ht₃⟩ :=
        (keeps_issueStep server settings t ctx₂).play s (past ++ told ++ renamed)
      have hreply : t.replyChannel settings ctx₂ = t.replyChannel settings ctx := by
        simp only [Sanction.replyChannel, hincoming₂]
      rw [hreply, hincoming₂] at ht₃
      exact ⟨out₃, ctx₃, told, renamed, issued, notice, starred, sanctioned,
        hplay₃.trans (by simp), by simp [hwords₃, hwords₂, hwords₁], ht₁, ht₂, ht₃⟩

end Reports

end ChatModeration.Discord
