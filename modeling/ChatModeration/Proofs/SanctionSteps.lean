/-
ChatModeration.Proofs.SanctionSteps — what carrying a sanction out can look like.

For each step of a sanction there is a relation with a rule for everything that
can happen in it: the requests that are made, how they were answered, and the
context that is left.  That a step always runs by one of its rules is proved
once; whatever is said about sanctions later is said rule by rule.
-/
import ChatModeration.Proofs.Conversation
import ChatModeration.Sanction.Apply

namespace ChatModeration

namespace Sanction

open ChatModeration.Action

variable {settings : ModerationSettings} {s : Surroundings Moderation} {ctx : Context}
  {past : Conversation Moderation}

/-! ## § The rules -/

/-- Settling when a measure ends takes a look at the clock, unless it never ends. -/
inductive Expires : Option Number → Conversation Moderation → Option Instant → Prop where
  | never : Expires none [] none
  | after (duration now : Number) :
      Expires (some duration) [⟨.clock, now⟩] (some (Instant.ofNumber (now + duration * 1000)))

/-- The context in which the author is told: with the texts of the sanction, and a colour. -/
def noticed (settings : ModerationSettings) (t : Sanction) (ctx : Context) : Context :=
  colourEmbed settings.dmColour (t.addTexts ctx)

/-- The block that goes with the message to the author. -/
def noticeEmbed (ctx : Context) : Option RichContent :=
  if ctx.dmEmbed.description = [] then none else some ctx.dmEmbed

/-- The request for a private message. -/
abbrev directMessage (ctx : Context) (mention : Text) : PlatformRequest :=
  .sendDirectMessage ctx.author (greeting mention ctx.dmContent) (noticeEmbed ctx)

/-- The request for the same message in the channel. -/
abbrev channelMessage (ctx : Context) (mention : Text) : PlatformRequest :=
  .sendToChannel ctx.channel (greeting mention ctx.dmContent) (noticeEmbed ctx)

/-- Whether there is nothing to tell the author. -/
def Silent (t : Sanction) (ctx : Context) : Prop :=
  (t.addTexts ctx).dmContent = [] ∧ (t.addTexts ctx).dmEmbed.description = []

/-- Telling the author what the context holds. -/
inductive Tells (ctx : Context) : Conversation Moderation → Context → Prop where
  | unaddressed (fault : Fault) :
      Tells ctx
        [asked (.mention ctx.author) (.error fault), logged (.stepFailed fault .notify ctx.author.id)]
        ctx
  | undelivered (mention : Text) (fault : Fault) :
      Tells ctx
        [asked (.mention ctx.author) (.ok mention),
          asked (directMessage ctx mention) (.error fault),
          logged (.stepFailed fault .notify ctx.author.id)]
        ctx
  | delivered (mention : Text) :
      Tells ctx
        [asked (.mention ctx.author) (.ok mention),
          asked (directMessage ctx mention) (.ok .sent)]
        (ctx.describe (Text.ofString "notified"))
  | rerouted (mention : Text) :
      Tells ctx
        [asked (.mention ctx.author) (.ok mention),
          asked (directMessage ctx mention) (.ok .forbidden),
          logged (.messagesClosed ctx.author.id ctx.channel.id),
          asked (channelMessage ctx mention) (.ok ())]
        (ctx.describe (Text.ofString "notified"))
  | lost (mention : Text) (fault : Fault) :
      Tells ctx
        [asked (.mention ctx.author) (.ok mention),
          asked (directMessage ctx mention) (.ok .forbidden),
          logged (.messagesClosed ctx.author.id ctx.channel.id),
          asked (channelMessage ctx mention) (.error fault),
          logged (.stepFailed fault .notify ctx.author.id)]
        ctx

/-- Telling the author what a sanction says, if it leaves anything to say. -/
inductive Notifies (settings : ModerationSettings) (t : Sanction) (ctx : Context) :
    Conversation Moderation → Context → Prop where
  | silent (h : t.Silent ctx) : Notifies settings t ctx [] (t.addTexts ctx)
  | tells {told : Conversation Moderation} {ctx' : Context} (h : ¬ t.Silent ctx)
      (ht : Tells (t.noticed settings ctx) told ctx') : Notifies settings t ctx told ctx'

/-- Renaming the author, if a rename is asked for. -/
inductive Renames (ctx : Context) :
    Option Superstar → Conversation Moderation → Context → Prop where
  | unasked : Renames ctx none [] ctx
  | done (star : Superstar) {before : Conversation Moderation} {expiry : Option Instant}
      (h : Expires star.duration before expiry) :
      Renames ctx (some star)
        (before ++ [asked (.forceRename ⟨ctx.author, expiry, star.reason, ctx.channel⟩) (.ok ())])
        (ctx.describe (Text.ofString "superstarred"))
  | failed (star : Superstar) {before : Conversation Moderation} {expiry : Option Instant}
      (h : Expires star.duration before expiry) (fault : Fault) :
      Renames ctx (some star)
        (before ++
          [asked (.forceRename ⟨ctx.author, expiry, star.reason, ctx.channel⟩) (.error fault),
            logged (.stepFailed fault .superstar ctx.author.id)])
        ctx

/-- Issuing the infraction, if there is one. -/
inductive Issues (settings : ModerationSettings) (t : Sanction) (ctx : Context) :
    Conversation Moderation → Context → Prop where
  | unasked (h : t.infraction = .none) : Issues settings t ctx [] ctx
  | done (h : t.infraction ≠ .none) {before : Conversation Moderation} {expiry : Option Instant}
      (he : Expires t.duration before expiry) :
      Issues settings t ctx
        (before ++
          [asked (.issueInfraction
            ⟨ctx.author, t.infraction, expiry, t.reason, t.replyChannel settings ctx⟩) (.ok ())])
        (ctx.describe t.infraction.word)
  | failed (h : t.infraction ≠ .none) {before : Conversation Moderation} {expiry : Option Instant}
      (he : Expires t.duration before expiry) (fault : Fault) :
      Issues settings t ctx
        (before ++
          [asked (.issueInfraction
              ⟨ctx.author, t.infraction, expiry, t.reason, t.replyChannel settings ctx⟩)
              (.error fault),
            logged (.stepFailed fault .infraction ctx.author.id)])
        ctx

/-- Carrying a sanction out: the three steps in their order, each whatever became of the others. -/
inductive Carries (settings : ModerationSettings) (t : Sanction) (ctx : Context) :
    Conversation Moderation → Context → Prop where
  | steps {told renamed issued : Conversation Moderation} {ctx₁ ctx₂ ctx₃ : Context}
      (hn : Notifies settings t ctx told ctx₁) (hr : Renames ctx₁ t.superstar renamed ctx₂)
      (hi : Issues settings t ctx₂ issued ctx₃) :
      Carries settings t ctx (told ++ renamed ++ issued) ctx₃

/-! ## § Every run follows a rule -/

/-- A step that goes through is left alone. -/
theorem play_bestEffort_ok {run : Action Unit} {step : SanctionStep} {ctx' : Context}
    {after : Conversation Moderation} (h : run.play s ctx past = ((.ok (), ctx'), after)) :
    (bestEffort step run).play s ctx past = ((.ok (), ctx'), after) := by
  simp [bestEffort, h]

/-- A step that fails leaves a line in the log. -/
theorem play_bestEffort_error (hlog : s.Logs) {run : Action Unit} {step : SanctionStep}
    {ctx' : Context} {after : Conversation Moderation} {fault : Fault}
    (h : run.play s ctx past = ((.error fault, ctx'), after)) :
    (bestEffort step run).play s ctx past =
      ((.ok (), ctx'), after ++ [logged (.stepFailed fault step ctx'.author.id)]) := by
  simp [bestEffort, h, play_log hlog]

theorem play_expiry (ctx : Context) (past : Conversation Moderation) (duration : Option Number) :
    ∃ before moment, (expiry duration).play s ctx past = ((.ok moment, ctx), past ++ before) ∧
      Expires duration before moment := by
  cases duration with
  | none => exact ⟨[], none, by simp [expiry], .never⟩
  | some d => exact ⟨_, _, rfl, .after d (s past .clock)⟩

/-- Telling the author, once it is settled what to say. -/
def tell (ctx : Context) : Action Unit := do
  let mention ← platform (.mention ctx.author) id
  let delivery ← platform (directMessage ctx mention) id
  if delivery = .forbidden then
    log (.messagesClosed ctx.author.id ctx.channel.id)
    platform (channelMessage ctx mention) id
  modify (·.describe (Text.ofString "notified"))

theorem play_tell (hlog : s.Logs) {run : Action Unit} {before : Context}
    (hrun : run.play s before past = (tell ctx).play s ctx past) :
    ∃ ctx' told, (bestEffort .notify run).play s before past = ((.ok (), ctx'), past ++ told) ∧
      Tells ctx told ctx' := by
  cases hmention : s past (.platform (.mention ctx.author)) with
  | error fault =>
    simp only [tell, play_bind, play_platform hmention, id] at hrun
    refine ⟨_, _, ?_, .unaddressed fault⟩
    rw [play_bestEffort_error hlog hrun, List.append_assoc]
    rfl
  | ok mention =>
    cases hdelivery : s (past ++ [asked (.mention ctx.author) (.ok mention)])
        (.platform (directMessage ctx mention)) with
    | error fault =>
      simp only [tell, play_bind, play_platform hmention, play_platform hdelivery, id] at hrun
      refine ⟨_, _, ?_, .undelivered mention fault⟩
      rw [play_bestEffort_error hlog hrun]
      simp only [List.append_assoc]
      rfl
    | ok delivery =>
      cases delivery with
      | sent =>
        simp only [tell, play_bind, play_platform hmention, play_platform hdelivery, id] at hrun
        refine ⟨_, _, ?_, .delivered mention⟩
        rw [play_bestEffort_ok hrun]
        simp only [List.append_assoc]
        rfl
      | forbidden =>
        cases hchannel : s (past ++ [asked (.mention ctx.author) (.ok mention)] ++
            [asked (directMessage ctx mention) (.ok .forbidden)] ++
            [logged (.messagesClosed ctx.author.id ctx.channel.id)])
            (.platform (channelMessage ctx mention)) with
        | error fault =>
          simp only [tell, play_bind, play_platform hmention, play_platform hdelivery,
            play_platform hchannel, play_log hlog, if_true, id] at hrun
          refine ⟨_, _, ?_, .lost mention fault⟩
          rw [play_bestEffort_error hlog hrun]
          simp only [List.append_assoc]
          rfl
        | ok u =>
          simp only [tell, play_bind, play_platform hmention, play_platform hdelivery,
            play_platform hchannel, play_log hlog, if_true, id] at hrun
          refine ⟨_, _, ?_, .rerouted mention⟩
          rw [play_bestEffort_ok hrun]
          simp only [List.append_assoc]
          rfl

theorem notify_of_not_silent {t : Sanction} (h : ¬ t.Silent ctx) :
    (t.notify settings).play s ctx past =
      (tell (t.noticed settings ctx)).play s (t.noticed settings ctx) past := by
  unfold Silent at h
  simp only [notify, play_bind, play_modify, play_get, if_neg h, tell, noticed]
  rfl

theorem play_notify (hlog : s.Logs) (settings : ModerationSettings) (t : Sanction) (ctx : Context)
    (past : Conversation Moderation) :
    ∃ ctx' told, (bestEffort .notify (t.notify settings)).play s ctx past =
        ((.ok (), ctx'), past ++ told) ∧
      Notifies settings t ctx told ctx' := by
  by_cases hsilent : t.Silent ctx
  · have hrun : (t.notify settings).play s ctx past = ((.ok (), t.addTexts ctx), past) := by
      unfold Silent at hsilent
      simp [notify, hsilent]
    exact ⟨_, [], by simpa using play_bestEffort_ok hrun, .silent hsilent⟩
  · obtain ⟨ctx', told, hplay, htells⟩ := play_tell hlog (notify_of_not_silent hsilent)
    exact ⟨ctx', told, hplay, .tells hsilent htells⟩


theorem play_rename (hlog : s.Logs) (star : Superstar) (ctx : Context)
    (past : Conversation Moderation) :
    ∃ ctx' renamed, (bestEffort .superstar (rename star)).play s ctx past =
        ((.ok (), ctx'), past ++ renamed) ∧
      Renames ctx (some star) renamed ctx' := by
  obtain ⟨before, moment, hexpiry, hexpires⟩ := play_expiry (s := s) ctx past star.duration
  cases hrename : s (past ++ before)
      (.platform (.forceRename ⟨ctx.author, moment, star.reason, ctx.channel⟩)) with
  | error fault =>
    have hrun : (rename star).play s ctx past = ((.error fault, ctx), past ++ before ++
        [asked (.forceRename ⟨ctx.author, moment, star.reason, ctx.channel⟩) (.error fault)]) := by
      simp only [rename, play_bind, play_get, hexpiry, play_platform hrename, id]
    refine ⟨_, _, ?_, .failed star hexpires fault⟩
    rw [play_bestEffort_error hlog hrun]
    simp only [List.append_assoc]
    rfl
  | ok u =>
    have hrun : (rename star).play s ctx past =
        ((.ok (), ctx.describe (Text.ofString "superstarred")), past ++ before ++
          [asked (.forceRename ⟨ctx.author, moment, star.reason, ctx.channel⟩) (.ok ())]) := by
      simp only [rename, play_bind, play_get, hexpiry, play_platform hrename, id]
      rfl
    refine ⟨_, _, ?_, .done star hexpires⟩
    rw [play_bestEffort_ok hrun]
    simp only [List.append_assoc]

theorem play_issue (hlog : s.Logs) (settings : ModerationSettings) {t : Sanction}
    (h : t.infraction ≠ .none) (ctx : Context) (past : Conversation Moderation) :
    ∃ ctx' issued, (bestEffort .infraction (t.issue settings)).play s ctx past =
        ((.ok (), ctx'), past ++ issued) ∧
      Issues settings t ctx issued ctx' := by
  obtain ⟨before, moment, hexpiry, hexpires⟩ := play_expiry (s := s) ctx past t.duration
  cases hissue : s (past ++ before) (.platform (.issueInfraction
      ⟨ctx.author, t.infraction, moment, t.reason, t.replyChannel settings ctx⟩)) with
  | error fault =>
    have hrun : (t.issue settings).play s ctx past = ((.error fault, ctx), past ++ before ++
        [asked (.issueInfraction
          ⟨ctx.author, t.infraction, moment, t.reason, t.replyChannel settings ctx⟩)
          (.error fault)]) := by
      simp only [issue, play_bind, play_get, hexpiry, play_platform hissue, id]
    refine ⟨_, _, ?_, .failed h hexpires fault⟩
    rw [play_bestEffort_error hlog hrun]
    simp only [List.append_assoc]
    rfl
  | ok u =>
    have hrun : (t.issue settings).play s ctx past =
        ((.ok (), ctx.describe t.infraction.word), past ++ before ++
          [asked (.issueInfraction
            ⟨ctx.author, t.infraction, moment, t.reason, t.replyChannel settings ctx⟩)
            (.ok ())]) := by
      simp only [issue, play_bind, play_get, hexpiry, play_platform hissue, id]
      rfl
    refine ⟨_, _, ?_, .done h hexpires⟩
    rw [play_bestEffort_ok hrun]
    simp only [List.append_assoc]

/-- The last step, when it may not be asked for. -/
theorem play_issue? (hlog : s.Logs) (settings : ModerationSettings) (t : Sanction) (ctx : Context)
    (past : Conversation Moderation) :
    ∃ ctx' issued,
      (if t.infraction ≠ .none then bestEffort .infraction (t.issue settings) else pure ()).play
          s ctx past = ((.ok (), ctx'), past ++ issued) ∧
        Issues settings t ctx issued ctx' := by
  by_cases h : t.infraction = .none
  · exact ⟨ctx, [], by simp [h], .unasked h⟩
  · rw [if_pos h]
    exact play_issue hlog settings h ctx past

/-- **A sanction never fails.**  Every run of it makes its three steps, each by one of its rules. -/
theorem play_apply (hlog : s.Logs) (settings : ModerationSettings) (t : Sanction) (ctx : Context)
    (past : Conversation Moderation) :
    ∃ ctx' record, (t.apply settings).play s ctx past = ((.ok (), ctx'), past ++ record) ∧
      Carries settings t ctx record ctx' := by
  obtain ⟨ctx₁, told, hnotify, hn⟩ := play_notify hlog settings t ctx past
  cases hstar : t.superstar with
  | none =>
    obtain ⟨ctx₂, issued, hissue, hi⟩ := play_issue? hlog settings t ctx₁ (past ++ told)
    refine ⟨ctx₂, told ++ [] ++ issued, ?_, .steps hn (hstar ▸ .unasked) hi⟩
    simp only [apply, play_bind, hnotify, hstar, hissue]
    simp
  | some star =>
    obtain ⟨ctx₂, renamed, hrename, hr⟩ := play_rename hlog star ctx₁ (past ++ told)
    obtain ⟨ctx₃, issued, hissue, hi⟩ :=
      play_issue? hlog settings t ctx₂ (past ++ told ++ renamed)
    refine ⟨ctx₃, told ++ renamed ++ issued, ?_, .steps hn (hstar ▸ hr) hi⟩
    simp only [apply, play_bind, hnotify, hstar, hrename, hissue]
    simp

end Sanction

/-- Carrying out a set: its sanction, if there is one. -/
inductive ActionSet.Carries (settings : ModerationSettings) (set : ActionSet) (ctx : Context) :
    Conversation Moderation → Context → Prop where
  | nothing (h : set.sanction = none) : ActionSet.Carries settings set ctx [] ctx
  | sanction {t : Sanction} {record : Conversation Moderation} {ctx' : Context}
      (h : set.sanction = some t) (hc : t.Carries settings ctx record ctx') :
      ActionSet.Carries settings set ctx record ctx'

theorem ActionSet.play_apply {s : Surroundings Moderation} (hlog : s.Logs)
    (settings : ModerationSettings) (set : ActionSet) (ctx : Context)
    (past : Conversation Moderation) :
    ∃ ctx' record, (set.apply settings).play s ctx past = ((.ok (), ctx'), past ++ record) ∧
      set.Carries settings ctx record ctx' := by
  cases hset : set.sanction with
  | none => exact ⟨ctx, [], by simp [apply, hset], .nothing hset⟩
  | some t =>
    obtain ⟨ctx', record, hrun, hc⟩ := Sanction.play_apply hlog settings t ctx past
    exact ⟨ctx', record, by simp [apply, hset, hrun], .sanction hset hc⟩

end ChatModeration
