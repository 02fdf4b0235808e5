/-
ChatModeration.Proofs.SanctionConduct — what a sanction asks for, and of whom.

The rules of `SanctionSteps` say what each step can look like.  Here the three
steps are put back together: which requests are made, with which texts and
expiries, is a function of the sanction, of the context it found and of what was
answered; nothing that fails on the way takes a later request away.

The texts are read off the context that is left.  No step after the merging
touches them (`Context.SameNotice`), so they are the ones that were sent.  What
the requests hold is written out in the statement (`apply_best_effort`).
-/
import ChatModeration.Proofs.DispatchConduct
import ChatModeration.Proofs.Relay

namespace ChatModeration

/-! ## § The notice -/

/-- The notice to the author is the same in both contexts. -/
structure Context.SameNotice (ctx ctx' : Context) : Prop where
  dmContent : ctx'.dmContent = ctx.dmContent
  dmEmbed : ctx'.dmEmbed = ctx.dmEmbed

namespace Context

theorem SameNotice.refl (ctx : Context) : ctx.SameNotice ctx := ⟨rfl, rfl⟩

theorem SameNotice.trans {ctx ctx' ctx'' : Context} (h : ctx.SameNotice ctx')
    (h' : ctx'.SameNotice ctx'') : ctx.SameNotice ctx'' :=
  ⟨h'.dmContent.trans h.dmContent, h'.dmEmbed.trans h.dmEmbed⟩

theorem sameNotice_describe (ctx : Context) (word : Text) : ctx.SameNotice (ctx.describe word) :=
  ⟨rfl, rfl⟩

end Context

namespace Sanction

open ChatModeration.Action

variable {settings : ModerationSettings} {s : Surroundings Moderation} {t : Sanction}
  {ctx ctx' : Context} {past record : Conversation Moderation}

theorem Tells.sameNotice (h : Tells ctx record ctx') : ctx.SameNotice ctx' := by
  cases h with
  | unaddressed | undelivered | lost => exact .refl ctx
  | delivered | rerouted => exact ctx.sameNotice_describe _

theorem Renames.sameNotice {star : Option Superstar} (h : Renames ctx star record ctx') :
    ctx.SameNotice ctx' := by
  cases h with
  | unasked | failed => exact .refl ctx
  | done => exact ctx.sameNotice_describe _

theorem Issues.sameNotice (h : Issues settings t ctx record ctx') : ctx.SameNotice ctx' := by
  cases h with
  | unasked | failed => exact .refl ctx
  | done => exact ctx.sameNotice_describe _

/-! ## § The calls -/

/-- The calls that tell an author something, given how the platform addresses the author: none if it
does not; otherwise a private message and, exactly when that was forbidden, the same in the
channel. -/
inductive Addresses (author : Actor) (channel : Channel) (content : Text → Text)
    (embed : Option RichContent) : Except Fault Text → List Call → Prop where
  | unaddressed (fault : Fault) : Addresses author channel content embed (.error fault) []
  | inPrivate (mention : Text) (delivery : Except Fault Delivery)
      (h : delivery ≠ .ok .forbidden) :
      Addresses author channel content embed (.ok mention)
        [⟨.sendDirectMessage author (content mention) embed, delivery⟩]
  | inChannel (mention : Text) (answer : Except Fault Unit) :
      Addresses author channel content embed (.ok mention)
        [⟨.sendDirectMessage author (content mention) embed, .ok .forbidden⟩,
          ⟨.sendToChannel channel (content mention) embed, answer⟩]

/-- One call, for a measure of the given duration: if the measure ends, the record has a look at the
clock right before the call, and the end is counted from there. -/
def MadeOnce (record : Conversation Moderation) (duration : Option Number)
    (request : Option Instant → PlatformRequest) (made : List Call) : Prop :=
  ∃ look moment answer, Expires duration look moment ∧
    made = [⟨request moment, answer⟩] ∧ look ++ [asked (request moment) answer] <:+: record

theorem MadeOnce.within {duration : Option Number} {request : Option Instant → PlatformRequest}
    {made : List Call} (h : MadeOnce record duration request made)
    (before after : Conversation Moderation) :
    MadeOnce (before ++ record ++ after) duration request made := by
  obtain ⟨look, moment, answer, hexpires, hmade, hinfix⟩ := h
  exact ⟨look, moment, answer, hexpires, hmade, hinfix.trans (List.infix_append before record after)⟩

/-! ## § Step by step -/

/-- Telling the author starts with the question how to address them; the rest follows from what is
answered. -/
theorem Tells.addresses (h : Tells ctx record ctx') :
    ∃ mention later, record = asked (.mention ctx.author) mention :: later ∧
      Addresses ctx.author ctx.channel (greeting · ctx.dmContent) (noticeEmbed ctx) mention
        (calls record) := by
  cases h with
  | unaddressed fault => exact ⟨_, _, rfl, .unaddressed fault⟩
  | undelivered mention fault => exact ⟨_, _, rfl, .inPrivate mention (.error fault) (by simp)⟩
  | delivered mention => exact ⟨_, _, rfl, .inPrivate mention (.ok .sent) (by simp)⟩
  | rerouted mention => exact ⟨_, _, rfl, .inChannel mention (.ok ())⟩
  | lost mention fault => exact ⟨_, _, rfl, .inChannel mention (.error fault)⟩

/-- The texts are merged in whether or not they leave anything to say. -/
theorem Notifies.texts (h : Notifies settings t ctx record ctx') :
    ctx'.dmContent = Bullets.merge ctx.dmContent t.dmContent ∧
      ctx'.dmEmbed.description = Bullets.merge ctx.dmEmbed.description t.dmEmbed ∧
      ctx'.dmEmbed.thumbnailUrl = ctx.dmEmbed.thumbnailUrl := by
  cases h with
  | silent => exact ⟨rfl, rfl, rfl⟩
  | tells _ ht =>
    obtain ⟨hcontent, hembed⟩ := ht.sameNotice
    exact ⟨hcontent, congrArg (·.description) hembed, congrArg (·.thumbnailUrl) hembed⟩

theorem Notifies.addresses (h : Notifies settings t ctx record ctx') (hsaid : ¬ t.Silent ctx) :
    ctx'.dmEmbed.colour = some (ctx.dmEmbed.colour.getD settings.dmColour) ∧
      ∃ mention later, record = asked (.mention ctx.author) mention :: later ∧
        Addresses ctx.author ctx.channel (greeting · ctx'.dmContent) (noticeEmbed ctx') mention
          (calls record) := by
  cases h with
  | silent hsilent => exact absurd hsilent hsaid
  | tells _ ht =>
    obtain ⟨hcontent, hembed⟩ := ht.sameNotice
    refine ⟨congrArg (·.colour) hembed, ?_⟩
    rw [hcontent, noticeEmbed, hembed]
    exact ht.addresses

theorem Notifies.silent_calls (h : Notifies settings t ctx record ctx') (hsilent : t.Silent ctx) :
    calls record = [] := by
  cases h with
  | silent => rfl
  | tells hsaid => exact absurd hsilent hsaid

/-- No colour is chosen when there is nothing to say. -/
theorem Notifies.silent_colour (h : Notifies settings t ctx record ctx') (hsilent : t.Silent ctx) :
    ctx'.dmEmbed.colour = ctx.dmEmbed.colour := by
  cases h with
  | silent => rfl
  | tells hsaid => exact absurd hsilent hsaid

theorem Renames.madeOnce {star : Superstar} (h : Renames ctx (some star) record ctx') :
    MadeOnce record star.duration
      (fun moment => .forceRename ⟨ctx.author, moment, star.reason, ctx.channel⟩)
      (calls record) := by
  cases h with
  | done _ he =>
    refine ⟨_, _, .ok (), he, ?_, List.infix_rfl⟩
    rw [calls_append, he.calls_eq]
    rfl
  | failed _ he fault =>
    refine ⟨_, _, .error fault, he, ?_, ⟨[], [_], by simp; rfl⟩⟩
    rw [calls_append, he.calls_eq]
    rfl

theorem Issues.madeOnce (h : Issues settings t ctx record ctx') (hasked : t.infraction ≠ .none) :
    MadeOnce record t.duration
      (fun moment => .issueInfraction
        ⟨ctx.author, t.infraction, moment, t.reason, t.replyChannel settings ctx⟩)
      (calls record) := by
  cases h with
  | unasked hnone => exact absurd hnone hasked
  | done _ he =>
    refine ⟨_, _, .ok (), he, ?_, List.infix_rfl⟩
    rw [calls_append, he.calls_eq]
    rfl
  | failed _ he fault =>
    refine ⟨_, _, .error fault, he, ?_, ⟨[], [_], by simp; rfl⟩⟩
    rw [calls_append, he.calls_eq]
    rfl

/-! ## § Every sanction -/

/-- **Best effort.**  However the platform answers, a sanction comes to its end.  The context is left
with the texts merged in, and these are what the author is told, unless there is nothing to say; then
the rename is asked for, then the infraction, each exactly if the sanction has one.  What is described
as done is what was answered to have been done. -/
theorem apply_best_effort (hlog : s.Logs) (settings : ModerationSettings) (t : Sanction)
    (ctx : Context) (past : Conversation Moderation) :
    ∃ ctx' record told renamed issued,
      (t.apply settings).play s ctx past = ((.ok (), ctx'), past ++ record) ∧
      s.Gave past record ∧ ctx.Follows record ctx' ∧
      ctx'.dmContent = Bullets.merge ctx.dmContent t.dmContent ∧
      ctx'.dmEmbed.description = Bullets.merge ctx.dmEmbed.description t.dmEmbed ∧
      ctx'.dmEmbed.thumbnailUrl = ctx.dmEmbed.thumbnailUrl ∧
      calls record = told ++ renamed ++ issued ∧
      (ctx'.dmContent = [] ∧ ctx'.dmEmbed.description = [] →
        ctx'.dmEmbed.colour = ctx.dmEmbed.colour ∧ told = []) ∧
      (¬ (ctx'.dmContent = [] ∧ ctx'.dmEmbed.description = []) →
        ctx'.dmEmbed.colour = some (ctx.dmEmbed.colour.getD settings.dmColour) ∧
        Addresses ctx.author ctx.channel
          (fun mention => Text.ofString "Hey " ++ mention ++ Text.ofString "!" ++
            (if ctx'.dmContent = [] then [] else 0x0A :: ctx'.dmContent))
          (if ctx'.dmEmbed.description = [] then none else some ctx'.dmEmbed)
          (s past (.platform (.mention ctx.author))) told) ∧
      (t.superstar = none → renamed = []) ∧
      (∀ star, t.superstar = some star →
        MadeOnce record star.duration
          (fun moment => .forceRename ⟨ctx.author, moment, star.reason, ctx.channel⟩) renamed) ∧
      (t.infraction = .none → issued = []) ∧
      (t.infraction ≠ .none →
        MadeOnce record t.duration
          (fun moment => .issueInfraction ⟨ctx.author, t.infraction, moment, t.reason,
            if t.infraction = .ban ∨ ctx.channel.guildId = none then settings.moderationChannel
            else ctx.channel⟩)
          issued) := by
  obtain ⟨ctx', record, hplay, hcarries⟩ := play_apply hlog settings t ctx past
  have hgave : s.Gave past record := play_gave hplay
  cases hcarries with
  | @steps told renamed issued ctx₁ ctx₂ _ hn hr hi =>
    have hsame : ctx₁.SameNotice ctx' := hr.sameNotice.trans hi.sameNotice
    obtain ⟨hcontent, hdescription, hthumbnail⟩ := hn.texts
    rw [← hsame.dmContent] at hcontent
    rw [← hsame.dmEmbed] at hdescription hthumbnail
    have hsilent : ctx'.dmContent = [] ∧ ctx'.dmEmbed.description = [] ↔ t.Silent ctx := by
      rw [hcontent, hdescription]
      rfl
    refine ⟨ctx', _, calls told, calls renamed, calls issued, hplay, hgave,
      (hn.follows.trans hr.follows).trans hi.follows, hcontent, hdescription, hthumbnail,
      by simp only [calls_append], ?_, ?_, ?_, ?_, ?_, ?_⟩
    · intro h
      rw [hsame.dmEmbed]
      exact ⟨hn.silent_colour (hsilent.mp h), hn.silent_calls (hsilent.mp h)⟩
    · intro hsaid
      obtain ⟨hcolour, mention, later, htold, haddresses⟩ := hn.addresses (mt hsilent.mpr hsaid)
      have hmention : mention = s past (.platform (.mention ctx.author)) := by
        rw [htold] at hgave
        exact hgave.1
      rw [hsame.dmEmbed, hsame.dmContent, ← hmention]
      exact ⟨hcolour, haddresses⟩
    · intro hstar
      rw [hstar] at hr
      cases hr
      rfl
    · intro star hstar
      rw [hstar] at hr
      have hmade := hr.madeOnce.within told issued
      rwa [hn.follows.incoming] at hmade
    · intro hnone
      cases hi with
      | unasked => rfl
      | done hasked | failed hasked => exact absurd hnone hasked
    · intro hsome
      have hmade := (hi.madeOnce hsome).within (told ++ renamed) []
      rw [List.append_nil] at hmade
      simp only [replyChannel, (hn.follows.trans hr.follows).incoming] at hmade
      exact hmade

/-- Private messages are closed, and of the other calls only the ban goes through: all four calls are
made all the same. -/
theorem apply_best_effort_forbidden :
    let s := Dispatch.closedToMessages
    let t : Sanction := ⟨.ban, Text.ofString "spam", none, Text.ofString "Please stop",
      Text.ofString "Mind the rules", some ⟨Text.ofString "name", some 600⟩⟩
    let ctx := Context.ofIncoming Dispatch.spam
    let moderators : Channel := ⟨Text.ofString "9009", [], some (Text.ofString "guild-1")⟩
    let settings : ModerationSettings := ⟨moderators, 7506394⟩
    let content := Text.ofString "Hey <@1001>!\nPlease stop"
    let embed : RichContent := ⟨Text.ofString "Mind the rules", some 7506394, none⟩
    let requests : List PlatformRequest :=
      [.sendDirectMessage ctx.author content (some embed),
        .sendToChannel Dispatch.general content (some embed),
        .forceRename ⟨ctx.author, some (.at 600000), Text.ofString "name", Dispatch.general⟩,
        .issueInfraction ⟨ctx.author, .ban, none, Text.ofString "spam", moderators⟩]
    s.Logs ∧ ∃ ctx' record told renamed issued,
      (t.apply settings).play s ctx [] = ((.ok (), ctx'), record) ∧
      calls record = told ++ renamed ++ issued ∧
      Addresses ctx.author Dispatch.general
        (fun mention => Text.ofString "Hey " ++ mention ++ Text.ofString "!\nPlease stop")
        (some embed) (.ok (Text.ofString "<@1001>")) told ∧
      MadeOnce record (some 600)
        (fun moment => .forceRename ⟨ctx.author, moment, Text.ofString "name", Dispatch.general⟩)
        renamed ∧
      MadeOnce record none
        (fun moment => .issueInfraction ⟨ctx.author, .ban, moment, Text.ofString "spam", moderators⟩)
        issued ∧
      (calls record).map (·.request) = requests ∧
      ctx'.actionDescriptions = [Text.ofString "ban"] := by
  intro s t ctx moderators settings content embed requests
  have hlog : s.Logs := Dispatch.closedToMessages_logs
  have hrun : let out := (t.apply settings).play s ctx []
      (calls out.2).map (·.request) = requests ∧
        out.1.2.actionDescriptions = [Text.ofString "ban"] := by
    decide +kernel
  obtain ⟨ctx', record, told, renamed, issued, hplay, -, -, hcontent, hdescription, hthumbnail,
    hcalls, -, htold, -, hrenamed, -, hissued⟩ := apply_best_effort hlog settings t ctx []
  rw [hplay] at hrun
  have hwords : ctx'.dmContent = Text.ofString "Please stop" := hcontent
  have hsaid : Text.ofString "Please stop" ≠ [] := by decide
  obtain ⟨hcolour, haddresses⟩ := htold fun h => hsaid (hwords ▸ h.1)
  have hembed : ctx'.dmEmbed = embed := by
    rw [show ctx'.dmEmbed = ⟨ctx'.dmEmbed.description, ctx'.dmEmbed.colour,
      ctx'.dmEmbed.thumbnailUrl⟩ from rfl, hdescription, hcolour, hthumbnail]
    rfl
  have hgreeting : (fun mention => Text.ofString "Hey " ++ mention ++ Text.ofString "!" ++
      (if ctx'.dmContent = [] then [] else 0x0A :: ctx'.dmContent)) =
      fun mention => Text.ofString "Hey " ++ mention ++ Text.ofString "!\nPlease stop" := by
    have hlines : Text.ofString "!" ++ 0x0A :: Text.ofString "Please stop" =
        Text.ofString "!\nPlease stop" := by decide
    funext mention
    rw [hwords, if_neg hsaid, List.append_assoc, hlines]
  rw [hgreeting, hembed, if_neg (by decide)] at haddresses
  exact ⟨hlog, ctx', record, told, renamed, issued, hplay, hcalls, haddresses, hrenamed _ rfl,
    hissued (by decide), hrun⟩

end Sanction
end ChatModeration
