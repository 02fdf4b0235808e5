/-
ChatModeration.Proofs.CombinedNotices — one notice that says what several would have said.

The sanctions of a message are carried out as one.  Carried out one after
another they would tell the author more and more: every private message repeats
what was to be said before it.  Both ways the context is left with all texts
merged from the first to the last, and the last private message is made from
that context (`Said`).

* `Carries.privateMessages`: one sanction asks for one private message, or for
  none when there is nothing to say.
* `Said.step`, `play_sequence`: one more sanction, and then all of them.
* `combined_notice`: the combined sanction leaves the same notice behind, and
  asks for the last private message of the sequence alone.

The merging of messages is not associative, but no brackets are moved here: the
combination and the context both merge from the left.
-/
import ChatModeration.Proofs.ReducedTexts
import ChatModeration.Proofs.SanctionConduct

namespace ChatModeration

/-! ## § Private messages -/

/-- A private message as it is asked for. -/
structure PrivateMessage where
  recipient : Actor
  content : Text
  embed : Option RichContent
deriving DecidableEq

/-- The private message that a call asks for, whatever becomes of it. -/
def Call.privateMessage? (c : Call) : Option PrivateMessage :=
  match c.request with
  | .sendDirectMessage actor content embed => some ⟨actor, content, embed⟩
  | _ => none

/-- The private messages that were asked for, in order. -/
def privateMessages (record : Conversation Moderation) : List PrivateMessage :=
  (calls record).filterMap Call.privateMessage?

@[simp] theorem privateMessages_append (record record' : Conversation Moderation) :
    privateMessages (record ++ record') = privateMessages record ++ privateMessages record' := by
  simp [privateMessages]

/-- A platform that always knows how to address a user. -/
def Surroundings.Mentions (s : Surroundings Moderation) (mention : Actor → Text) : Prop :=
  ∀ past actor, s past (.platform (.mention actor)) = .ok (mention actor)

theorem Bullets.merge_eq_nil {a b : Text} : merge a b = [] ↔ a = [] ∧ b = [] := by
  constructor
  · intro h
    have ha : a <:+: [] := h ▸ infix_merge_left a b
    have hb : b <:+: [] := h ▸ infix_merge_right a b
    exact ⟨List.infix_nil.mp ha, List.infix_nil.mp hb⟩
  · rintro ⟨rfl, rfl⟩
    simp

namespace Sanction

open ChatModeration.Action

variable {settings : ModerationSettings} {s : Surroundings Moderation} {t : Sanction}
  {ctx ctx' : Context} {past record made : Conversation Moderation} {mention : Actor → Text}

/-! ## § One sanction -/

theorem Renames.privateMessages {star : Option Superstar} (h : Renames ctx star made ctx') :
    privateMessages made = [] := by
  have hrenamed := h.renamed
  unfold ChatModeration.privateMessages
  generalize calls made = asked at hrenamed
  cases hrenamed <;> rfl

theorem Issues.privateMessages (h : Issues settings t ctx made ctx') :
    privateMessages made = [] := by
  have hissued := h.issued
  unfold ChatModeration.privateMessages
  generalize calls made = asked at hissued
  cases hissued <;> rfl

/-- An author who can be addressed is sent one private message, delivered or not. -/
theorem Addresses.privateMessages {author : Actor} {channel : Channel} {content : Text → Text}
    {name : Text} {embed : Option RichContent} {told : List Call}
    (h : Addresses author channel content embed (.ok name) told) :
    told.filterMap Call.privateMessage? = [⟨author, content name, embed⟩] := by
  cases h <;> rfl

/-- The private messages of one sanction: one that is made from the context it leaves, if there is
something to say. -/
theorem Carries.privateMessages (hc : t.Carries settings ctx made ctx') (hgave : s.Gave past made)
    (hmention : s.Mentions mention) :
    privateMessages made =
      if ctx'.dmContent = [] ∧ ctx'.dmEmbed.description = [] then []
      else [⟨ctx.author, greeting (mention ctx.author) ctx'.dmContent, noticeEmbed ctx'⟩] := by
  cases hc with
  | @steps told renamed issued ctx₁ ctx₂ _ hn hr hi =>
    obtain ⟨hcontent, hembed⟩ := hr.sameNotice.trans hi.sameNotice
    obtain ⟨hwords, hblock, -⟩ := hn.texts
    rw [privateMessages_append, privateMessages_append, hr.privateMessages, hi.privateMessages,
      List.append_nil, List.append_nil, hcontent, noticeEmbed, hembed]
    by_cases hsilent : t.Silent ctx
    · have hnothing : ctx₁.dmContent = [] ∧ ctx₁.dmEmbed.description = [] := by
        rw [hwords, hblock]
        exact hsilent
      rw [if_pos hnothing, ChatModeration.privateMessages, hn.silent_calls hsilent]
      rfl
    · have hsomething : ¬ (ctx₁.dmContent = [] ∧ ctx₁.dmEmbed.description = []) := by
        rw [hwords, hblock]
        exact hsilent
      obtain ⟨-, name, later, htold, haddresses⟩ := hn.addresses hsilent
      rw [htold] at hgave
      have hname : name = .ok (mention ctx.author) := hgave.1.trans (hmention past ctx.author)
      rw [hname] at haddresses
      rw [if_neg hsomething, ChatModeration.privateMessages, haddresses.privateMessages]
      rfl

/-- The notice that one sanction leaves: its texts are merged in, and the block has a colour once
there is something to say. -/
theorem Carries.notice (hc : t.Carries settings ctx made ctx') :
    ctx'.dmContent = Bullets.merge ctx.dmContent t.dmContent ∧
      ctx'.dmEmbed =
        ⟨Bullets.merge ctx.dmEmbed.description t.dmEmbed,
          if ctx'.dmContent = [] ∧ ctx'.dmEmbed.description = [] then ctx.dmEmbed.colour
          else some (ctx.dmEmbed.colour.getD settings.dmColour),
          ctx.dmEmbed.thumbnailUrl⟩ := by
  cases hc with
  | @steps told renamed issued ctx₁ ctx₂ _ hn hr hi =>
    obtain ⟨hcontent, hembed⟩ := hr.sameNotice.trans hi.sameNotice
    rw [hcontent, hembed]
    cases hn with
    | silent hsilent =>
      have hnothing : (t.addTexts ctx).dmContent = [] ∧ (t.addTexts ctx).dmEmbed.description = [] :=
        hsilent
      rw [if_pos hnothing]
      exact ⟨rfl, rfl⟩
    | tells hsaid ht =>
      have hsomething : ¬ ((t.noticed settings ctx).dmContent = [] ∧
          (t.noticed settings ctx).dmEmbed.description = []) := hsaid
      obtain ⟨hcontent₁, hembed₁⟩ := ht.sameNotice
      rw [hcontent₁, hembed₁, if_neg hsomething]
      exact ⟨rfl, rfl⟩

/-! ## § One sanction after another -/

/-- Carries sanctions out, each on the context that the one before it has left. -/
def applyAll (settings : ModerationSettings) (entries : List Sanction) : Action Unit :=
  forM entries (Sanction.apply settings)

/-- After the texts `words` and `block` have been merged in from the start: the context holds them,
and the last private message is made from it, if there is something to say. -/
structure Said (settings : ModerationSettings) (mention : Actor → Text) (event : Incoming)
    (words block : Text) (ctx : Context) (record : Conversation Moderation) : Prop where
  incoming : ctx.toIncoming = event
  dmContent : ctx.dmContent = words
  dmEmbed : ctx.dmEmbed =
    ⟨block, if words = [] ∧ block = [] then none else some settings.dmColour, none⟩
  last : (privateMessages record).getLast? =
    if words = [] ∧ block = [] then none
    else some ⟨event.author, greeting (mention event.author) words, noticeEmbed ctx⟩

variable {event : Incoming} {words block : Text}

theorem said_start (settings : ModerationSettings) (mention : Actor → Text) (event : Incoming) :
    Said settings mention event [] [] (Context.ofIncoming event) [] :=
  ⟨rfl, rfl, rfl, rfl⟩

/-- One more sanction adds its texts to what has been said. -/
theorem Said.step (h : Said settings mention event words block ctx record)
    (hc : t.Carries settings ctx made ctx') (hgave : s.Gave past made)
    (hmention : s.Mentions mention) :
    Said settings mention event (Bullets.merge words t.dmContent) (Bullets.merge block t.dmEmbed)
      ctx' (record ++ made) := by
  obtain ⟨hcontent, hembed⟩ := hc.notice
  have hmessages := hc.privateMessages hgave hmention
  have hdescription := congrArg (·.description) hembed
  have hauthor : ctx.author = event.author := by rw [h.incoming]
  rw [h.dmContent] at hcontent
  simp only [h.dmEmbed] at hembed hdescription
  rw [hcontent, hdescription] at hembed hmessages
  refine ⟨hc.follows.incoming.trans h.incoming, hcontent, hembed.trans ?_, ?_⟩
  · -- once a colour is chosen it stays, and it was chosen from the same settings
    split <;> split <;> simp_all [Bullets.merge_eq_nil]
  · rw [privateMessages_append, List.getLast?_append, hmessages, hauthor, h.last]
    split <;> simp_all [Bullets.merge_eq_nil]

theorem play_sequence (hlog : s.Logs) (hmention : s.Mentions mention) (entries : List Sanction)
    (h : Said settings mention event words block ctx record) (past : Conversation Moderation) :
    ∃ ctx' made, (applyAll settings entries).play s ctx past =
        ((.ok (), ctx'), past ++ made) ∧
      Said settings mention event ((entries.map (·.dmContent)).foldl Bullets.merge words)
        ((entries.map (·.dmEmbed)).foldl Bullets.merge block) ctx' (record ++ made) := by
  induction entries generalizing ctx past record words block with
  | nil => exact ⟨ctx, [], by simp [applyAll], by simpa using h⟩
  | cons t later ih =>
    obtain ⟨ctx₁, first, hfirst, hc⟩ := play_apply hlog settings t ctx past
    obtain ⟨ctx₂, rest, hrest, hsaid⟩ :=
      ih (h.step hc (play_gave hfirst) hmention) (past ++ first)
    refine ⟨ctx₂, first ++ rest, ?_, ?_⟩
    · rw [applyAll, List.forM_cons, play_bind_ok hfirst, ← applyAll, hrest, List.append_assoc]
    · rw [List.append_assoc] at hsaid
      exact hsaid

end Sanction

/-! ## § All sanctions in one -/

namespace ActionSet

open Sanction (Said noticeEmbed)

variable {settings : ModerationSettings} {s s' : Surroundings Moderation} {entries : List Sanction}
  {ctx' : Context} {past made : Conversation Moderation} {mention : Actor → Text} {event : Incoming}

theorem toList_getLast? {messages : List PrivateMessage} (h : messages.length ≤ 1) :
    messages.getLast?.toList = messages := by
  match messages with
  | [] => rfl
  | [_] => rfl
  | _ :: _ :: _ => simp at h

theorem filterMap_ofSanction (entries : List Sanction) :
    (entries.map ofSanction).filterMap (·.sanction) = entries := by
  induction entries with
  | nil => rfl
  | cons t later ih => simp [ofSanction, ih]

/-- The combined sanction says what all of them would have said. -/
theorem said_ofSanctions
    (hc : (ofSanctions entries).Carries settings (Context.ofIncoming event) made ctx')
    (hgave : s.Gave past made) (hmention : s.Mentions mention) :
    Said settings mention event (Bullets.mergeAll (entries.map (·.dmContent)))
      (Bullets.mergeAll (entries.map (·.dmEmbed))) ctx' made ∧
      (privateMessages made).length ≤ 1 := by
  have hstart := Sanction.said_start settings mention event
  cases entries with
  | nil =>
    cases hc with
    | nothing => exact ⟨hstart, Nat.zero_le 1⟩
    | sanction hset => cases hset
  | cons first later =>
    have hset : ofSanctions (first :: later) = ofSanction (later.foldl Sanction.combine first) :=
      mergeAll_eq (filterMap_ofSanction (first :: later))
    have htexts : Sanction.Gathers (first :: later) (later.foldl Sanction.combine first) :=
      (Sanction.gathers_single first).foldl later
    cases hc with
    | nothing hnone => rw [hset] at hnone; cases hnone
    | sanction hsome hcarries =>
      rw [hset] at hsome
      cases hsome
      have hsaid := hstart.step hcarries hgave hmention
      rw [Bullets.merge_nil_left, Bullets.merge_nil_left, htexts.dmContent, htexts.dmEmbed] at hsaid
      refine ⟨hsaid, ?_⟩
      rw [hcarries.privateMessages hgave hmention]
      split <;> simp

/-- **One notice instead of several.**  However the calls to two platforms fail that both know how to
address the author, carrying out all sanctions in one on a new context leaves the same private text
and the same block as carrying them out one after another.  The one asks for a private message just
when the other asks for any, and then for the last of them alone. -/
theorem combined_notice (hlog : s.Logs) (hlog' : s'.Logs) (hmention : s.Mentions mention)
    (hmention' : s'.Mentions mention) (settings : ModerationSettings) (entries : List Sanction)
    (event : Incoming) (past past' : Conversation Moderation) :
    let start := Context.ofIncoming event
    ∃ ctx combined ctx' sequence,
      ((ofSanctions entries).apply settings).play s start past = ((.ok (), ctx), past ++ combined) ∧
      (Sanction.applyAll settings entries).play s' start past' =
        ((.ok (), ctx'), past' ++ sequence) ∧
      ctx.dmContent = ctx'.dmContent ∧ ctx.dmEmbed = ctx'.dmEmbed ∧
      (privateMessages combined ≠ [] ↔ privateMessages sequence ≠ []) ∧
      privateMessages combined = (privateMessages sequence).getLast?.toList := by
  intro start
  obtain ⟨ctx, combined, hcombined, hc⟩ := play_apply hlog settings (ofSanctions entries) start past
  obtain ⟨hsaid, hone⟩ := said_ofSanctions hc (Action.play_gave hcombined) hmention
  obtain ⟨ctx', sequence, hsequence, hsaid'⟩ := Sanction.play_sequence hlog' hmention' entries
    (Sanction.said_start settings mention event) past'
  have hembed : ctx.dmEmbed = ctx'.dmEmbed := hsaid.dmEmbed.trans hsaid'.dmEmbed.symm
  have hlast : (privateMessages combined).getLast? = (privateMessages sequence).getLast? := by
    have hlast' := hsaid'.last
    rw [List.nil_append, noticeEmbed, ← hembed] at hlast'
    exact hsaid.last.trans hlast'.symm
  refine ⟨ctx, combined, ctx', sequence, hcombined, hsequence,
    hsaid.dmContent.trans hsaid'.dmContent.symm, hembed, ?_, ?_⟩
  · rw [ne_eq, ne_eq, ← List.getLast?_eq_none_iff, hlast, List.getLast?_eq_none_iff]
  · rw [← hlast]
    exact (toList_getLast? hone).symm

/-- A platform that refuses everything and one that does everything: the one message of the former is
the last of the three that the latter is asked for.  The ban in the middle has nothing to say, and
repeats what was said before it. -/
theorem combined_notice_three :
    let s := Dispatch.answering (.ok .forbidden) (.error (.failure []))
    let s' := Dispatch.answering (.ok .sent) (.ok ())
    let stop : Sanction := ⟨.none, [], none, Text.ofString "Please stop", [], none⟩
    let ban : Sanction := ⟨.ban, Text.ofString "spam", none, [], [], none⟩
    let bye : Sanction := ⟨.none, [], none, Text.ofString "Bye", [], none⟩
    let mention : Actor → Text := fun _ => []
    let settings := Dispatch.toWebhook.moderation
    let start := Context.ofIncoming Dispatch.spam
    (s.Logs ∧ s'.Logs ∧ s.Mentions mention ∧ s'.Mentions mention) ∧
      ∃ ctx combined ctx' sequence,
        ((ofSanctions [stop, ban, bye]).apply settings).play s start [] =
          ((.ok (), ctx), combined) ∧
        (Sanction.applyAll settings [stop, ban, bye]).play s' start [] =
          ((.ok (), ctx'), sequence) ∧
        (privateMessages sequence).length = 3 ∧
        privateMessages combined =
          [⟨Dispatch.spam.author, Text.ofString "Hey !\n• Please stop\n\n• Bye", none⟩] := by
  intro s s' stop ban bye mention settings start
  have hlog : s.Logs := Dispatch.answering_logs _ _
  have hlog' : s'.Logs := Dispatch.answering_logs _ _
  have hmention : s.Mentions mention := fun _ _ => rfl
  have hmention' : s'.Mentions mention := fun _ _ => rfl
  obtain ⟨ctx, combined, ctx', sequence, hcombined, hsequence, -, -, -, hlast⟩ :=
    combined_notice hlog hlog' hmention hmention' settings [stop, ban, bye] Dispatch.spam [] []
  have hthree : privateMessages
      ((Sanction.applyAll settings [stop, ban, bye]).play s' start []).2 =
        [⟨Dispatch.spam.author, Text.ofString "Hey !\nPlease stop", none⟩,
          ⟨Dispatch.spam.author, Text.ofString "Hey !\nPlease stop", none⟩,
          ⟨Dispatch.spam.author, Text.ofString "Hey !\n• Please stop\n\n• Bye", none⟩] := by
    decide +kernel
  rw [hsequence] at hthree
  rw [List.nil_append] at hthree
  refine ⟨⟨hlog, hlog', hmention, hmention'⟩, ctx, combined, ctx', sequence, hcombined, hsequence,
    by rw [hthree]; rfl, ?_⟩
  rw [hlast, hthree]
  rfl

end ActionSet

end ChatModeration
