/-
ChatModeration.Proofs.ConfirmedMeasures — a confirmation comes after the measure.

What is said in a channel may confirm a measure, and then the call that takes
the measure must have gone through before (`Sayable`).  `InOrder` asks this of
every request, and whatever Discord is asked for a message or a measure keeps it,
whichever calls fail.  A measure that went through as a whole has been taken and
confirmed (`Completed`).
-/
import ChatModeration.Proofs.Measures
import ChatModeration.Proofs.Obligations
import ChatModeration.Sanction.Apply

namespace ChatModeration.Discord

/-! ## § Measures that have been taken -/

/-- A measure that has been taken against a member, by a call that went through.  A member who is
not in voice needs no voice ban; warnings, watches and notes are not enforced. -/
inductive Taken (member : Text) (record : Conversation Client) : Infraction → Prop where
  | ban {reason : Text} (h : .ban member reason ∈ succeeded record) : Taken member record .ban
  | kick {reason : Text} (h : .kick member reason ∈ succeeded record) : Taken member record .kick
  | mute {milliseconds : Number} {reason : Text}
      (h : .timeout member milliseconds reason ∈ succeeded record) : Taken member record .mute
  | voiceBan {reason : Text} (h : .disconnect member reason ∈ succeeded record) :
      Taken member record .voiceBan
  | notInVoice (h : ⟨.call (.fetchMember member), .ok false⟩ ∈ record) :
      Taken member record .voiceBan
  | superstar {reason : Option Text}
      (h : .setNickname member superstarNickname reason ∈ succeeded record) :
      Taken member record .superstar
  | warning : Taken member record .warning
  | watch : Taken member record .watch
  | note : Taken member record .note

variable {member : Text} {record : Conversation Client}

theorem mem_succeeded_append {c : Call} (h : c ∈ succeeded record) (later : Conversation Client) :
    c ∈ succeeded (record ++ later) := by
  rw [succeeded_append]
  exact List.mem_append_left _ h

theorem Taken.append {infraction : Infraction} (h : Taken member record infraction)
    (later : Conversation Client) : Taken member (record ++ later) infraction := by
  cases h with
  | ban h => exact .ban (mem_succeeded_append h later)
  | kick h => exact .kick (mem_succeeded_append h later)
  | mute h => exact .mute (mem_succeeded_append h later)
  | voiceBan h => exact .voiceBan (mem_succeeded_append h later)
  | notInVoice h => exact .notInVoice (List.mem_append_left _ h)
  | superstar h => exact .superstar (mem_succeeded_append h later)
  | warning => exact .warning
  | watch => exact .watch
  | note => exact .note

theorem mem_succeeded_last (record : Conversation Client) (c : Call) (a : c.Result) :
    c ∈ succeeded (record ++ [⟨.call c, .ok a⟩]) := by
  rw [succeeded_append, succeeded_ok]
  exact List.mem_append_right _ (List.mem_singleton_self c)

/-! ## § Confirmations -/

/-- Infractions have different names in running text. -/
theorem find_label (i : Infraction) :
    Infraction.hierarchy.find? (fun j => label j = label i) = some i := by
  cases i <;> decide

theorem label_injective {i j : Infraction} (h : label i = label j) : i = j := by
  have hi := find_label i
  rw [h, find_label j] at hi
  exact (Option.some.inj hi).symm

theorem confirmation_eq (r : InfractionRequest) :
    ∃ rest, confirmation r =
      Text.ofString "Applied " ++ 0x2A :: 0x2A :: (label r.infraction ++ 0x2A :: rest) := by
  have hstars : Text.ofString "**" = [0x2A, 0x2A] := by decide
  unfold confirmation Markdown.bold
  simp only [hstars, List.append_assoc, List.cons_append, List.nil_append]
  exact ⟨_, rfl⟩

theorem takeWhile_label (i : Infraction) (rest : Text) :
    (label i ++ 0x2A :: rest).takeWhile (· ≠ 0x2A) = label i := by
  have hplain : (label i).all (· ≠ 0x2A) = true := by
    cases i <;> rfl
  rw [List.takeWhile_append_of_pos (List.all_eq_true.mp hplain)]
  simp

/-- Confirmations of different infractions are different texts. -/
theorem confirmation_infraction {r r' : InfractionRequest} (h : confirmation r = confirmation r') :
    r.infraction = r'.infraction := by
  obtain ⟨rest, hrest⟩ := confirmation_eq r
  obtain ⟨rest', hrest'⟩ := confirmation_eq r'
  rw [hrest, hrest'] at h
  have hlabel := List.tail_eq_of_cons_eq (List.tail_eq_of_cons_eq (List.append_cancel_left h))
  refine label_injective ?_
  rw [← takeWhile_label r.infraction rest, hlabel, takeWhile_label]

theorem head?_confirmation (r : InfractionRequest) : (confirmation r).head? = some 0x41 := rfl

theorem head?_renameConfirmation (r : RenameRequest) :
    (renameConfirmation r).head? = some 0x3C := rfl

theorem head?_greeting (mention text : Text) :
    (Sanction.greeting mention text).head? = some 0x48 := rfl

/-- A text that may be said to a channel: if it confirms a measure, the measure has been taken. -/
structure Sayable (member : Text) (record : Conversation Client) (text : Text) : Prop where
  confirmed : ∀ r : InfractionRequest, text = confirmation r → Taken member record r.infraction
  renamed : ∀ r : RenameRequest, text = renameConfirmation r → Taken member record .superstar

theorem Sayable.append {text : Text} (h : Sayable member record text)
    (later : Conversation Client) : Sayable member (record ++ later) text :=
  ⟨fun r hr => (h.confirmed r hr).append later, fun r hr => (h.renamed r hr).append later⟩

/-- A text that begins in another way confirms nothing. -/
theorem sayable_of_head? {text : Text} (hA : text.head? ≠ some 0x41) (hm : text.head? ≠ some 0x3C) :
    Sayable member record text :=
  ⟨fun r hr => absurd (hr ▸ head?_confirmation r) hA,
    fun r hr => absurd (hr ▸ head?_renameConfirmation r) hm⟩

theorem sayable_greeting (mention text : Text) :
    Sayable member record (Sanction.greeting mention text) :=
  sayable_of_head? (by rw [head?_greeting]; decide) (by rw [head?_greeting]; decide)

theorem sayable_confirmation {r : InfractionRequest} (h : Taken member record r.infraction) :
    Sayable member record (confirmation r) := by
  refine ⟨fun r' hr' => confirmation_infraction hr' ▸ h, fun r' hr' => ?_⟩
  have hhead := head?_renameConfirmation r'
  rw [← hr', head?_confirmation] at hhead
  exact absurd hhead (by decide)

theorem sayable_renameConfirmation (h : Taken member record .superstar) (r : RenameRequest) :
    Sayable member record (renameConfirmation r) := by
  refine ⟨fun r' hr' => ?_, fun _ _ => h⟩
  have hhead := head?_confirmation r'
  rw [← hr', head?_renameConfirmation] at hhead
  exact absurd hhead (by decide)

/-- A request that is in order after a record: a message to a channel says what may be said. -/
def InOrder (member : Text) (record : Conversation Client) : ClientRequest → Prop
  | .call (.sendToChannel _ message) =>
    ∀ text, message.content = some text → Sayable member record text
  | _ => True

/-! ## § Messages -/

section Messages

open Calls

theorem content_of_payload {content : Text} {embed : Option RichContent} {message : Payload}
    (h : payload content embed = .ok message) : message.content = some content := by
  cases embed with
  | none =>
    cases h
    rfl
  | some block =>
    unfold payload at h
    cases hblock : Embed.ofContent block with
    | error fault => simp [hblock, Except.map] at h
    | ok e =>
      simp only [hblock, Except.map, Except.ok.injEq] at h
      rw [← h]

/-- If it fails, then not because a user takes no messages. -/
def NotClosed {α : Type} (outcome : Except Fault α) : Prop :=
  ∀ fault, outcome = .error fault → isMessagesClosed fault = false

theorem NotClosed.bind {α β : Type} {outcome : Except Fault α} {f : α → Except Fault β}
    (h : NotClosed outcome) (hf : ∀ a, NotClosed (f a)) : NotClosed (outcome >>= f) := by
  cases outcome with
  | ok a => exact hf a
  | error fault => exact fun _ hfault => h _ (congrArg Except.error (Except.error.inj hfault))

theorem notClosed_checkDescription (description : Text) :
    NotClosed (Embed.checkDescription description) := by
  intro fault h
  unfold Embed.checkDescription at h
  repeat' split at h
  all_goals cases h
  rfl

theorem notClosed_checkColour (colour : Option Number) : NotClosed (Embed.checkColour colour) := by
  intro fault h
  unfold Embed.checkColour at h
  repeat' split at h
  all_goals cases h
  all_goals rfl

theorem notClosed_checkThumbnail (thumbnail : Option Text) :
    NotClosed (Embed.checkThumbnail thumbnail) := by
  intro fault h
  unfold Embed.checkThumbnail at h
  repeat' split at h
  all_goals cases h
  all_goals rfl

/-- A block that cannot be sent is no sign of closed messages. -/
theorem notClosed_payload (content : Text) (embed : Option RichContent) :
    NotClosed (payload content embed) := by
  cases embed with
  | none => exact nofun
  | some block =>
    have hblock : NotClosed (Embed.ofContent block) :=
      (notClosed_checkDescription _).bind fun _ => (notClosed_checkColour _).bind fun _ =>
        (notClosed_checkThumbnail _).bind fun _ => nofun
    intro fault h
    unfold payload at h
    cases hcontent : Embed.ofContent block with
    | ok e => simp [hcontent, Except.map] at h
    | error cause =>
      simp only [hcontent, Except.map, Except.error.injEq] at h
      exact h ▸ hblock cause hcontent

/-- What a private message came to; the record ends with the refusal when messages are closed. -/
inductive DirectMessage (actor : Actor) (content : Text) (embed : Option RichContent) :
    Except Fault Delivery → Conversation Client → Prop where
  | sent {record : Conversation Client} {message : Payload}
      (h : .sendToUser actor.id message ∈ succeeded record) :
      DirectMessage actor content embed (.ok .sent) record
  | forbidden {before : Conversation Client} {message : Payload} {fault : Fault}
      (h : payload content embed = .ok message) (hclosed : isMessagesClosed fault = true) :
      DirectMessage actor content embed (.ok .forbidden)
        (before ++ [⟨.call (.sendToUser actor.id message), .error fault⟩])
  | failed {record : Conversation Client} (fault : Fault) :
      DirectMessage actor content embed (.error fault) record

theorem keeps_sendDirectMessage (actor : Actor) (content : Text) (embed : Option RichContent)
    (record : Conversation Client) :
    (sendDirectMessage actor content embed).Keeps (InOrder member)
      (DirectMessage actor content embed) record := by
  refine keeps_bind (Q := fun _ _ => True) (keeps_call trivial fun _ => trivial)
    (fun _ made _ => ?_) (fun fault made _ => .failed fault)
  -- Before the handler: the message was sent, could not be put together, or was refused.
  refine keeps_tryCatch (Q := fun out record => match out with
    | .ok delivery => DirectMessage actor content embed (.ok delivery) record
    | .error fault => isMessagesClosed fault = true →
        DirectMessage actor content embed (.ok .forbidden) record) ?_
    (fun delivery made hsent => hsent) (fun fault made hrefused => ?_)
  · refine keeps_bind (Q := fun out _ => out = payload content embed) rfl
      (fun message made hmessage => ?_) (fun fault made hfault hclosed => ?_)
    · refine keeps_bind (Q := fun out after => ∃ before,
          after = before ++ [⟨.call (.sendToUser actor.id message), out⟩])
        (keeps_call trivial fun out => ⟨_, rfl⟩) (fun a made hlast => ?_)
        (fun fault made hlast hclosed => ?_)
      · obtain ⟨before, hlast⟩ := hlast
        rw [hlast]
        exact .sent (mem_succeeded_last before (.sendToUser actor.id message) a)
      · obtain ⟨before, hlast⟩ := hlast
        rw [hlast]
        exact .forbidden hmessage.symm hclosed
    · rw [notClosed_payload content embed fault hfault.symm] at hclosed
      cases hclosed
  · cases hclosed : isMessagesClosed fault with
    | true =>
      rw [if_pos rfl]
      exact hrefused hclosed
    | false => exact .failed fault

/-- Saying something to a channel; when it went through, the message was the last call. -/
theorem keeps_sendToChannel {channel : Channel} {content : Text} {embed : Option RichContent}
    (hsayable : Sayable member record content) :
    (sendToChannel channel content embed).Keeps (InOrder member)
      (fun out after => out = .ok () → ∃ message later, payload content embed = .ok message ∧
        after = record ++ later ∧ .sendToChannel channel.id message ∈ succeeded later) record := by
  refine keeps_bind (Q := fun _ _ => True) (keeps_call trivial fun _ => trivial)
    (fun state made _ => ?_) (fun fault made _ h => nomatch h)
  cases state with
  | unsendable => exact fun h => nomatch h
  | missing => exact fun h => nomatch h
  | sendable =>
    refine keeps_bind (Q := fun out _ => out = payload content embed) rfl
      (fun message made' hmessage => keeps_call ?_ fun out hout => ?_)
      (fun fault made _ h => nomatch h)
    · intro text htext
      rw [content_of_payload hmessage.symm] at htext
      rw [← Option.some.inj htext, List.append_assoc]
      exact hsayable.append _
    · cases hout
      refine ⟨message, _, hmessage.symm, ?_,
        mem_succeeded_last (made ++ made') (.sendToChannel channel.id message) ()⟩
      simp only [List.append_assoc]

end Messages

/-! ## § Measures -/

/-- A measure that was taken and then confirmed in a channel. -/
structure Completed (member : Text) (infraction : Infraction) (channel : Channel)
    (record : Conversation Client) : Prop where
  taken : Taken member record infraction
  confirmed : Delivered channel (succeeded record)

section Measures

open Calls

theorem keeps_fetchMember (server : Server) (user : Text) (record : Conversation Client) :
    (fetchMember server user).Keeps (InOrder member)
      (fun out after => ∀ inVoice, out = .ok inVoice →
        ⟨.call (.fetchMember user), .ok inVoice⟩ ∈ after) record := by
  refine keeps_bind (Q := fun _ _ => True) (keeps_call trivial fun _ => trivial)
    (fun _ made _ => keeps_call trivial fun out inVoice hout => ?_)
    (fun fault made _ inVoice h => nomatch h)
  cases hout
  exact List.mem_append_right _ (List.mem_singleton_self _)

/-- Finding a member and making a call. -/
theorem keeps_afterMember (server : Server) (user : Text) (c : Call)
    {post : Except Fault c.Result → Conversation Client → Prop}
    (hguard : ∀ after, InOrder member after (.call c))
    (hok : ∀ a after, c ∈ succeeded after → post (.ok a) after)
    (herror : ∀ fault after, post (.error fault) after) :
    (do let _ ← fetchMember server user; call c : Calls c.Result).Keeps (InOrder member) post
      record := by
  refine keeps_bind (keeps_fetchMember server user record)
    (fun _ made _ => keeps_call (hguard _) fun out => ?_) (fun fault made _ => herror fault _)
  cases out with
  | ok a => exact hok a _ (mem_succeeded_last (record ++ made) c a)
  | error fault => exact herror fault _

theorem keeps_enforce (server : Server) {r : InfractionRequest} (hnone : r.infraction ≠ .none)
    (hstar : r.infraction ≠ .superstar) (record : Conversation Client) :
    (enforce server r).Keeps (InOrder r.actor.id)
      (fun out after => out = .ok () → Taken r.actor.id after r.infraction) record := by
  unfold enforce
  cases hinfraction : r.infraction with
  | none => exact absurd hinfraction hnone
  | superstar => exact absurd hinfraction hstar
  | ban =>
    refine keeps_bind (Q := fun _ _ => True) (keeps_call trivial fun _ => trivial)
      (fun _ made _ => keeps_call trivial fun out hout => ?_) (fun fault made _ h => nomatch h)
    cases hout
    exact .ban (mem_succeeded_last (record ++ made) (.ban r.actor.id r.reason) ())
  | kick =>
    exact keeps_afterMember server r.actor.id (.kick r.actor.id r.reason) (fun _ => trivial)
      (fun _ _ h _ => .kick h) fun _ _ h => nomatch h
  | mute =>
    have htimeout (milliseconds : Number) (record : Conversation Client) :
        (do
          let _ ← fetchMember server r.actor.id
          call (.timeout r.actor.id milliseconds r.reason) : Calls Unit).Keeps
            (InOrder r.actor.id) (fun out after => out = .ok () → Taken r.actor.id after .mute)
            record :=
      keeps_afterMember server r.actor.id (.timeout r.actor.id milliseconds r.reason)
        (fun _ => trivial) (fun _ _ h _ => .mute h) fun _ _ h => nomatch h
    cases r.expiresAt with
    | none => exact htimeout maxTimeout record
    | some moment =>
      have hclock : (timeoutUntil moment <$> clock).Keeps (InOrder r.actor.id) (fun _ _ => True)
          record := ⟨trivial, fun _ => trivial⟩
      exact keeps_bind hclock (fun milliseconds made _ => htimeout milliseconds (record ++ made))
        (fun fault made _ h => nomatch h)
  | voiceBan =>
    refine keeps_bind (keeps_fetchMember server r.actor.id record) (fun inVoice made hmember => ?_)
      (fun fault made _ h => nomatch h)
    cases inVoice with
    | false => exact fun _ => .notInVoice (hmember false rfl)
    | true =>
      refine keeps_call trivial fun out hout => ?_
      cases hout
      exact .voiceBan (mem_succeeded_last (record ++ made) (.disconnect r.actor.id r.reason) ())
  | warning => exact fun _ => .warning
  | watch => exact fun _ => .watch
  | note => exact fun _ => .note

/-- A measure that is taken and then confirmed. -/
theorem keeps_confirmed {infraction : Infraction} {measure : Calls Unit} {text : Text}
    (h : measure.Keeps (InOrder member)
      (fun out after => out = .ok () → Taken member after infraction) record)
    (hsayable : ∀ after, Taken member after infraction → Sayable member after text)
    (channel : Channel) :
    (measure >>= fun _ => sendToChannel channel text none).Keeps (InOrder member)
      (fun out after => out = .ok () → Completed member infraction channel after) record := by
  refine keeps_bind h (fun _ made htaken => ?_) (fun fault made _ hout => nomatch hout)
  refine Program.Keeps.mono (keeps_sendToChannel (hsayable _ (htaken rfl)))
    fun out last hsent hout => ?_
  obtain ⟨message, later, -, hlater, hmem⟩ := hsent hout
  rw [hlater]
  refine ⟨(htaken rfl).append later, message, ?_⟩
  rw [succeeded_append]
  exact List.mem_append_right _ hmem

theorem keeps_forceRename (server : Server) (r : RenameRequest) (record : Conversation Client) :
    (forceRename server r).Keeps (InOrder r.actor.id)
      (fun out after => out = .ok () → Completed r.actor.id .superstar r.channel after) record := by
  have hrename : (do
      let _ ← fetchMember server r.actor.id
      call (.setNickname r.actor.id superstarNickname
        (if r.reason = [] then none else some r.reason)) : Calls Unit).Keeps (InOrder r.actor.id)
        (fun out after => out = .ok () → Taken r.actor.id after .superstar) record :=
    keeps_afterMember server r.actor.id
      (.setNickname r.actor.id superstarNickname (if r.reason = [] then none else some r.reason))
      (fun _ => trivial) (fun _ _ h _ => .superstar h) fun _ _ h => nomatch h
  have hconfirmed := keeps_confirmed hrename
    (fun _ htaken => sayable_renameConfirmation htaken r) r.channel
  rw [bind_assoc] at hconfirmed
  exact hconfirmed

theorem keeps_issueInfraction (server : Server) {r : InfractionRequest}
    (hnone : r.infraction ≠ .none) (record : Conversation Client) :
    (issueInfraction server r).Keeps (InOrder r.actor.id)
      (fun out after => out = .ok () → Completed r.actor.id r.infraction r.replyChannel after)
      record := by
  unfold issueInfraction
  split
  · rename_i hstar
    rw [hstar]
    exact keeps_forceRename server ⟨r.actor, r.expiresAt, r.reason, r.replyChannel⟩ record
  · rename_i hstar
    exact keeps_confirmed (keeps_enforce server hnone hstar record)
      (fun _ htaken => sayable_confirmation htaken) r.replyChannel

end Measures

end ChatModeration.Discord
