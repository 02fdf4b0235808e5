/-
ChatModeration.Proofs.Obligations — what a program owes to what it has asked.

Some requests are in order only after others have succeeded.  `Program.Keeps`
says that a program, with a record of what was asked before, makes every request
when it is in order and ends as it should, whatever it is answered.  There is a
rule for each way in which programs are put together; sequences of calls, and
actions behind a translator, inherit them.
-/
import ChatModeration.Discord.Client
import ChatModeration.Proofs.Relay

namespace ChatModeration

variable {I J : Interface} {α β : Type}

/-! ## § Programs -/

namespace Program

/-- After a record, a program makes each request in order, and ends as it should. -/
def Keeps (guard : Conversation I → I.Request → Prop) (post : α → Conversation I → Prop) :
    Program I α → Conversation I → Prop
  | done a, record => post a record
  | ask r next, record =>
    guard record r ∧ ∀ answer, (next answer).Keeps guard post (record ++ [⟨r, answer⟩])

variable {guard : Conversation I → I.Request → Prop} {post : β → Conversation I → Prop}
  {Q : α → Conversation I → Prop} {record : Conversation I}

/-- The second program goes on from what the first one has asked. -/
theorem Keeps.bind {p : Program I α} {f : α → Program I β} (h : p.Keeps guard Q record)
    (hf : ∀ a made, Q a (record ++ made) → (f a).Keeps guard post (record ++ made)) :
    (p.bind f).Keeps guard post record := by
  induction p generalizing record with
  | done a =>
    have hstart := hf a []
    rw [List.append_nil] at hstart
    exact hstart h
  | ask r next ih =>
    refine ⟨h.1, fun answer => ih answer (h.2 answer) fun a made => ?_⟩
    rw [List.append_assoc]
    exact hf a ([⟨r, answer⟩] ++ made)

theorem Keeps.mono {Q' : α → Conversation I → Prop} {p : Program I α}
    (h : p.Keeps guard Q record)
    (hpost : ∀ a made, Q a (record ++ made) → Q' a (record ++ made)) :
    p.Keeps guard Q' record := by
  rw [← bind_done p]
  exact h.bind hpost

/-- A program whose requests are all of a kind makes them whatever the record. -/
theorem Asks.keeps {P : I.Request → Prop} {p : Program I α} (h : p.Asks P)
    (hpost : ∀ a record, Q a record) : p.Keeps (fun _ r => P r) Q record := by
  induction p generalizing record with
  | done a => exact hpost a record
  | ask r next ih => exact ⟨h.1, fun answer => ih answer (h.2 answer)⟩

/-- A run of the program: the record grows by requests that were in order. -/
theorem Keeps.play {p : Program I α} (h : p.Keeps guard Q record) (s : Surroundings I)
    (past : Conversation I) :
    ∃ a made, p.play s past = (a, past ++ made) ∧ Q a (record ++ made) ∧
      ∀ before e later, made = before ++ e :: later → guard (record ++ before) e.request := by
  induction p generalizing record past with
  | done a =>
    refine ⟨a, [], by simp, by rwa [List.append_nil], fun before e later hsplit => ?_⟩
    exact absurd hsplit.symm (by simp)
  | ask r next ih =>
    obtain ⟨a, made, hplay, hend, hmade⟩ := ih (s past r) (h.2 _) (past ++ [⟨r, s past r⟩])
    refine ⟨a, ⟨r, s past r⟩ :: made, ?_, ?_, fun before e later hsplit => ?_⟩
    · rw [play_ask, hplay, List.append_assoc]
      rfl
    · rwa [List.append_assoc] at hend
    · cases before with
      | nil =>
        cases hsplit
        rw [List.append_nil]
        exact h.1
      | cons first before =>
        obtain ⟨rfl, hrest⟩ := List.cons.inj hsplit
        have hguard := hmade before e later hrest
        rwa [List.append_assoc] at hguard

end Program

/-! ## § Sequences of calls -/

namespace Discord.Calls

variable {guard : Conversation Client → ClientRequest → Prop}
  {Q : Except Fault α → Conversation Client → Prop}
  {post : Except Fault β → Conversation Client → Prop} {record : Conversation Client}

/-- What a sequence of calls keeps. -/
abbrev Keeps (guard : Conversation Client → ClientRequest → Prop)
    (post : Except Fault α → Conversation Client → Prop) (calls : Calls α)
    (record : Conversation Client) : Prop :=
  Program.Keeps (I := Client) guard post calls.run record

theorem keeps_bind {calls : Calls α} {f : α → Calls β} (h : calls.Keeps guard Q record)
    (hok : ∀ a made, Q (.ok a) (record ++ made) → (f a).Keeps guard post (record ++ made))
    (herror : ∀ fault made, Q (.error fault) (record ++ made) →
      post (.error fault) (record ++ made)) :
    (calls >>= f).Keeps guard post record := by
  refine Program.Keeps.bind h fun out made hQ => ?_
  cases out with
  | ok a => exact hok a made hQ
  | error fault => exact herror fault made hQ

theorem keeps_tryCatch {calls : Calls α} {handler : Fault → Calls α}
    {post : Except Fault α → Conversation Client → Prop} (h : calls.Keeps guard Q record)
    (hok : ∀ a made, Q (.ok a) (record ++ made) → post (.ok a) (record ++ made))
    (herror : ∀ fault made, Q (.error fault) (record ++ made) →
      (handler fault).Keeps guard post (record ++ made)) :
    (tryCatch calls handler).Keeps guard post record := by
  refine Program.Keeps.bind h fun out made hQ => ?_
  cases out with
  | ok a => exact hok a made hQ
  | error fault => exact herror fault made hQ

theorem keeps_call {c : Call} {post : Except Fault c.Result → Conversation Client → Prop}
    (hguard : guard record (.call c))
    (hpost : ∀ out : Except Fault c.Result, post out (record ++ [⟨.call c, out⟩])) :
    (call c).Keeps guard post record := ⟨hguard, hpost⟩

end Discord.Calls

/-! ## § Actions -/

namespace Action

/-- Behind a translator, too, a sequence ends with its first action when that one fails. -/
theorem play_translate_bind (answer : (r : Moderation.Request) → Program J (Moderation.Answer r))
    (action : Action α) (f : α → Action β) (ctx : Context) (s : Surroundings J)
    (past : Conversation J) :
    (((action >>= f).run.run ctx).translate answer).play s past =
      match ((action.run.run ctx).translate answer).play s past with
      | ((.ok a, ctx), past) => (((f a).run.run ctx).translate answer).play s past
      | ((.error fault, ctx), past) => ((.error fault, ctx), past) := by
  rw [run_bind, Program.translate_bind, Program.play_bind]
  obtain ⟨⟨outcome, ctx'⟩, past'⟩ := ((action.run.run ctx).translate answer).play s past
  cases outcome <;> rfl

/-- Behind a translator, too, a handler takes over where an action fails. -/
theorem play_translate_tryCatch
    (answer : (r : Moderation.Request) → Program J (Moderation.Answer r)) (action : Action α)
    (handler : Fault → Action α) (ctx : Context) (s : Surroundings J) (past : Conversation J) :
    (((tryCatch action handler).run.run ctx).translate answer).play s past =
      match ((action.run.run ctx).translate answer).play s past with
      | ((.ok a, ctx), past) => ((.ok a, ctx), past)
      | ((.error fault, ctx), past) => (((handler fault).run.run ctx).translate answer).play s past := by
  rw [run_tryCatch, Program.translate_bind, Program.play_bind]
  obtain ⟨⟨outcome, ctx'⟩, past'⟩ := ((action.run.run ctx).translate answer).play s past
  cases outcome <;> rfl

section Keeps

variable {answer : (r : Moderation.Request) → Program J (Moderation.Answer r)}
  {guard : Conversation J → J.Request → Prop}
  {Q : Except Fault α → Context → Conversation J → Prop}
  {post : Except Fault β → Context → Conversation J → Prop} {ctx : Context}
  {record : Conversation J}

/-- What an action keeps when its requests are answered by programs. -/
def Keeps (answer : (r : Moderation.Request) → Program J (Moderation.Answer r))
    (guard : Conversation J → J.Request → Prop)
    (post : Except Fault α → Context → Conversation J → Prop) (action : Action α) (ctx : Context)
    (record : Conversation J) : Prop :=
  ((action.run.run ctx).translate answer).Keeps guard
    (fun out => post out.1 out.2) record

theorem keeps_bind {action : Action α} {f : α → Action β}
    (h : action.Keeps answer guard Q ctx record)
    (hok : ∀ a ctx made, Q (.ok a) ctx (record ++ made) →
      (f a).Keeps answer guard post ctx (record ++ made))
    (herror : ∀ fault ctx made, Q (.error fault) ctx (record ++ made) →
      post (.error fault) ctx (record ++ made)) :
    (action >>= f).Keeps answer guard post ctx record := by
  unfold Keeps
  rw [run_bind, Program.translate_bind]
  refine Program.Keeps.bind h fun ⟨outcome, ctx⟩ made hQ => ?_
  cases outcome with
  | ok a => exact hok a ctx made hQ
  | error fault => exact herror fault ctx made hQ

theorem keeps_tryCatch {action : Action α} {handler : Fault → Action α}
    {post : Except Fault α → Context → Conversation J → Prop}
    (h : action.Keeps answer guard Q ctx record)
    (hok : ∀ a ctx made, Q (.ok a) ctx (record ++ made) → post (.ok a) ctx (record ++ made))
    (herror : ∀ fault ctx made, Q (.error fault) ctx (record ++ made) →
      (handler fault).Keeps answer guard post ctx (record ++ made)) :
    (tryCatch action handler).Keeps answer guard post ctx record := by
  unfold Keeps
  rw [run_tryCatch, Program.translate_bind]
  refine Program.Keeps.bind h fun ⟨outcome, ctx⟩ made hQ => ?_
  cases outcome with
  | ok a => exact hok a ctx made hQ
  | error fault => exact herror fault ctx made hQ

theorem keeps_get {f : Context → Action α} (h : (f ctx).Keeps answer guard Q ctx record) :
    (get >>= f).Keeps answer guard Q ctx record := h

theorem keeps_modify {change : Context → Context} {f : PUnit → Action α}
    (h : (f ⟨⟩).Keeps answer guard Q (change ctx) record) :
    (modify change >>= f).Keeps answer guard Q ctx record := h

/-- A request keeps what the program keeps that answers it. -/
theorem keeps_ask {r : ModerationRequest} {given : r.Answer → Except Fault α}
    (h : (answer r).Keeps guard (fun a => Q (given a) ctx) record) :
    (ask r given).Keeps answer guard Q ctx record :=
  Program.Keeps.bind h fun _ _ hQ => hQ

end Keeps

end Action

end ChatModeration
