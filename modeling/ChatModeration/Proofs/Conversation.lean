/-
ChatModeration.Proofs.Conversation — a program and its surroundings.

Surroundings answer each request in the light of all that went before, so a
theorem about every `Surroundings` is one about every pattern of calls that
succeed and fail.  A conversation is the record of the requests with their
answers.  The equations below play an `Action` one request at a time.
-/
import ChatModeration.Platform

namespace ChatModeration

/-! ## § Conversations -/

/-- A request with its answer. -/
structure Exchange (I : Interface) where
  request : I.Request
  answer : I.Answer request

/-- The requests that have been answered, the earliest first. -/
abbrev Conversation (I : Interface) := List (Exchange I)

/-- The answer to every request, after everything that went before. -/
abbrev Surroundings (I : Interface) := Conversation I → (r : I.Request) → I.Answer r

namespace Program

variable {I : Interface} {α β : Type}

/-- Runs a program and keeps the record. -/
def play (surroundings : Surroundings I) (p : Program I α) : StateM (Conversation I) α :=
  p.run fun r past => (surroundings past r, past ++ [⟨r, surroundings past r⟩])

variable (s : Surroundings I) (past : Conversation I)

@[simp] theorem play_done (a : α) : (done a : Program I α).play s past = (a, past) := rfl

@[simp] theorem play_ask (r : I.Request) (next : I.Answer r → Program I α) :
    (ask r next).play s past = (next (s past r)).play s (past ++ [⟨r, s past r⟩]) := rfl

@[simp] theorem play_bind (p : Program I α) (f : α → Program I β) :
    (p.bind f).play s past = (f (p.play s past).1).play s (p.play s past).2 := by
  unfold play
  rw [run_bind]
  rfl

end Program

/-! ## § Actions -/

/-- Surroundings in which writing to the log never fails. -/
def Surroundings.Logs (s : Surroundings Moderation) : Prop :=
  ∀ past event, s past (.log event) = .ok ()

/-- A request to the platform with its answer. -/
def asked (r : PlatformRequest) (answer : r.Answer) : Exchange Moderation := ⟨.platform r, answer⟩

/-- A line of the log. -/
def logged (event : LogEvent) : Exchange Moderation := ⟨.log event, .ok ()⟩

namespace Action

variable {α β : Type}

/-- The outcome of an action, the context it leaves, and the record. -/
def play (s : Surroundings Moderation) (action : Action α) (ctx : Context)
    (past : Conversation Moderation) :
    (Except Fault α × Context) × Conversation Moderation :=
  Program.play s (action.run.run ctx) past

variable {s : Surroundings Moderation} {ctx : Context} {past : Conversation Moderation}

@[simp] theorem play_pure (a : α) : (pure a : Action α).play s ctx past = ((.ok a, ctx), past) := rfl

/-- The program of a sequence goes on only if the first action does not fail. -/
theorem run_bind (action : Action α) (f : α → Action β) (ctx : Context) :
    (action >>= f).run.run ctx = (action.run.run ctx).bind fun out =>
      match out with
      | (.ok a, ctx) => (f a).run.run ctx
      | (.error fault, ctx) => .done (.error fault, ctx) := by
  refine congrArg (action.run.run ctx).bind (funext fun out => ?_)
  obtain ⟨outcome, ctx⟩ := out
  cases outcome <;> rfl

theorem run_tryCatch (action : Action α) (handler : Fault → Action α) (ctx : Context) :
    (tryCatch action handler).run.run ctx = (action.run.run ctx).bind fun out =>
      match out with
      | (.ok a, ctx) => .done (.ok a, ctx)
      | (.error fault, ctx) => (handler fault).run.run ctx := by
  refine congrArg (action.run.run ctx).bind (funext fun out => ?_)
  obtain ⟨outcome, ctx⟩ := out
  cases outcome <;> rfl

/-- A sequence ends with its first action when that one fails. -/
@[simp] theorem play_bind (action : Action α) (f : α → Action β) :
    (action >>= f).play s ctx past =
      match action.play s ctx past with
      | ((.ok a, ctx), past) => (f a).play s ctx past
      | ((.error fault, ctx), past) => ((.error fault, ctx), past) := by
  unfold play
  rw [run_bind, Program.play_bind]
  obtain ⟨⟨outcome, ctx'⟩, past'⟩ := Program.play s (action.run.run ctx) past
  cases outcome <;> rfl

theorem play_bind_ok {action : Action α} {f : α → Action β} {a : α} {ctx' : Context}
    {after : Conversation Moderation} (h : action.play s ctx past = ((.ok a, ctx'), after)) :
    (action >>= f).play s ctx past = (f a).play s ctx' after := by
  rw [play_bind, h]

/-- A handler takes over when the action fails, with the context as it was left. -/
@[simp] theorem play_tryCatch (action : Action α) (handler : Fault → Action α) :
    (tryCatch action handler).play s ctx past =
      match action.play s ctx past with
      | ((.ok a, ctx), past) => ((.ok a, ctx), past)
      | ((.error fault, ctx), past) => (handler fault).play s ctx past := by
  unfold play
  rw [run_tryCatch, Program.play_bind]
  obtain ⟨⟨outcome, ctx'⟩, past'⟩ := Program.play s (action.run.run ctx) past
  cases outcome <;> rfl

@[simp] theorem play_get : (get : Action Context).play s ctx past = ((.ok ctx, ctx), past) := rfl

@[simp] theorem play_set (new : Context) :
    (set new : Action PUnit).play s ctx past = ((.ok ⟨⟩, new), past) := rfl

@[simp] theorem play_modify (f : Context → Context) :
    (modify f : Action PUnit).play s ctx past = ((.ok ⟨⟩, f ctx), past) := rfl

@[simp] theorem play_ask (r : ModerationRequest) (answer : r.Answer → Except Fault α) :
    (ask r answer).play s ctx past =
      ((answer (s past r), ctx), past ++ [⟨r, s past r⟩]) := rfl

/-- A request to the platform with the answer that is given to it. -/
theorem play_platform {r : PlatformRequest} {answer : r.Answer → Except Fault α} {given : r.Answer}
    (h : s past (.platform r) = given) :
    (platform r answer).play s ctx past =
      ((answer given, ctx), past ++ [asked r given]) := by
  subst h
  rfl

theorem play_log (h : s.Logs) (event : LogEvent) :
    (log event).play s ctx past = ((.ok (), ctx), past ++ [logged event]) := by
  unfold log
  rw [play_ask, h]
  rfl

@[simp] theorem play_clock :
    clock.play s ctx past = ((.ok (s past .clock), ctx), past ++ [⟨.clock, s past .clock⟩]) := rfl

end Action

end ChatModeration
