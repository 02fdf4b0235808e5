/-
ChatModeration.Program — computations that ask their surroundings.

An `Interface` lists what may be asked and the type of each answer.  A
`Program` is a finite tree of questions whose continuation depends on the
answers, so that sending a message, writing the log or reading the clock is
data: a program can be run against any surroundings (`Program.run`), paused
between two questions (`Program.advance`), or have its questions answered by
another program (`Program.translate`).
-/

namespace ChatModeration

/-- What may be asked, and the type of the answer to each request. -/
structure Interface where
  Request : Type
  Answer : Request → Type

inductive Program (I : Interface) (α : Type) : Type where
  | done (value : α)
  | ask (request : I.Request) (next : I.Answer request → Program I α)

namespace Program

variable {I J : Interface} {α β γ : Type}

protected def bind : Program I α → (α → Program I β) → Program I β
  | done a, f => f a
  | ask r next, f => ask r fun answer => (next answer).bind f

instance : Monad (Program I) where
  pure := done
  bind := Program.bind

/-- The program that makes one request and returns its answer. -/
def request (r : I.Request) : Program I (I.Answer r) := ask r done

/-- A program run against surroundings that answer in a monad. -/
def run {m : Type → Type} [Monad m] (handler : (r : I.Request) → m (I.Answer r)) :
    Program I α → m α
  | done a => pure a
  | ask r next => handler r >>= fun answer => (next answer).run handler

/-- The program whose every request is answered by a program over another interface. -/
def translate (answer : (r : I.Request) → Program J (I.Answer r)) : Program I α → Program J α
  | done a => done a
  | ask r next => (answer r).bind fun a => (next a).translate answer

/-- Runs a program for as long as `now` has answers; what is left waits for an answer that takes
time. -/
def advance {σ : Type} (now : (r : I.Request) → σ → Option (I.Answer r × σ)) :
    Program I α → σ → Program I α × σ
  | done a, s => (done a, s)
  | ask r next, s =>
    match now r s with
    | none => (ask r next, s)
    | some (answer, s) => (next answer).advance now s

/-! ## § Laws -/

theorem pure_eq_done (a : α) : (pure a : Program I α) = done a := rfl

theorem bind_eq_bind (p : Program I α) (f : α → Program I β) : p >>= f = p.bind f := rfl

@[simp] theorem done_bind (a : α) (f : α → Program I β) : (done a).bind f = f a := rfl

@[simp] theorem ask_bind (r : I.Request) (next : I.Answer r → Program I α)
    (f : α → Program I β) : (ask r next).bind f = ask r fun a => (next a).bind f := rfl

@[simp] theorem bind_done (p : Program I α) : p.bind done = p := by
  induction p with
  | done a => rfl
  | ask r next ih => simp [ih]

theorem bind_assoc (p : Program I α) (f : α → Program I β) (g : β → Program I γ) :
    (p.bind f).bind g = p.bind fun a => (f a).bind g := by
  induction p with
  | done a => rfl
  | ask r next ih => simp [ih]

/-- Translating a sequence of two programs is translating both. -/
theorem translate_bind (answer : (r : I.Request) → Program J (I.Answer r)) (p : Program I α)
    (f : α → Program I β) :
    (p.bind f).translate answer = (p.translate answer).bind fun a => (f a).translate answer := by
  induction p with
  | done a => rfl
  | ask r next ih => simp [translate, ih, bind_assoc]

instance : LawfulMonad (Program I) :=
  LawfulMonad.mk' _ (fun p => bind_done p) (fun _ _ => rfl) (fun p f g => bind_assoc p f g)

/-- Running a sequence of two programs is running one after the other. -/
theorem run_bind {m : Type → Type} [Monad m] [LawfulMonad m]
    (handler : (r : I.Request) → m (I.Answer r)) (p : Program I α) (f : α → Program I β) :
    (p.bind f).run handler = p.run handler >>= fun a => (f a).run handler := by
  induction p with
  | done a => simp [run]
  | ask r next ih => simp [run, ih]

end Program

end ChatModeration
