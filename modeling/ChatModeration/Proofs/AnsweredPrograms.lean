/-
ChatModeration.Proofs.AnsweredPrograms — what becomes of a program under given answers.

`Program.play` runs a program against surroundings that have an answer to
everything.  Here the answers are those of one record: `p.Reaches record q` says
that `p` makes the requests of the record, in order, and with the answers in it
goes on as `q`.  A program that takes its turn among others, request by request,
has reached what it now is with the record of its own requests.

The main statements are the inversions at the end (`endsWith_bind` and those
around it): which records a program can end with is read off its form.
-/
import ChatModeration.Proofs.Conversation

namespace ChatModeration.Program

variable {I : Interface} {α β : Type}

/-- The program makes the requests of the record and, with the answers to them, goes on as
another one. -/
inductive Reaches : Program I α → Conversation I → Program I α → Prop
  | refl (p : Program I α) : Reaches p [] p
  | ask {r : I.Request} {next : I.Answer r → Program I α} {record : Conversation I}
      {q : Program I α} (answer : I.Answer r) (h : Reaches (next answer) record q) :
      Reaches (ask r next) (⟨r, answer⟩ :: record) q

/-- The program ends with a value after the requests of the record. -/
def EndsWith (p : Program I α) (record : Conversation I) (a : α) : Prop :=
  p.Reaches record (done a)

variable {p q : Program I α} {record later : Conversation I} {a b : α}

/-! ## § One request after another -/

theorem Reaches.trans {q' : Program I α} (h : p.Reaches record q) (h' : q.Reaches later q') :
    p.Reaches (record ++ later) q' := by
  induction h with
  | refl p => exact h'
  | ask answer _ ih => exact .ask answer (ih h')

/-- A program goes on with each answer that it is given. -/
theorem Reaches.answer {r : I.Request} {next : I.Answer r → Program I α}
    (h : p.Reaches record (Program.ask r next)) (answer : I.Answer r) :
    p.Reaches (record ++ [⟨r, answer⟩]) (next answer) :=
  h.trans (.ask answer (.refl _))

/-- Where every request can be answered, a program can be brought to an end. -/
theorem exists_endsWith [∀ r, Nonempty (I.Answer r)] (p : Program I α) :
    ∃ record a, p.EndsWith record a := by
  induction p with
  | done a => exact ⟨[], a, .refl _⟩
  | ask r next ih =>
    obtain ⟨answer⟩ : Nonempty (I.Answer r) := inferInstance
    obtain ⟨record, a, hends⟩ := ih answer
    exact ⟨⟨r, answer⟩ :: record, a, .ask answer hends⟩

/-- A program that is played has ended with what was added to the record. -/
theorem endsWith_play (s : Surroundings I) (p : Program I α) (past : Conversation I) :
    ∃ record, (p.play s past).2 = past ++ record ∧ p.EndsWith record (p.play s past).1 := by
  induction p generalizing past with
  | done a => exact ⟨[], (List.append_nil past).symm, .refl _⟩
  | ask r next ih =>
    obtain ⟨record, hrecord, hends⟩ := ih (s past r) (past ++ [⟨r, s past r⟩])
    refine ⟨⟨r, s past r⟩ :: record, ?_, .ask _ hends⟩
    rw [play_ask, hrecord, List.append_assoc]
    rfl

/-! ## § Records with which a program ends -/

theorem endsWith_done : (done b : Program I α).EndsWith record a ↔ record = [] ∧ a = b := by
  constructor
  · intro h
    cases h
    exact ⟨rfl, rfl⟩
  · rintro ⟨rfl, rfl⟩
    exact .refl _

theorem endsWith_ask {r : I.Request} {next : I.Answer r → Program I α} :
    (ask r next).EndsWith record a ↔
      ∃ answer later, record = ⟨r, answer⟩ :: later ∧ (next answer).EndsWith later a := by
  constructor
  · intro h
    cases h with
    | ask answer h => exact ⟨answer, _, rfl, h⟩
  · rintro ⟨answer, later, rfl, h⟩
    exact .ask answer h

/-- The record of a sequence is that of the first program followed by that of the second. -/
theorem endsWith_bind {f : α → Program I β} {b : β} :
    (p.bind f).EndsWith record b ↔
      ∃ first a later, record = first ++ later ∧ p.EndsWith first a ∧ (f a).EndsWith later b := by
  induction p generalizing record with
  | done a =>
    constructor
    · intro h
      exact ⟨[], a, record, rfl, .refl _, h⟩
    · rintro ⟨first, a', later, rfl, hfirst, hlater⟩
      obtain ⟨rfl, rfl⟩ := endsWith_done.mp hfirst
      exact hlater
  | ask r next ih =>
    rw [ask_bind, endsWith_ask]
    constructor
    · rintro ⟨answer, rest, rfl, hrest⟩
      obtain ⟨first, a, later, rfl, hfirst, hlater⟩ := ih answer |>.mp hrest
      exact ⟨⟨r, answer⟩ :: first, a, later, rfl, .ask answer hfirst, hlater⟩
    · rintro ⟨asked, a, later, rfl, hasked, hlater⟩
      obtain ⟨answer, first, rfl, hfirst⟩ := endsWith_ask.mp hasked
      exact ⟨answer, first ++ later, rfl, (ih answer).mpr ⟨first, a, later, rfl, hfirst, hlater⟩⟩

end ChatModeration.Program
