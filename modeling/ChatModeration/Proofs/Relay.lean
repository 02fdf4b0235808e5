/-
ChatModeration.Proofs.Relay — requests that are answered by programs.

A translated program is one conversation seen from two sides: what it asked its
translator, and what the translator asked in turn.  `Surroundings.behind` is
what the program sees of the surroundings through the translator, and
`Surroundings.unfold` is the second record as a function of the first; that the
two go together is `play_translate`.
-/
import ChatModeration.Proofs.Conversation

namespace ChatModeration

variable {I J : Interface} {α β : Type}

/-! ## § Records -/

/-- The answers of a record are those that the surroundings gave. -/
def Surroundings.Gave (s : Surroundings I) : Conversation I → Conversation I → Prop
  | _, [] => True
  | past, e :: later => e.answer = s past e.request ∧ s.Gave (past ++ [e]) later

theorem Surroundings.gave_append {s : Surroundings I} {past record later : Conversation I} :
    s.Gave past (record ++ later) ↔ s.Gave past record ∧ s.Gave (past ++ record) later := by
  induction record generalizing past with
  | nil => simp [Gave]
  | cons e rest ih => simp [Gave, ih, and_assoc]

namespace Program

/-- All requests that a program may ever make are of a kind. -/
def Asks (P : I.Request → Prop) : Program I α → Prop
  | done _ => True
  | ask r next => P r ∧ ∀ answer, (next answer).Asks P

theorem Asks.bind {P : I.Request → Prop} {p : Program I α} {f : α → Program I β} (h : p.Asks P)
    (hf : ∀ a, (f a).Asks P) : (p.bind f).Asks P := by
  induction p with
  | done a => exact hf a
  | ask r next ih => exact ⟨h.1, fun answer => ih answer (h.2 answer)⟩

theorem Asks.mono {P Q : I.Request → Prop} {p : Program I α} (h : p.Asks P)
    (hPQ : ∀ r, P r → Q r) : p.Asks Q := by
  induction p with
  | done a => trivial
  | ask r next ih => exact ⟨hPQ r h.1, fun answer => ih answer (h.2 answer)⟩

/-- Playing a program adds to the record, with the answers that were given. -/
theorem play_record (s : Surroundings I) (p : Program I α) (past : Conversation I) :
    ∃ record, p.play s past = ((p.play s past).1, past ++ record) ∧ s.Gave past record := by
  induction p generalizing past with
  | done a => exact ⟨[], by simp, trivial⟩
  | ask r next ih =>
    obtain ⟨record, hplay, hgave⟩ := ih (s past r) (past ++ [⟨r, s past r⟩])
    refine ⟨⟨r, s past r⟩ :: record, ?_, rfl, hgave⟩
    rw [play_ask, hplay, List.append_assoc]
    rfl

theorem Asks.play {P : I.Request → Prop} {p : Program I α} (h : p.Asks P) (s : Surroundings I)
    (past : Conversation I) :
    ∃ record, p.play s past = ((p.play s past).1, past ++ record) ∧ ∀ e ∈ record, P e.request := by
  induction p generalizing past with
  | done a => exact ⟨[], by simp, nofun⟩
  | ask r next ih =>
    obtain ⟨record, hplay, hasked⟩ := ih (s past r) (h.2 _) (past ++ [⟨r, s past r⟩])
    refine ⟨⟨r, s past r⟩ :: record, ?_, List.forall_mem_cons.mpr ⟨h.1, hasked⟩⟩
    rw [play_ask, hplay, List.append_assoc]
    rfl

end Program

/-- What a run adds to the record was answered by the surroundings. -/
theorem Action.play_gave {α : Type} {action : Action α} {s : Surroundings Moderation}
    {ctx : Context} {past record : Conversation Moderation} {out : Except Fault α × Context}
    (h : action.play s ctx past = (out, past ++ record)) : s.Gave past record := by
  obtain ⟨given, hplay, hgave⟩ := Program.play_record s (action.run.run ctx) past
  have hrecord : past ++ record = past ++ given :=
    (congrArg Prod.snd h).symm.trans (congrArg Prod.snd hplay)
  rwa [List.append_cancel_left hrecord]

/-! ## § Behind a translator -/

namespace Surroundings

variable (s : Surroundings J) (answer : (r : I.Request) → Program J (I.Answer r))

/-- What has been asked once a translator has answered all of a record. -/
def unfold (before : Conversation J) (record : Conversation I) : Conversation J :=
  record.foldl (fun before e => ((answer e.request).play s before).2) before

/-- The surroundings as they look through a translator. -/
def behind (before : Conversation J) : Surroundings I :=
  fun past r => ((answer r).play s (s.unfold answer before past)).1

theorem unfold_append (before : Conversation J) (record later : Conversation I) :
    s.unfold answer before (record ++ later) =
      s.unfold answer (s.unfold answer before record) later :=
  List.foldl_append

/-- When all answers ask for one kind of thing only, so does the whole. -/
theorem unfold_asks {P : J.Request → Prop} {record : Conversation I}
    (h : ∀ e ∈ record, (answer e.request).Asks P) (before : Conversation J) :
    ∃ asked, s.unfold answer before record = before ++ asked ∧ ∀ e ∈ asked, P e.request := by
  induction record generalizing before with
  | nil => exact ⟨[], (List.append_nil _).symm, nofun⟩
  | cons e rest ih =>
    obtain ⟨first, hplay, hfirst⟩ := (h e List.mem_cons_self).play s before
    obtain ⟨later, hlater, hasked⟩ :=
      ih (fun e he => h e (List.mem_cons_of_mem _ he)) (before ++ first)
    refine ⟨first ++ later, ?_, List.forall_mem_append.mpr ⟨hfirst, hasked⟩⟩
    rw [← List.append_assoc, ← hlater, unfold, List.foldl_cons, hplay]
    rfl

end Surroundings

/-- **The two sides of a translated program.** -/
theorem Program.play_translate (s : Surroundings J)
    (answer : (r : I.Request) → Program J (I.Answer r)) (before : Conversation J)
    (p : Program I α) (past : Conversation I) :
    (p.translate answer).play s (s.unfold answer before past) =
      ((p.play (s.behind answer before) past).1,
        s.unfold answer before (p.play (s.behind answer before) past).2) := by
  induction p generalizing past with
  | done a => rfl
  | ask r next ih =>
    have h := ih (s.behind answer before past r) (past ++ [⟨r, s.behind answer before past r⟩])
    rw [Surroundings.unfold_append] at h
    rw [translate, play_bind]
    exact h

end ChatModeration
