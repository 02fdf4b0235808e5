/-
ChatModeration.FilterList.Kinds — lists of filters.

A list has a name, the events that it wants to see, and a way to decide which
of its filters an event triggers.  Beside the token and the domain list there
may be lists with a rule of their own; such a rule can fail, and it may leave
its mark on the context.
-/
import ChatModeration.FilterList.Domain
import ChatModeration.FilterList.Token

namespace ChatModeration

/-- How a list decides what an event triggers. -/
inductive Detection where
  | token
  | domain
  | custom (rule : Context → Except Fault (List TriggeredFilter) × Context)

structure FilterList where
  name : Text
  /-- The events that the list is subscribed to when it is registered. -/
  events : List FilterEvent
  filters : List Filter
  detection : Detection

namespace FilterList

def token : FilterList := ⟨Text.ofString "token", FilterEvent.all, [], .token⟩

def domain : FilterList := ⟨Text.ofString "domain", FilterEvent.all, [], .domain⟩

/-- The list with the filters of a batch added at its end. -/
def add (list : FilterList) (filters : List Filter) : FilterList :=
  { list with filters := list.filters ++ filters }

/-- The filters of all batches are kept in order. -/
theorem foldl_add (list : FilterList) (batches : List (List Filter)) :
    batches.foldl add list = list.add batches.flatten := by
  induction batches generalizing list with
  | nil => simp [add]
  | cons batch later ih => simp [ih, add]

/-- The filters that an event triggers, and the context afterwards. -/
def evaluate (list : FilterList) (ctx : Context) : Except Fault (List TriggeredFilter) × Context :=
  match list.detection with
  | .token => (.ok (Token.triggered list.filters ctx.content), ctx)
  | .domain => (.ok (Domain.triggered list.filters ctx.toIncoming), ctx)
  | .custom rule => rule ctx

end FilterList

end ChatModeration
