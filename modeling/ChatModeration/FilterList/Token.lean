/-
ChatModeration.FilterList.Token — filters that search the text of a message.

The content of a token filter is a pattern, searched without regard to case.
Patterns are kept under the ids of their filters: of several filters that share
an id, the one added last provides the pattern of them all.  A filter whose
pattern cannot be read never matches, and nothing matches an empty message.
-/
import ChatModeration.FilterList.Basic
import ChatModeration.Pattern.Match
import ChatModeration.Pattern.Reader

namespace ChatModeration.Token

/-- The pattern that a filter's content denotes. -/
def compile? (content : Text) : Option Pattern := Pattern.read? true content

/-- The pattern kept under an id: that of the last filter that has it. -/
def patternFor? (filters : List Filter) (id : Number) : Option Pattern :=
  (filters.reverse.find? fun f => f.id.sameKey id).bind fun f => compile? f.content

/-- The filter with what its pattern finds first in a text, if it finds anything. -/
def trigger? (filters : List Filter) (content : Text) (f : Filter) : Option TriggeredFilter :=
  match patternFor? filters f.id with
  | none => none
  | some p => (p.firstMatch? content).map fun found => ⟨f, [Value.text found]⟩

/-- The filters that a text triggers, in the order in which they were added. -/
def triggered (filters : List Filter) (content : Text) : List TriggeredFilter :=
  if content = [] then [] else filters.filterMap (trigger? filters content)

end ChatModeration.Token
