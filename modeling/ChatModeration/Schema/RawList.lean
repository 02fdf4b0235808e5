/-
ChatModeration.Schema.RawList — filter lists as they are configured.

A configured list has a name, the reactions that its filters have by default,
and filters.  `RawList.toBatch` folds the defaults in: a filter keeps its own
reaction where it has one.
-/
import ChatModeration.FilterList.Basic
import ChatModeration.Log
import ChatModeration.Schema.Checked

namespace ChatModeration

structure RawFilter where
  id : Number
  content : Text
  description : Option Text
  actions : Option ActionSet

structure RawList where
  name : Text
  defaults : ActionSet
  filters : List RawFilter

namespace Check

/-- A text that is empty when it is absent. -/
def textOrEmpty : Check Text := withDefault (.text []) text

/-- An infraction name; absent, `null` and blank mean none. -/
def infraction : Check Infraction := fun v =>
  match nullish text v with
  | .invalid issues => .invalid issues
  | .valid none => .valid .none
  | .valid (some written) =>
    match Infraction.read written with
    | .ok i => .valid i
    | .error fault => .invalid [⟨.custom, [], fault.message⟩]

def superstar : Check Superstar := object fun v =>
  Superstar.mk <$> field v "reason" textOrEmpty <*> field v "duration" (nullish duration)

def sanction : Check Sanction := object fun v =>
  Sanction.mk
    <$> field v "infraction_type" infraction
    <*> field v "infraction_reason" textOrEmpty
    <*> field v "infraction_duration" (nullish duration)
    <*> field v "dm_content" textOrEmpty
    <*> field v "dm_embed" textOrEmpty
    <*> field v "superstar" (nullish superstar)

/-- Reactions; absent ones are none at all. -/
def actions : Check ActionSet :=
  withDefault (.object []) (object fun v =>
    ActionSet.mk <$> field v sanctionKey (optional sanction))

def rawFilter : Check RawFilter := object fun v =>
  RawFilter.mk
    <$> field v "id" integer
    <*> field v "content" nonEmptyText
    <*> field v "description" (nullish text)
    <*> field v "actions" (nullish actions)

def rawList : Check RawList := object fun v =>
  RawList.mk
    <$> field v "name" nonEmptyText
    <*> field v "defaults" (withDefault (.object []) (object fun d => field d "actions" actions))
    <*> field v "filters" (withDefault (.list []) (list rawFilter))

end Check

namespace RawList

def toBatch (raw : RawList) : FilterBatch :=
  ⟨raw.name, raw.filters.map fun f =>
    ⟨f.id, f.content, f.description, raw.defaults.orElse (f.actions.getD ActionSet.empty)⟩⟩

end RawList

end ChatModeration
