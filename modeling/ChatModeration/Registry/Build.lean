/-
ChatModeration.Registry.Build — the lists that a configuration asks for.

Configured lists of one name go into one list instance, made when the name is
first met.  A configured list that is not valid is skipped with a warning; a
valid one for which there is no kind of list is skipped too, with one warning
for each such name.
-/
import ChatModeration.Registry
import ChatModeration.Schema.RawList

namespace ChatModeration

/-- The kinds of lists, under the names by which configurations ask for them.  A kind is given by
the list that a new instance starts as. -/
abbrev ListKinds := List (Text × FilterList)

/-- The token and the domain list. -/
def builtInKinds : ListKinds := [(Text.ofString "token", .token), (Text.ofString "domain", .domain)]

/-- The kind under a name; of two under the same name the last one counts. -/
def ListKinds.named? (kinds : ListKinds) (name : Text) : Option FilterList :=
  List.lookup name (List.reverse kinds)

namespace Catalogue

/-- A catalogue in the making. -/
structure Building where
  catalogue : Catalogue
  /-- Names about which a warning has been given. -/
  warned : List Text
  /-- Warnings, in order. -/
  events : List LogEvent

namespace Building

/-- Filters for a list instance that is there already. -/
def fill (b : Building) (h : ListHandle) (filters : List Filter) : Building :=
  { b with catalogue :=
      { b.catalogue with pool := b.catalogue.pool.addFilters h filters } }

def warn (b : Building) (event : LogEvent) : Building := { b with events := b.events ++ [event] }

/-- A warning about a name for which there is no kind of list, unless it has been given before. -/
def warnUnknown (b : Building) (name : Text) : Building :=
  if name ∈ b.warned then b
  else { b.warn (.unknownList name) with warned := b.warned ++ [name] }

/-- A valid batch goes into the list of its name, or into a new one. -/
def addBatch (kinds : ListKinds) (b : Building) (batch : FilterBatch) : Building :=
  match b.catalogue.registry.get? batch.name with
  | some h => b.fill h batch.filters
  | none =>
    match kinds.named? batch.name with
    | none => b.warnUnknown batch.name
    | some kind =>
      let (catalogue, h) := b.catalogue.install kind
      { b with catalogue }.fill h batch.filters

/-- One configured list of any shape. -/
def add (kinds : ListKinds) (b : Building) (raw : Value) : Building :=
  match Check.rawList raw with
  | .invalid issues => b.warn (.invalidList issues)
  | .valid list => b.addBatch kinds list.toBatch

end Building

/-- The catalogue for configured lists and the warnings about them; the new instances come after
those of `pool`. -/
def buildIn (pool : ListPool) (kinds : ListKinds) (raws : List Value) : Catalogue × List LogEvent :=
  let b := raws.foldl (Building.add kinds) ⟨⟨pool, Registry.empty⟩, [], []⟩
  (b.catalogue, b.events)

/-- The catalogue for configured lists of the built-in kinds, and the warnings about them. -/
def build (raws : List Value) : Catalogue × List LogEvent :=
  buildIn ListPool.empty builtInKinds raws

end Catalogue

end ChatModeration
