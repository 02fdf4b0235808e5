/-
ChatModeration.Schema.Issue — what is wrong with a value, and where.

A path leads from the whole value to the place of an issue, through field
names and list positions.  `Issues.flatten` is the short form given to clients:
messages about the whole value apart from those about its fields.
-/
import ChatModeration.Value.Basic

namespace ChatModeration

/-- One step from a value into a part of it. -/
inductive PathStep where
  | field (name : Text)
  | item (position : Nat)
deriving DecidableEq

namespace PathStep

def toValue : PathStep → Value
  | field name => Value.text name
  | item position => Value.ofNat position

/-- The step as a field name. -/
def toName : PathStep → Text
  | field name => name
  | item position => Text.ofString (Nat.repr position)

end PathStep

/-- The kind of an issue. -/
inductive IssueCode where
  | invalidType
  | tooSmall
  | notFinite
  | invalidEnumValue
  | custom
deriving DecidableEq

def IssueCode.name : IssueCode → String
  | invalidType => "invalid_type"
  | tooSmall => "too_small"
  | notFinite => "not_finite"
  | invalidEnumValue => "invalid_enum_value"
  | custom => "custom"

structure Issue where
  code : IssueCode
  path : List PathStep
  message : Text
deriving DecidableEq

namespace Issue

/-- The same issue, seen from a value of which the present one is a part. -/
def under (step : PathStep) (i : Issue) : Issue := { i with path := step :: i.path }

def toValue (i : Issue) : Value :=
  Value.record [("code", Value.ofString i.code.name),
    ("path", Value.list (i.path.map PathStep.toValue)),
    ("message", Value.text i.message)]

end Issue

/-- Messages about the whole value, and messages by the field in which the issue lies. -/
structure FlatIssues where
  form : List Text
  fields : List (Text × List Text)

namespace FlatIssues

/-- Adds a message under a field, keeping fields in the order of their first message. -/
def insert (fields : List (Text × List Text)) (name message : Text) : List (Text × List Text) :=
  match fields with
  | [] => [(name, [message])]
  | f :: rest =>
    if f.1 = name then (name, f.2 ++ [message]) :: rest else f :: insert rest name message

def ofIssues (issues : List Issue) : FlatIssues :=
  { form := issues.filterMap fun i => if i.path.isEmpty then some i.message else none
    fields := issues.foldl (fun acc i =>
      match i.path with
      | [] => acc
      | step :: _ => insert acc step.toName i.message) [] }

def toValue (flat : FlatIssues) : Value :=
  Value.record [("formErrors", Value.list (flat.form.map Value.text)),
    ("fieldErrors",
      Value.ofFields (flat.fields.map fun f => (f.1, Value.list (f.2.map Value.text))))]

end FlatIssues

end ChatModeration
