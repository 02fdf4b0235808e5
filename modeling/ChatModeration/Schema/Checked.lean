/-
ChatModeration.Schema.Checked — checking values of any shape.

A check gives either what a value denotes or all that is wrong with it: the
issues of all fields of an object and of all items of a list are collected, in
order, each with the path to its place.
-/
import ChatModeration.Schema.Issue

namespace ChatModeration

/-- The outcome of a check. -/
inductive Checked (α : Type) where
  | valid (result : α)
  | invalid (issues : List Issue)

namespace Checked

variable {α β : Type}

def map (f : α → β) : Checked α → Checked β
  | valid a => valid (f a)
  | invalid issues => invalid issues

/-- Both outcomes; the issues of both are kept. -/
def seq (f : Checked (α → β)) (a : Checked α) : Checked β :=
  match f, a with
  | valid f, valid a => valid (f a)
  | valid _, invalid issues => invalid issues
  | invalid issues, valid _ => invalid issues
  | invalid issues, invalid others => invalid (issues ++ others)

instance : Functor Checked := ⟨map, fun a => map fun _ => a⟩

instance : Applicative Checked where
  pure := valid
  seq f a := seq f (a ())

def issues : Checked α → List Issue
  | valid _ => []
  | invalid issues => issues

def result? : Checked α → Option α
  | valid a => some a
  | invalid _ => none

/-- The outcome for a part of a value. -/
def under (step : PathStep) : Checked α → Checked α
  | valid a => valid a
  | invalid issues => invalid (issues.map (Issue.under step))

/-- An outcome without path. -/
def fail (code : IssueCode) (message : String) : Checked α :=
  invalid [⟨code, [], Text.ofString message⟩]

/-- All outcomes; the issues of all are kept. -/
def all : List (Checked α) → Checked (List α)
  | [] => valid []
  | a :: rest => List.cons <$> a <*> all rest

end Checked

/-- What a value is called in issues. -/
def Value.typeName : Value → String
  | .absent => "undefined"
  | .null => "null"
  | .bool _ => "boolean"
  | .number n => if n = Number.nan then "nan" else "number"
  | .text _ => "string"
  | .list _ => "array"
  | .object _ => "object"

/-- A check for values. -/
abbrev Check (α : Type) := Value → Checked α

namespace Check

variable {α : Type}

/-- The outcome for a value of the wrong type. -/
def wrongType (expected : String) (v : Value) : Checked α :=
  Checked.fail .invalidType
    (if v.isAbsent then "Required" else "Expected " ++ expected ++ ", received " ++ v.typeName)

/-! ## § Scalars -/

def text : Check Text
  | .text t => .valid t
  | v => wrongType "string" v

def nonEmptyText : Check Text
  | .text t =>
    if t = [] then Checked.fail .tooSmall "String must contain at least 1 character(s)"
    else .valid t
  | v => wrongType "string" v

/-- The number that a value is; `nan` is none. -/
def number? : Value → Option Number
  | .number n => if n = Number.nan then none else some n
  | _ => none

def integer : Check Number := fun v =>
  match number? v with
  | none => wrongType "number" v
  | some n =>
    if n.isInteger then .valid n
    else Checked.fail .invalidType "Expected integer, received float"

/-- A finite number that is not negative; an infinity may fail both demands. -/
def duration : Check Number := fun v =>
  match number? v with
  | none => wrongType "number" v
  | some n =>
    (fun _ _ => n)
      <$> (if n.isFinite then Checked.valid () else Checked.fail .notFinite "Number must be finite")
      <*> (if n.lt 0 then
          Checked.fail .tooSmall "Number must be greater than or equal to 0"
        else Checked.valid ())

/-! ## § Values that may be missing -/

/-- A value that may be `null`. -/
def nullable (check : Check α) : Check (Option α)
  | .null => .valid none
  | v => some <$> check v

/-- A value that may be absent. -/
def optional (check : Check α) : Check (Option α)
  | .absent => .valid none
  | v => some <$> check v

/-- A value that is replaced by another when it is absent. -/
def withDefault (fallback : Value) (check : Check α) : Check α
  | .absent => check fallback
  | v => check v

/-- A value that may be absent or `null`. -/
def nullish (check : Check α) : Check (Option α) := withDefault .null (nullable check)

/-! ## § Objects and lists -/

/-- A check of the fields of an object; fields that it does not ask for are ignored. -/
def object (fields : Value → Checked α) : Check α
  | .object fs => fields (.object fs)
  | v => wrongType "object" v

/-- A check of one field. -/
def field (v : Value) (name : String) (check : Check α) : Checked α :=
  (check (v.field name)).under (.field (Text.ofString name))

/-- A check of every item of a list. -/
def list (check : Check α) : Check (List α)
  | .list items =>
    Checked.all (items.zipIdx.map fun (item, k) => (check item).under (.item k))
  | v => wrongType "array" v

end Check

end ChatModeration
