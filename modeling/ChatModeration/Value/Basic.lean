/-
ChatModeration.Value.Basic — data that has not been validated.

Filter settings, request bodies and the records that filter lists report as
matches arrive as values of any shape.  `Value.absent` is a missing value, as
opposed to `null`; a field of an object may be present and still be absent.
-/
import ChatModeration.Number.Basic
import ChatModeration.Text.Basic

namespace ChatModeration

inductive Value where
  | absent
  | null
  | bool (value : Bool)
  | number (value : Number)
  | text (value : Text)
  | list (items : List Value)
  | object (fields : List (Text × Value))
deriving Inhabited

namespace Value

instance : Coe Text Value := ⟨text⟩

/-- A string literal as a value. -/
def ofString (s : String) : Value := text (Text.ofString s)

def ofNat (n : Nat) : Value := number (Number.finite n)

/-- A value, or `null` where there is none. -/
def ofOption : Option Value → Value
  | some v => v
  | none => null

/-- A text, or `null` where there is none. -/
def ofText? (t : Option Text) : Value := ofOption (t.map text)

/-- An object from fields named by string literals. -/
def record (fields : List (String × Value)) : Value :=
  object (fields.map fun (name, v) => (Text.ofString name, v))

/-- The fields of an object; other values have none. -/
def fields : Value → List (Text × Value)
  | object fs => fs
  | _ => []

/-- The items of a list; other values have none. -/
def items : Value → List Value
  | list vs => vs
  | _ => []

/-- The field of that name; absent if there is none or if the value is not an object. -/
def get (v : Value) (name : Text) : Value := (v.fields.lookup name).getD absent

def field (v : Value) (name : String) : Value := v.get (Text.ofString name)

def has (v : Value) (name : String) : Bool := (v.fields.lookup (Text.ofString name)).isSome

def isAbsent : Value → Bool
  | absent => true
  | _ => false

/-- Neither absent nor `null`. -/
def isGiven : Value → Bool
  | absent => false
  | null => false
  | _ => true

def text? : Value → Option Text
  | text t => some t
  | _ => none

def number? : Value → Option Number
  | number n => some n
  | _ => none

def bool? : Value → Option Bool
  | bool b => some b
  | _ => none

/-! ## § Order of fields -/

/-- The number that a field name denotes when it is written as a list index: digits without a
leading zero, below 2³² - 1. -/
def indexOf? (name : Text) : Option Nat :=
  if name.isEmpty || !name.all CodeUnit.isDigit || (name.head? == some 0x30 && name.length != 1)
      || 10 < name.length then none
  else
    let n := name.foldl (fun acc u => acc * 10 + (u.toNat - 0x30)) 0
    if n < 0xFFFFFFFF then some n else none

/-- A field put among its peers: a name that is already there keeps its place and takes the new
value. -/
def putField (fields : List (Text × Value)) (name : Text) (v : Value) : List (Text × Value) :=
  if fields.any (·.1 = name) then fields.map fun f => if f.1 = name then (name, v) else f
  else fields ++ [(name, v)]

/-- An object from fields in the order in which they were written: index names come first in
ascending order, the others follow in the order of their first occurrence, and the last value given
for a name counts. -/
def ofFields (written : List (Text × Value)) : Value :=
  let fields := written.foldl (fun acc f => putField acc f.1 f.2) []
  let indexed := fields.filter fun f => (indexOf? f.1).isSome
  let named := fields.filter fun f => (indexOf? f.1).isNone
  let key (f : Text × Value) : Nat := (indexOf? f.1).getD 0
  object (indexed.mergeSort (fun f g => key f ≤ key g) ++ named)

end Value

end ChatModeration
