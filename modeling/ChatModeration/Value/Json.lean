/-
ChatModeration.Value.Json — the JSON text of a value.

`Json.read?` accepts exactly the JSON grammar: no comments, no trailing commas,
no unescaped control characters in strings, and only space, tab, LF and CR
between tokens.  A name that occurs twice in an object takes its last value.

`Json.write` omits absent fields, and writes `null` for absent list items and
for numbers that are not finite.
-/
import ChatModeration.Number.Decimal
import ChatModeration.Number.Reader
import ChatModeration.Value.Basic

namespace ChatModeration.Json

/-! ## § Reading -/

/-- White space between tokens. -/
def isSpace (u : CodeUnit) : Bool := u == 0x20 || u == 0x09 || u == 0x0A || u == 0x0D

def skipSpace (t : Text) : Text := t.dropWhile isSpace

/-- What is left after a keyword. -/
def keyword? (word : String) (t : Text) : Option Text :=
  let w := Text.ofString word
  if w.isPrefixOf t then some (t.drop w.length) else none

/-- The unit written by four hexadecimal digits. -/
def hexUnit? (a b c d : CodeUnit) : Option CodeUnit := do
  let a ← CodeUnit.hexValue? a
  let b ← CodeUnit.hexValue? b
  let c ← CodeUnit.hexValue? c
  let d ← CodeUnit.hexValue? d
  return UInt16.ofNat (((a * 16 + b) * 16 + c) * 16 + d)

/-- The unit that a single letter after a backslash stands for. -/
def escape? (u : CodeUnit) : Option CodeUnit :=
  if u == 0x22 || u == 0x5C || u == 0x2F then some u
  else if u == 0x62 then some 0x08
  else if u == 0x66 then some 0x0C
  else if u == 0x6E then some 0x0A
  else if u == 0x72 then some 0x0D
  else if u == 0x74 then some 0x09
  else none

/-- The rest of a string after its opening quote; `read` holds the units so far, the last first. -/
def readString? (read : Text) : Text → Option (Text × Text)
  | [] => none
  | 0x22 :: rest => some (read.reverse, rest)
  | 0x5C :: 0x75 :: a :: b :: c :: d :: rest =>
    match hexUnit? a b c d with
    | some u => readString? (u :: read) rest
    | none => none
  | 0x5C :: e :: rest =>
    match escape? e with
    | some u => readString? (u :: read) rest
    | none => none
  | u :: rest => if u < 0x20 || u == 0x5C then none else readString? (u :: read) rest

/-- The leading text of units that can occur in a number, and what follows it. -/
def spanNumber (t : Text) : Text × Text :=
  let inNumber (u : CodeUnit) : Bool :=
    CodeUnit.isDigit u || u == 0x2B || u == 0x2D || u == 0x2E || u == 0x65 || u == 0x45
  (t.takeWhile inNumber, t.dropWhile inNumber)

/-- Whether an unsigned number has the shape JSON asks for: no superfluous leading zero, and a
digit on both sides of the point. -/
def isNumberShape (t : Text) : Bool :=
  let whole := t.takeWhile CodeUnit.isDigit
  let rest := t.dropWhile CodeUnit.isDigit
  !whole.isEmpty && (whole.head? != some 0x30 || whole.length == 1) &&
    match rest with
    | 0x2E :: d :: _ => CodeUnit.isDigit d
    | [0x2E] => false
    | _ => true

def readNumber? (t : Text) : Option (Number × Text) :=
  let (written, rest) := spanNumber t
  let (negative, digits) := match written with
    | 0x2D :: r => (true, r)
    | r => (false, r)
  if isNumberShape digits then
    (Number.readDecimal? digits).map fun (mantissa, exponent) =>
      (Number.ofDecimal negative mantissa exponent, rest)
  else none

mutual

/-- A value and what follows it; `depth` bounds the nesting and the number of items passed. -/
def readValue? (depth : Nat) (t : Text) : Option (Value × Text) :=
  match depth with
  | 0 => none
  | depth + 1 =>
    match skipSpace t with
    | [] => none
    | 0x22 :: rest => (readString? [] rest).map fun (s, rest) => (Value.text s, rest)
    | 0x7B :: rest =>
      match skipSpace rest with
      | 0x7D :: rest => some (Value.object [], rest)
      | rest => (readFields? depth [] rest).map fun (fs, rest) => (Value.ofFields fs, rest)
    | 0x5B :: rest =>
      match skipSpace rest with
      | 0x5D :: rest => some (Value.list [], rest)
      | rest => (readItems? depth [] rest).map fun (vs, rest) => (Value.list vs, rest)
    | u :: rest =>
      if u == 0x74 then (keyword? "true" (u :: rest)).map fun r => (Value.bool true, r)
      else if u == 0x66 then (keyword? "false" (u :: rest)).map fun r => (Value.bool false, r)
      else if u == 0x6E then (keyword? "null" (u :: rest)).map fun r => (Value.null, r)
      else (readNumber? (u :: rest)).map fun (n, r) => (Value.number n, r)

/-- The items of a list up to its closing bracket; `read` holds those so far, the last first. -/
def readItems? (depth : Nat) (read : List Value) (t : Text) : Option (List Value × Text) :=
  match depth with
  | 0 => none
  | depth + 1 =>
    match readValue? depth t with
    | none => none
    | some (v, rest) =>
      match skipSpace rest with
      | 0x2C :: rest => readItems? depth (v :: read) rest
      | 0x5D :: rest => some ((v :: read).reverse, rest)
      | _ => none

/-- The fields of an object up to its closing brace. -/
def readFields? (depth : Nat) (read : List (Text × Value)) (t : Text) :
    Option (List (Text × Value) × Text) :=
  match depth with
  | 0 => none
  | depth + 1 =>
    match skipSpace t with
    | 0x22 :: rest =>
      match readString? [] rest with
      | none => none
      | some (name, rest) =>
        match skipSpace rest with
        | 0x3A :: rest =>
          match readValue? depth rest with
          | none => none
          | some (v, rest) =>
            match skipSpace rest with
            | 0x2C :: rest => readFields? depth ((name, v) :: read) rest
            | 0x7D :: rest => some (((name, v) :: read).reverse, rest)
            | _ => none
        | _ => none
    | _ => none

end

/-- The value that a whole text denotes. -/
def read? (t : Text) : Option Value :=
  match readValue? (t.length + 1) t with
  | some (v, rest) => if (skipSpace rest).isEmpty then some v else none
  | none => none

/-! ## § Writing -/

/-- Four small hexadecimal digits. -/
def hexDigits (n : Nat) : List Char :=
  let digits := Nat.toDigits 16 n
  List.replicate (4 - digits.length) '0' ++ digits

/-- A code point inside a string: quotes, backslashes, control characters and lone surrogates are
escaped. -/
def writeCodePoint (c : Nat) : List Char :=
  if c = 0x22 then ['\\', '"']
  else if c = 0x5C then ['\\', '\\']
  else if c = 0x08 then ['\\', 'b']
  else if c = 0x09 then ['\\', 't']
  else if c = 0x0A then ['\\', 'n']
  else if c = 0x0C then ['\\', 'f']
  else if c = 0x0D then ['\\', 'r']
  else if c < 0x20 || (0xD800 ≤ c && c ≤ 0xDFFF) then '\\' :: 'u' :: hexDigits c
  else [Char.ofNat c]

def writeText (t : Text) : String :=
  "\"" ++ String.ofList (t.codePoints.flatMap writeCodePoint) ++ "\""

mutual

/-- The text of a value without any white space between tokens. -/
def write : Value → String
  | .absent => "null"
  | .null => "null"
  | .bool b => if b then "true" else "false"
  | .number n => if n.isFinite then n.toString else "null"
  | .text t => writeText t
  | .list vs => "[" ++ String.intercalate "," (writeItems vs) ++ "]"
  | .object fs => "\x7b" ++ String.intercalate "," (writeFields fs) ++ "\x7d"

def writeItems : List Value → List String
  | [] => []
  | v :: vs => write v :: writeItems vs

def writeFields : List (Text × Value) → List String
  | [] => []
  | (name, v) :: fs =>
    if v.isAbsent then writeFields fs
    else (writeText name ++ ":" ++ write v) :: writeFields fs

end

end ChatModeration.Json
