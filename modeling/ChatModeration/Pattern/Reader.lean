/-
ChatModeration.Pattern.Reader — patterns from their written form.

The notation is that of regular expressions on the web without the Unicode
mode, including its tolerant forms: a brace that opens no repetition and a
closing bracket stand for themselves, an escape without a meaning of its own
stands for the escaped unit, and a numbered reference beyond the last group is
an octal code.  `Pattern.read?` gives nothing for a text that is no pattern.
-/
import ChatModeration.Pattern.Syntax
import ChatModeration.Unicode.Identifier

namespace ChatModeration.Pattern

open Node

/-! ## § Names of groups -/

/-- Exactly `count` hexadecimal digits. -/
def readHex? (count : Nat) (t : Text) : Option (CodeUnit × Text) :=
  let digits := t.take count
  if digits.length = count then
    (digits.mapM CodeUnit.hexValue?).map fun vs =>
      (UInt16.ofNat (vs.foldl (fun acc v => acc * 16 + v) 0), t.drop count)
  else none

/-- A pair of surrogates. -/
def isPair (u v : CodeUnit) : Bool := CodeUnit.isHighSurrogate u && CodeUnit.isLowSurrogate v

/-- Hexadecimal digits up to a closing brace, as a code point. -/
def readBracedHex? (t : Text) : Option (Nat × Text) :=
  match (t.takeWhile (· != 0x7D)).mapM CodeUnit.hexValue?, t.dropWhile (· != 0x7D) with
  | some (v :: vs), _ :: rest =>
    let code := (v :: vs).foldl (fun acc v => acc * 16 + v) 0
    if code ≤ 0x10FFFF then some (code, rest) else none
  | _, _ => none

/-- The code point that an escape in a name stands for, read after the backslash.  The two halves of
a pair may each have an escape. -/
def readNameEscape? : Text → Option (Nat × Text)
  | 0x75 :: 0x7B :: rest => readBracedHex? rest
  | 0x75 :: rest =>
    match readHex? 4 rest with
    | none => none
    | some (u, rest) =>
      let second? : Option (CodeUnit × Text) := match rest with
        | 0x5C :: 0x75 :: more => readHex? 4 more
        | _ => none
      match second?.filter fun (v, _) => isPair u v with
      | some (v, rest) => some (Text.pairValue u v, rest)
      | none => some (u.toNat, rest)
  | _ => none

/-- One code point of a name, written out or as an escape. -/
def readNameCode? : Text → Option (Nat × Text)
  | [] => none
  | 0x5C :: rest => readNameEscape? rest
  | [u] => some (u.toNat, [])
  | u :: v :: rest =>
    if isPair u v then some (Text.pairValue u v, rest) else some (u.toNat, v :: rest)

/-- The code points of a name up to the closing angle bracket, which may be written as an escape
too. -/
def readNameFrom? (first : Bool) : Nat → Text → Option (List Nat × Text)
  | 0, _ => none
  | fuel + 1, t =>
    match readNameCode? t with
    | none => none
    | some (c, rest) =>
      if c = 0x3E ∧ first = false then some ([], rest)
      else if (if first then Unicode.startsIdentifier c else Unicode.continuesIdentifier c) then
        (readNameFrom? false fuel rest).map fun (cs, rest) => (c :: cs, rest)
      else none

/-- The name of a group or of a reference to one, read after the opening angle bracket. -/
def readName? (t : Text) : Option (List Nat × Text) := readNameFrom? true (t.length + 1) t

/-! ## § Groups, found in advance

Whether `\2` is a reference or an octal code, and whether `\k` opens a named
reference, depends on the groups of the whole pattern. -/

/-- What follows the closing bracket of a character class. -/
def skipClass : Text → Text
  | [] => []
  | 0x5C :: _ :: rest => skipClass rest
  | 0x5D :: rest => rest
  | _ :: rest => skipClass rest

/-- The names of the capturing groups in order; `none` for a group without a name, and an empty one
where no name can be read.  No more than `fuel` units are looked at. -/
def scanGroups (fuel : Nat) (t : Text) : List (Option (List Nat)) :=
  match fuel, t with
  | 0, _ => []
  | _, [] => []
  | fuel + 1, 0x5C :: rest => scanGroups fuel (rest.drop 1)
  | fuel + 1, 0x5B :: rest => scanGroups fuel (skipClass rest)
  | fuel + 1, 0x28 :: 0x3F :: 0x3C :: 0x3D :: rest => scanGroups fuel rest
  | fuel + 1, 0x28 :: 0x3F :: 0x3C :: 0x21 :: rest => scanGroups fuel rest
  | fuel + 1, 0x28 :: 0x3F :: 0x3C :: rest =>
    some (((readName? rest).map (·.1)).getD []) :: scanGroups fuel rest
  | fuel + 1, 0x28 :: 0x3F :: rest => scanGroups fuel rest
  | fuel + 1, 0x28 :: rest => none :: scanGroups fuel rest
  | fuel + 1, _ :: rest => scanGroups fuel rest

/-- The names of all capturing groups of a pattern. -/
def groupNames (t : Text) : List (Option (List Nat)) := scanGroups t.length t

/-! ## § Escapes -/

/-- Up to three octal digits with a value below 256, of which the first is given. -/
def readOctal (first : CodeUnit) (rest : Text) : CodeUnit × Text :=
  let isOctal (u : CodeUnit) : Bool := 0x30 ≤ u && u ≤ 0x37
  let value := first - 0x30
  match rest with
  | b :: rest₁ =>
    if isOctal b then
      let value := value * 8 + (b - 0x30)
      match rest₁ with
      | c :: rest₂ =>
        if value < 32 && isOctal c then (value * 8 + (c - 0x30), rest₂) else (value, rest₁)
      | [] => (value, rest₁)
    else (value, rest)
  | [] => (value, rest)

def isAsciiLetter (u : CodeUnit) : Bool := (0x41 ≤ u && u ≤ 0x5A) || (0x61 ≤ u && u ≤ 0x7A)

/-- The unit that an escape stands for, read after the backslash.  Inside a class, digits and the
underscore count as control letters too.  With named groups `\k` is no unit. -/
def readUnitEscape? (inClass named : Bool) : Text → Option (CodeUnit × Text)
  | [] => none
  | u :: rest =>
    if u = 0x66 then some (0x0C, rest)
    else if u = 0x6E then some (0x0A, rest)
    else if u = 0x72 then some (0x0D, rest)
    else if u = 0x74 then some (0x09, rest)
    else if u = 0x76 then some (0x0B, rest)
    else if u = 0x63 then
      match rest with
      | letter :: more =>
        if isAsciiLetter letter ∨ (inClass = true ∧ (CodeUnit.isDigit letter ∨ letter = 0x5F)) then
          some (letter % 32, more)
        else some (0x5C, u :: rest)
      | [] => some (0x5C, u :: rest)
    else if 0x30 ≤ u ∧ u ≤ 0x37 then some (readOctal u rest)
    else if u = 0x78 then some ((readHex? 2 rest).getD (u, rest))
    else if u = 0x75 then some ((readHex? 4 rest).getD (u, rest))
    else if u = 0x6B ∧ named = true then none
    else some (u, rest)

/-- The class that an escape stands for, if it stands for one. -/
def classEscape? (u : CodeUnit) : Option ClassItem :=
  if u = 0x64 then some (.digit false)
  else if u = 0x44 then some (.digit true)
  else if u = 0x73 then some (.blank false)
  else if u = 0x53 then some (.blank true)
  else if u = 0x77 then some (.word false)
  else if u = 0x57 then some (.word true)
  else none

/-! ## § Character classes -/

/-- One end of a range: a unit, or a class that an escape stands for. -/
def readClassAtom? (named : Bool) : Text → Option ((CodeUnit ⊕ ClassItem) × Text)
  | [] => none
  | 0x5C :: u :: rest =>
    match classEscape? u with
    | some item => some (.inr item, rest)
    | none =>
      if u = 0x62 then some (.inl 0x08, rest)
      else (readUnitEscape? true named (u :: rest)).map fun (v, rest) => (.inl v, rest)
  | [0x5C] => none
  | u :: rest => some (.inl u, rest)

def atomItem : CodeUnit ⊕ ClassItem → ClassItem
  | .inl u => .range u u
  | .inr item => item

/-- The items of a class up to its closing bracket; `read` holds those so far, the last first. -/
def readClassItems? (named : Bool) (read : List ClassItem) :
    Nat → Text → Option (List ClassItem × Text)
  | 0, _ => none
  | _ + 1, [] => none
  | _ + 1, 0x5D :: rest => some (read.reverse, rest)
  | fuel + 1, t =>
    match readClassAtom? named t with
    | none => none
    | some (a, 0x2D :: 0x5D :: rest) =>
      some ((.range 0x2D 0x2D :: atomItem a :: read).reverse, rest)
    | some (a, 0x2D :: rest) =>
      match readClassAtom? named rest with
      | none => none
      | some (b, rest) =>
        match a, b with
        | .inl first, .inl last =>
          if first ≤ last then readClassItems? named (.range first last :: read) fuel rest else none
        | _, _ =>
          readClassItems? named (atomItem b :: .range 0x2D 0x2D :: atomItem a :: read) fuel rest
    | some (a, rest) => readClassItems? named (atomItem a :: read) fuel rest

/-- A class, read after its opening bracket. -/
def readClass? (named : Bool) (t : Text) : Option (Node × Text) :=
  let (negated, t) := match t with
    | 0x5E :: rest => (true, rest)
    | rest => (false, rest)
  (readClassItems? named [] (t.length + 1) t).map fun (items, rest) => (oneOf negated items, rest)

/-! ## § Repetition -/

/-- Leading digits as a number, if there are any. -/
def readCount? (t : Text) : Option (Nat × Text) :=
  match t.takeWhile CodeUnit.isDigit with
  | [] => none
  | digits =>
    some (digits.foldl (fun acc u => acc * 10 + (u.toNat - 0x30)) 0, t.dropWhile CodeUnit.isDigit)

/-- The greatest bound of a repetition; greater ones are read as this one. -/
def maxBound : Nat := 0x7FFFFFFF

def readBound? (t : Text) : Option (Nat × Text) :=
  (readCount? t).map fun (count, rest) => (min count maxBound, rest)

/-- Bounds in braces, read after the opening brace. -/
def readBounds? (t : Text) : Option (Nat × Option Nat × Text) :=
  match readBound? t with
  | none => none
  | some (least, 0x7D :: rest) => some (least, some least, rest)
  | some (least, 0x2C :: 0x7D :: rest) => some (least, none, rest)
  | some (least, 0x2C :: rest) =>
    match readBound? rest with
    | some (most, 0x7D :: rest) => some (least, some most, rest)
    | _ => none
  | some _ => none

/-- The bounds of a quantifier, if one follows. -/
def readQuantifier? : Text → Option (Nat × Option Nat × Text)
  | 0x2A :: rest => some (0, none, rest)
  | 0x2B :: rest => some (1, none, rest)
  | 0x3F :: rest => some (0, some 1, rest)
  | 0x7B :: rest => readBounds? rest
  | _ => none

/-- An atom with the quantifier that follows it, if one does.  The groups after `before` up to
`last` lie inside the atom. -/
def quantify? (atom : Node) (before last : Nat) (t : Text) : Option (Node × Text) :=
  match readQuantifier? t with
  | none => some (atom, t)
  | some (least, most, rest) =>
    if most.any (· < least) then none
    else
      let (greedy, rest) := match rest with
        | 0x3F :: more => (false, more)
        | more => (true, more)
      some (repeated atom least most greedy before last, rest)

/-! ## § Terms -/

/-- The number of the group of that name. -/
def groupNamed? (names : List (Option (List Nat))) (name : List Nat) : Option Nat :=
  (names.findIdx? (· == some name)).map (· + 1)

/-- The kinds of parentheses. -/
inductive Opening where
  | capture
  | plain
  | look (behind negated : Bool)

/-- What an opening parenthesis opens, read after it. -/
def readOpening? : Text → Option (Opening × Text)
  | 0x3F :: 0x3A :: rest => some (.plain, rest)
  | 0x3F :: 0x3D :: rest => some (.look false false, rest)
  | 0x3F :: 0x21 :: rest => some (.look false true, rest)
  | 0x3F :: 0x3C :: 0x3D :: rest => some (.look true false, rest)
  | 0x3F :: 0x3C :: 0x21 :: rest => some (.look true true, rest)
  | 0x3F :: 0x3C :: rest => (readName? rest).map fun (_, rest) => (.capture, rest)
  | 0x3F :: _ => none
  | rest => some (.capture, rest)

/-- An escape outside of classes, read after the backslash.  The answer also says whether a
quantifier may follow. -/
def readEscape? (names : List (Option (List Nat))) : Text → Option (Node × Bool × Text)
  | [] => none
  | u :: rest =>
    let named := names.any Option.isSome
    if u = 0x62 then some (wordEdge false, false, rest)
    else if u = 0x42 then some (wordEdge true, false, rest)
    else match classEscape? u with
    | some item => some (oneOf false [item], true, rest)
    | none =>
      if u = 0x6B ∧ named = true then
        match rest with
        | 0x3C :: rest => do
          let (name, rest) ← readName? rest
          let index ← groupNamed? names name
          some (backref index, true, rest)
        | _ => none
      else
        let reference? : Option (Nat × Text) :=
          if 0x31 ≤ u ∧ u ≤ 0x39 then (readCount? (u :: rest)).filter (·.1 ≤ names.length) else none
        match reference? with
        | some (index, rest) => some (backref index, true, rest)
        | none =>
          (readUnitEscape? false named (u :: rest)).map fun (v, rest) => (unit v, true, rest)

/-- The most groups that a pattern can have. -/
def maxGroups : Nat := 32767

mutual

/-- Alternatives up to a closing parenthesis or the end.  `opened` counts the groups opened so far;
the answer holds the new count. -/
def readAlternatives? (names : List (Option (List Nat))) (fuel opened : Nat) (t : Text) :
    Option (Node × Nat × Text) :=
  match fuel with
  | 0 => none
  | fuel + 1 =>
    match readSequence? names fuel opened empty t with
    | none => none
    | some (first, opened, 0x7C :: rest) =>
      match readAlternatives? names fuel opened rest with
      | none => none
      | some (second, opened, rest) => some (either first second, opened, rest)
    | some (first, opened, rest) => some (first, opened, rest)

/-- Terms up to a bar, a closing parenthesis or the end, after the terms in `read`. -/
def readSequence? (names : List (Option (List Nat))) (fuel opened : Nat) (read : Node) (t : Text) :
    Option (Node × Nat × Text) :=
  match fuel with
  | 0 => none
  | fuel + 1 =>
    match t with
    | [] => some (read, opened, [])
    | 0x7C :: rest => some (read, opened, 0x7C :: rest)
    | 0x29 :: rest => some (read, opened, 0x29 :: rest)
    | t =>
      match readTerm? names fuel opened t with
      | none => none
      | some (term, opened, rest) => readSequence? names fuel opened (seq read term) rest

/-- One term with its quantifier. -/
def readTerm? (names : List (Option (List Nat))) (fuel opened : Nat) (t : Text) :
    Option (Node × Nat × Text) :=
  let quantified (atom : Node) (rest : Text) : Option (Node × Nat × Text) :=
    (quantify? atom opened opened rest).map fun (n, rest) => (n, opened, rest)
  match fuel with
  | 0 => none
  | fuel + 1 =>
    if (readQuantifier? t).isSome then none
    else match t with
    | [] => none
    | 0x5E :: rest => some (textStart, opened, rest)
    | 0x24 :: rest => some (textEnd, opened, rest)
    | 0x2E :: rest => quantified dot rest
    | 0x5B :: rest =>
      match readClass? (names.any Option.isSome) rest with
      | none => none
      | some (atom, rest) => quantified atom rest
    | 0x5C :: rest =>
      match readEscape? names rest with
      | none => none
      | some (atom, true, rest) => quantified atom rest
      | some (assertion, false, rest) => some (assertion, opened, rest)
    | 0x28 :: rest =>
      match readOpening? rest with
      | none => none
      | some (opening, rest) =>
        let inside := match opening with
          | .capture => opened + 1
          | _ => opened
        if maxGroups < inside then none
        else match readAlternatives? names fuel inside rest with
          | some (body, last, 0x29 :: rest) =>
            match opening with
            | .capture =>
              (quantify? (group (opened + 1) body) opened last rest).map fun (n, rest) =>
                (n, last, rest)
            | .plain => (quantify? body opened last rest).map fun (n, rest) => (n, last, rest)
            | .look false negated =>
              (quantify? (look false negated body) opened last rest).map fun (n, rest) =>
                (n, last, rest)
            | .look true negated => some (look true negated body, last, rest)
          | _ => none
    | u :: rest => quantified (unit u) rest

end

/-- Whether some name is given to two groups. -/
def hasRepeatedName (names : List (Option (List Nat))) : Bool :=
  let given := names.filterMap id
  !(given.eraseDups.length == given.length)

/-- The pattern that a text denotes. -/
def read? (ignoreCase : Bool) (t : Text) : Option Pattern :=
  let names := groupNames t
  if hasRepeatedName names then none
  else match readAlternatives? names (3 * t.length + 3) 0 t with
    | some (root, groups, []) => some ⟨root, groups, ignoreCase⟩
    | _ => none

end ChatModeration.Pattern
