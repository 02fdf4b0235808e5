/-
ChatModeration.Pattern.Match — searching a text for a pattern.

The matcher tries the possibilities in order and takes the first that lets the
rest of the pattern match too: `Node.run` is given what remains to be matched
as a continuation.  Inside a look-behind everything runs from right to left.
A round of a repetition beyond the required ones must consume something, so
that the number of rounds is bounded by the length of the text.
-/
import ChatModeration.Pattern.Fold
import ChatModeration.Pattern.Syntax

namespace ChatModeration.Pattern

/-- The stretches that the groups have matched, as start and end. -/
abbrev Captures := Array (Option (Nat × Nat))

/-- What remains to be matched, from a position and the captures so far. -/
abbrev Rest := Nat → Captures → Option (Nat × Captures)

/-- A text prepared for matching. -/
structure Subject where
  units : Array CodeUnit
  /-- The units as they are compared. -/
  folded : Array CodeUnit
  ignoreCase : Bool

namespace Subject

def ofText (ignoreCase : Bool) (t : Text) : Subject :=
  { units := t.toArray
    folded := (if ignoreCase then t.map CodeUnit.fold else t).toArray
    ignoreCase }

def size (s : Subject) : Nat := s.units.size

/-- Whether a literal unit matches at a position of the folded text. -/
def same (s : Subject) (u v : CodeUnit) : Bool :=
  if s.ignoreCase then CodeUnit.fold u == v else u == v

/-- Whether a class item holds for a unit of the folded text. -/
def inItem (s : Subject) (item : ClassItem) (v : CodeUnit) : Bool :=
  match item with
  | .range _ _ => if s.ignoreCase then (CodeUnit.foldClass v).any item.holds else item.holds v
  | _ => item.holds v

/-- Whether a word unit stands at a position. -/
def wordAt (s : Subject) (i : Nat) : Bool := s.units[i]?.any isWordUnit

/-- Whether exactly one side of a position is a word unit. -/
def atWordEdge (s : Subject) (i : Nat) : Bool := (i != 0 && s.wordAt (i - 1)) != s.wordAt i

/-- The position after one unit that `accepts` holds of, in either direction. -/
def step? (s : Subject) (behind : Bool) (accepts : CodeUnit → Bool) (i : Nat) : Option Nat :=
  if behind then
    if i = 0 then none else if s.folded[i - 1]?.any accepts then some (i - 1) else none
  else if s.folded[i]?.any accepts then some (i + 1) else none

/-- The position after a stretch that equals the one from `first` to `last`. -/
def stretch? (s : Subject) (behind : Bool) (first last i : Nat) : Option Nat :=
  let size := last - first
  if behind then
    if i < size then none
    else if s.folded.extract (i - size) i == s.folded.extract first last then some (i - size)
    else none
  else if s.folded.extract i (i + size) == s.folded.extract first last then some (i + size)
  else none

end Subject

/-- The captures with the groups after `before` up to `last` unset. -/
def unset (before last : Nat) (captures : Captures) : Captures :=
  (List.range (last - before)).foldl (fun acc k => acc.setIfInBounds (before + k) none) captures

/-- The rounds of a repetition; `body` matches one of them.  At least `least` rounds are made, at
most `most`, and no more than `fuel` altogether. -/
def rounds (body : Rest → Rest) (clear : Captures → Captures) (greedy : Bool) :
    Nat → Nat → Option Nat → Rest → Rest
  | 0, _, _, _ => fun _ _ => none
  | fuel + 1, least, most, rest => fun i captures =>
    if most = some 0 then rest i captures
    else
      let again : Rest := fun j captures =>
        if least = 0 ∧ j = i then none
        else rounds body clear greedy fuel (least - 1) (most.map (· - 1)) rest j captures
      if least ≠ 0 then body again i (clear captures)
      else if greedy then
        match body again i (clear captures) with
        | some found => some found
        | none => rest i captures
      else
        match rest i captures with
        | some found => some found
        | none => body again i (clear captures)

/-- Matches a node and then what remains. -/
def Node.run (s : Subject) : Node → Bool → Rest → Rest
  | empty, _, rest => rest
  | unit u, behind, rest => fun i captures =>
    match s.step? behind (s.same u) i with
    | some j => rest j captures
    | none => none
  | dot, behind, rest => fun i captures =>
    match s.step? behind (fun v => !CodeUnit.isLineEnd v) i with
    | some j => rest j captures
    | none => none
  | oneOf negated items, behind, rest => fun i captures =>
    match s.step? behind (fun v => items.any (s.inItem · v) != negated) i with
    | some j => rest j captures
    | none => none
  | seq first second, behind, rest =>
    if behind then second.run s behind (first.run s behind rest)
    else first.run s behind (second.run s behind rest)
  | either first second, behind, rest => fun i captures =>
    match first.run s behind rest i captures with
    | some found => some found
    | none => second.run s behind rest i captures
  | group index body, behind, rest => fun i captures =>
    body.run s behind (fun j captures =>
      let stretch := if behind then (j, i) else (i, j)
      rest j (captures.setIfInBounds (index - 1) (some stretch))) i captures
  | backref index, behind, rest => fun i captures =>
    match captures[index - 1]? with
    | some (some (first, last)) =>
      match s.stretch? behind first last i with
      | some j => rest j captures
      | none => none
    | _ => rest i captures
  | textStart, _, rest => fun i captures => if i = 0 then rest i captures else none
  | textEnd, _, rest => fun i captures => if i = s.size then rest i captures else none
  | wordEdge negated, _, rest => fun i captures =>
    if s.atWordEdge i != negated then rest i captures else none
  | look behind negated body, _, rest => fun i captures =>
    match body.run s behind (fun j captures => some (j, captures)) i captures with
    | some (_, inner) => if negated then none else rest i inner
    | none => if negated then rest i captures else none
  | repeated body least most greedy before last, behind, rest =>
    rounds (body.run s behind) (unset before last) greedy (least + s.size + 2) least most rest

/-- Where a pattern was found, and what its groups matched. -/
structure Found where
  start : Nat
  stop : Nat
  captures : Captures

/-- The pattern matched exactly at a position. -/
def matchAt? (p : Pattern) (s : Subject) (i : Nat) : Option Found :=
  (p.root.run s false (fun j captures => some (j, captures)) i
    (Array.replicate p.groups none)).map fun (j, captures) => ⟨i, j, captures⟩

/-- The first match at one of `count` positions from `i` on. -/
def searchFrom? (p : Pattern) (s : Subject) (i : Nat) : Nat → Option Found
  | 0 => none
  | count + 1 =>
    match p.matchAt? s i with
    | some found => some found
    | none => searchFrom? p s (i + 1) count

/-- The first match in a text. -/
def search? (p : Pattern) (s : Subject) : Option Found := p.searchFrom? s 0 (s.size + 1)

/-- All matches from left to right without overlap, from `i` on, at most `count` of them. -/
def searchAll (p : Pattern) (s : Subject) (i : Nat) : Nat → List Found
  | 0 => []
  | count + 1 =>
    match p.searchFrom? s i (s.size + 1 - i) with
    | none => []
    | some found =>
      found :: searchAll p s (if found.stop = i then found.stop + 1 else found.stop) count

/-- The units between two positions. -/
def Subject.slice (s : Subject) (first last : Nat) : Text := (s.units.extract first last).toList

/-- The text of a match. -/
def Found.text (found : Found) (s : Subject) : Text := s.slice found.start found.stop

/-- The text that a group matched; empty for a group that is unset. -/
def Found.groupText (found : Found) (s : Subject) (index : Nat) : Text :=
  match found.captures[index - 1]? with
  | some (some (first, last)) => s.slice first last
  | _ => []

/-- The first stretch of a text that matches. -/
def firstMatch? (p : Pattern) (t : Text) : Option Text :=
  let s := Subject.ofText p.ignoreCase t
  (p.search? s).map (·.text s)

/-- The text with every match replaced; `replacement` is given the match and the running number
that it has made so far. -/
def replaceWith (p : Pattern) (replacement : Nat → Subject → Found → Nat × Text) (t : Text) :
    Text :=
  let s := Subject.ofText p.ignoreCase t
  let founds := p.searchAll s 0 (s.size + 1)
  let (_, at_, out) := founds.foldl (fun ((count, at_, out) : Nat × Nat × List Text) found =>
    let (count, text) := replacement count s found
    (count, found.stop, text :: s.slice at_ found.start :: out)) (0, 0, [])
  (s.slice at_ s.size :: out).reverse.flatten

end ChatModeration.Pattern
