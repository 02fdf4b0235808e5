/-
ChatModeration.Value.Display — values shown to people.

A value is shown on one line if it fits, and with one entry on each line if it
does not; longer lists are set in columns.  Lists and objects more than three
deep, items beyond the hundredth and units of a text beyond ten thousand are
only counted.
-/
import ChatModeration.Number.Decimal
import ChatModeration.Unicode.Width
import ChatModeration.Value.Basic

namespace ChatModeration.Value.Display

/-- Widths beyond which lines are broken. -/
structure Layout where
  lineWidth : Nat
  maxDepth : Nat
  maxItems : Nat
  maxUnits : Nat
  /-- Texts up to this length are never broken. -/
  minTextWidth : Nat
  maxColumns : Nat

/-- Lines have 80 units. -/
def layout : Layout := ⟨80, 2, 100, 10000, 16, 12⟩

def spaces (n : Nat) : Text := List.replicate n 0x20

/-- A line break followed by an indentation. -/
def breakTo (indent : Nat) : Text := 0x0A :: spaces indent

/-! ## § Texts -/

/-- The digits of `n` in base 16. -/
def hex (n : Nat) : List Char := Nat.toDigits 16 n

def escapeCodePoint (quote : Nat) (c : Nat) : Text :=
  if c = quote ∨ c = 0x5C then 0x5C :: Text.ofCodePoint c
  else if c = 0x08 then Text.ofString "\\b"
  else if c = 0x09 then Text.ofString "\\t"
  else if c = 0x0A then Text.ofString "\\n"
  else if c = 0x0C then Text.ofString "\\f"
  else if c = 0x0D then Text.ofString "\\r"
  else if c < 0x20 ∨ (0x7F ≤ c ∧ c ≤ 0x9F) then
    Text.ofString (String.ofList ('\\' :: 'x' ::
      (if c < 0x10 then ['0'] else []) ++ (hex c).map Char.toUpper))
  else if 0xD800 ≤ c ∧ c ≤ 0xDFFF then Text.ofString (String.ofList ('\\' :: 'u' :: hex c))
  else Text.ofCodePoint c

/-- The quote for a text: a single one unless the text holds it, else a double one, else a backtick;
a single one again where none of them is free. -/
def quoteFor (t : Text) : CodeUnit :=
  if 0x27 ∉ t then 0x27
  else if 0x22 ∉ t then 0x22
  else if 0x60 ∉ t ∧ !Text.hasPart (Text.ofString "$\x7b") t then 0x60
  else 0x27

/-- A text in quotes, with escapes for what cannot be seen. -/
def quoted (t : Text) : Text :=
  let quote := quoteFor t
  quote :: t.codePoints.flatMap (escapeCodePoint quote.toNat) ++ [quote]

/-- The lines of a text, each with the line feed that ends it. -/
def lines : Text → List Text
  | [] => []
  | u :: rest =>
    if u = 0x0A then [u] :: lines rest
    else match lines rest with
      | [] => [[u]]
      | line :: more => (u :: line) :: more

/-- A count of what has been left out. -/
def more (count : Nat) (noun : String) : Text :=
  Text.ofString ("... " ++ Nat.repr count ++ " more " ++ noun ++ (if count = 1 then "" else "s"))

/-- A text in quotes; a long one is broken after its line feeds. -/
def showText (indent : Nat) (t : Text) : Text :=
  let shown := t.take layout.maxUnits
  let trailer :=
    if t.length ≤ layout.maxUnits then [] else more (t.length - layout.maxUnits) "character"
  let body :=
    if layout.minTextWidth < shown.length ∧ layout.lineWidth < shown.length + indent + 4 then
      Text.join (Text.ofString " +" ++ breakTo (indent + 2)) ((lines shown).map quoted)
    else quoted shown
  body ++ trailer

/-! ## § Lists in columns -/

/-- Whether a block of `count` entries in so many columns is not too wide for its height: about
two and a half times as many lines as columns, with the width of an entry taken between its
average and its greatest. -/
def fitsSquare (count greatest : Nat) (average : Rat) (columns : Nat) : Bool :=
  let area : Rat := 5 / 2 * count
  let side : Rat := (columns - 1 / 2) * (columns - 1 / 2)
  let excess : Rat := (greatest : Rat) - 3 - area / side
  side ≤ area && (excess ≤ 0 || excess * excess ≤ greatest - average)

/-- The number of columns for entries of these widths; `entries` counts the count of items left out
too, if there is one. -/
def columnsFor (indent : Nat) (widths : List Nat) (entries : Nat) : Nat :=
  let total := widths.foldl (fun acc n => acc + n + 2) 0
  let longest := widths.foldl max 0
  let greatest := longest + 2
  if greatest * 3 + indent < layout.lineWidth && (greatest * 5 < total || longest ≤ 6) then
    let limit := min layout.maxColumns ((layout.lineWidth - indent) / greatest)
    let average : Rat := (total : Rat) / entries
    ((List.range limit).filter fun k => fitsSquare widths.length greatest average (k + 1)).length
  else 1

/-- An entry with the number of columns that it takes up on a terminal. -/
structure Cell where
  text : Text
  width : Nat

def Cell.ofText (t : Text) : Cell := ⟨t, Unicode.displayWidth t⟩

/-- The blanks that fill up an entry. -/
def Cell.padding (cell : Cell) (width : Nat) : Text := spaces (width - cell.width)

/-- One line of a block: every entry but the last is followed by a comma, and entries are filled up
to the widths of their columns, which do not count the comma. -/
def setLine (numeric : Bool) : List Nat → List Cell → Text
  | _, [] => []
  | width :: _, [cell] => if numeric then cell.padding width ++ cell.text else cell.text
  | [], cells => Text.join (Text.ofString ", ") (cells.map (·.text))
  | width :: widths, cell :: rest =>
    let entry := cell.text ++ Text.ofString ", "
    (if numeric then cell.padding width ++ entry else entry ++ cell.padding width) ++
      setLine numeric widths rest

/-- Successive groups of `size` entries. -/
def groupsOf {α : Type} (size : Nat) (entries : List α) : Nat → List (List α)
  | 0 => []
  | fuel + 1 =>
    if entries.isEmpty then []
    else entries.take size :: groupsOf size (entries.drop size) fuel

/-- The entries of a list set in columns; numbers are aligned to the right.  `tail` is the count of
items left out, if any. -/
def setInColumns (indent : Nat) (numeric : Bool) (entries tail : List Text) : List Text :=
  let cells := entries.map Cell.ofText
  let columns := columnsFor indent (cells.map (·.width)) (entries.length + tail.length)
  if columns ≤ 1 then entries ++ tail
  else
    let rows := groupsOf columns cells cells.length
    let widths := (List.range columns).map fun k =>
      rows.foldl (fun acc row => max acc ((row[k]?.map (·.width)).getD 0)) 0
    rows.map (setLine numeric widths) ++ tail

/-! ## § Lists and objects -/

/-- Whether entries fit on the line of their brackets. -/
def fitsLine (indent : Nat) (entries : List Text) : Bool :=
  let count := entries.length
  let total := entries.foldl (fun acc e => acc + e.length) (count + (count + indent + 1 + 10))
  total ≤ layout.lineWidth && count + (count + (count + indent + 1 + 10)) ≤ layout.lineWidth &&
    entries.all fun e => decide (0x0A ∉ e)

/-- Entries between brackets, on one line or on lines of their own. -/
def bracketed (indent : Nat) (opening closing : CodeUnit) (oneLine : Bool) (entries : List Text) :
    Text :=
  if oneLine && fitsLine indent entries then
    opening :: 0x20 :: Text.join (Text.ofString ", ") entries ++ [0x20, closing]
  else
    opening :: breakTo (indent + 2) ++ Text.join (0x2C :: breakTo (indent + 2)) entries ++
      breakTo indent ++ [closing]

/-- A field name; one that is no plain identifier is quoted. -/
def showName (name : Text) : Text :=
  let isLetter (u : CodeUnit) : Bool :=
    (0x41 ≤ u && u ≤ 0x5A) || (0x61 ≤ u && u ≤ 0x7A) || u == 0x5F
  if name = Text.ofString "__proto__" then Text.ofString "['__proto__']"
  else if name.head?.any isLetter && name.all fun u => isLetter u || CodeUnit.isDigit u then name
  else quoted name

def isNumber : Value → Bool
  | number _ => true
  | _ => false

mutual

/-- The display of a value that is `depth` levels deep. -/
def render (depth indent : Nat) : Value → Text
  | .absent => Text.ofString "undefined"
  | .null => Text.ofString "null"
  | .bool b => Text.ofString (if b then "true" else "false")
  | .number n => if n = Number.negativeZero then Text.ofString "-0" else n.toText
  | .text t => showText indent t
  | .list items =>
    if items.isEmpty then Text.ofString "[]"
    else if layout.maxDepth < depth then Text.ofString "[Array]"
    else
      let entries := renderItems depth indent layout.maxItems items
      let left := items.length - layout.maxItems
      let tail := if left = 0 then [] else [more left "item"]
      let set :=
        if 6 < entries.length + tail.length then
          setInColumns indent ((items.take (layout.maxItems + 1)).all isNumber) entries tail
        else entries ++ tail
      bracketed indent 0x5B 0x5D (set.length = entries.length + tail.length) set
  | .object fields =>
    if fields.isEmpty then Text.ofString "\x7b\x7d"
    else if layout.maxDepth < depth then Text.ofString "[Object]"
    else bracketed indent 0x7B 0x7D true (renderFields depth indent fields)

/-- The displays of at most `count` items. -/
def renderItems (depth indent : Nat) (count : Nat) : List Value → List Text
  | [] => []
  | v :: vs =>
    if count = 0 then []
    else render (depth + 1) (indent + 2) v :: renderItems depth indent (count - 1) vs

def renderFields (depth indent : Nat) : List (Text × Value) → List Text
  | [] => []
  | (name, v) :: fields =>
    (showName name ++ Text.ofString ": " ++ render (depth + 1) (indent + 2) v) ::
      renderFields depth indent fields

end

/-- The display of a whole value. -/
def ofValue (v : Value) : Text := render 0 0 v

end ChatModeration.Value.Display
