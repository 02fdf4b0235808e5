/-
ChatModeration.Config.Line — the lines of a settings file.

A settings file is a sequence of blocks: a header line without indentation,
followed by indented entries.  The text before the first colon is the name of
the block or the key of the entry; blank lines, comment lines and lines without
a colon mean nothing.
-/
import ChatModeration.Text.Blank

namespace ChatModeration.Config

/-- What an entry gives for its key. -/
inductive Scalar where
  | flag (value : Bool)
  | text (value : Text)
deriving DecidableEq

inductive Line where
  | header (name : Text)
  | entry (key : Text) (value : Scalar)
deriving DecidableEq

/-- The text between a pair of equal quotes that enclose a whole text of one line. -/
def unquote? : Text → Option Text
  | [] => none
  | quote :: rest =>
    if (quote == 0x22 || quote == 0x27) && rest.getLast? == some quote
        && !rest.dropLast.any CodeUnit.isLineEnd then some rest.dropLast
    else none

/-- The scalar that a trimmed text denotes: `true` and `false` are flags, one pair of enclosing
quotes is taken off, and any other text stands for itself. -/
def Scalar.ofText (t : Text) : Scalar :=
  if t = Text.ofString "true" then flag true
  else if t = Text.ofString "false" then flag false
  else text ((unquote? t).getD t)

namespace Line

/-- Whether a line starts with a space or a tab. -/
def isIndented (line : Text) : Bool :=
  match line with
  | u :: _ => u == 0x20 || u == 0x09
  | [] => false

/-- Whether the first unit of a line that is not white space is a number sign. -/
def isComment (line : Text) : Bool := line.trimStart.head? == some 0x23

/-- What one line means, if it means anything. -/
def read? (written : Text) : Option Line :=
  let line := written.trimEnd
  if line.isEmpty || isComment line then none
  else match Text.cutAt? (· == 0x3A) line with
    | none => none
    | some (before, after) =>
      if isIndented line then some (entry before.trim (Scalar.ofText after.trim))
      else some (header before.trim)

end Line

/-- The meaningful lines of a file in order. -/
def readLines (file : Text) : List Line := (Text.splitOn (· == 0x0A) file).filterMap Line.read?

end ChatModeration.Config
