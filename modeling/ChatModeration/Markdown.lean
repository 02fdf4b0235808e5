/-
ChatModeration.Markdown — text for a chat that formats messages.

`escape` shows a text as it was written: it puts backslashes before everything
that would start a format.  Each format is handled by a pass of its own over
the result of the one before, and marks inside links and custom emoji are left
alone.  Where a run of marks is ambiguous the passes alternate between reading
it from the left and from the right.
-/
import ChatModeration.Pattern.Match
import ChatModeration.Pattern.Reader

namespace ChatModeration.Markdown

/-! ## § Formats -/

def bold (t : Text) : Text := Text.ofString "**" ++ t ++ Text.ofString "**"

def inlineCode (t : Text) : Text := 0x60 :: t ++ [0x60]

def link (title url : Text) : Text :=
  Text.ofString "[" ++ title ++ Text.ofString "](" ++ url ++ Text.ofString ")"

def userMention (id : Text) : Text := Text.ofString "<@" ++ id ++ Text.ofString ">"

def channelMention (id : Text) : Text := Text.ofString "<#" ++ id ++ Text.ofString ">"

/-- A moment shown relative to the present, given in seconds. -/
def relativeTime (seconds : Text) : Text :=
  Text.ofString "<t:" ++ seconds ++ Text.ofString ":R>"

/-! ## § Escaping -/

/-- A pattern given as a literal. -/
def patternOf (written : String) : Pattern :=
  (Pattern.read? false (Text.ofString written)).getD ⟨.empty, 0, false⟩

/-- One or two backticks with no backtick beside them. -/
def codePattern : Pattern := patternOf r"(?=`)(?<=^|[^`])``?(?=[^`]|$)"

def starPattern : Pattern :=
  patternOf r"(?=\*)(?<=^|[^*])(?<!(?<!<)https?:\/\/\S*|<[^\s:]+:\/[^\s>]*)\*([^*]|\*\*|$)"

def underscorePattern : Pattern :=
  patternOf r"(?=_)(?<=^|[^_])(?<!<a?:.+|(?<!<)https?:\/\/\S*|<[^\s:]:\/[^\s>]*)_(?!:\d+>)([^_]|__|$)"

def boldPattern : Pattern := patternOf r"\*\*(\*)?"

def underlinePattern : Pattern := patternOf r"(?=__)(?<!<a?:.+|https?:\/\/\S+)__(_)?(?!:\d+>)"

/-- The replacement of an ambiguous run: from the left in odd rounds, from the right in even
ones. -/
def alternate (round : Nat) (left right : Text) : Nat × Text :=
  (round + 1, if (round + 1) % 2 = 1 then left else right)

/-- Single marks of emphasis; a run of three is one mark beside a pair. -/
def escapeEmphasis (pattern : Pattern) (mark : CodeUnit) (t : Text) : Text :=
  pattern.replaceWith (fun round s found =>
    let after := found.groupText s 1
    if after = [mark, mark] then alternate round (0x5C :: mark :: after) (after ++ [0x5C, mark])
    else (round, 0x5C :: mark :: after)) t

/-- Pairs of marks; a third mark is kept on one side of the pair. -/
def escapePair (pattern : Pattern) (mark : CodeUnit) (t : Text) : Text :=
  let pair : Text := [0x5C, mark, 0x5C, mark]
  pattern.replaceWith (fun round s found =>
    let third := found.groupText s 1
    if third = [] then (round, pair) else alternate round (third ++ pair) (pair ++ third)) t

def escapeCode (t : Text) : Text :=
  codePattern.replaceWith (fun round s found =>
    (round, (found.text s).flatMap fun u => [0x5C, u])) t

/-- Every occurrence of a mark with a backslash before each of its units. -/
def escapeMark (mark : String) (t : Text) : Text :=
  let mark := Text.ofString mark
  Text.replaceAll mark (mark.flatMap fun u => [0x5C, u]) t

/-- The text with all formats escaped. -/
def escape (t : Text) : Text :=
  let t := escapeMark "\\" t
  let t := escapeCode t
  let t := escapeMark "```" t
  let t := escapeEmphasis starPattern 0x2A t
  let t := escapeEmphasis underscorePattern 0x5F t
  let t := escapePair boldPattern 0x2A t
  let t := escapePair underlinePattern 0x5F t
  let t := escapeMark "~~" t
  escapeMark "||" t

end ChatModeration.Markdown
