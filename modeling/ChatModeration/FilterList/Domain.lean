/-
ChatModeration.FilterList.Domain — filters that look at the hosts of links.

The links of a message are those in its text and those of its embeds.  The
content of a domain filter is a domain name; it matches every link to that
domain or to one of its subdomains.
-/
import ChatModeration.FilterList.Basic
import ChatModeration.Url.Host

namespace ChatModeration.Domain

/-! ## § Links in a text -/

/-- Units that can be part of a link: all but white space, angle brackets and double quotes. -/
def inLink (u : CodeUnit) : Bool :=
  !(CodeUnit.isBlank u || u == 0x3C || u == 0x3E || u == 0x22)

/-- Whether a text starts with a word, without regard to the case of ASCII letters. -/
def startsWithWord (word t : Text) : Bool :=
  word.isPrefixOf ((t.take word.length).map CodeUnit.asciiLower)

/-- The length of `http://` or `https://` at the start of a text, if either is there. -/
def schemeLength? (t : Text) : Option Nat :=
  if startsWithWord (Text.ofString "http://") t then some 7
  else if startsWithWord (Text.ofString "https://") t then some 8
  else none

/-- The link at the start of a text: a scheme and at least one unit after it. -/
def linkAt? (t : Text) : Option Text :=
  match schemeLength? t with
  | none => none
  | some n =>
    match (t.drop n).takeWhile inLink with
    | [] => none
    | rest => some (t.take n ++ rest)

/-- The links of a text from left to right.  A link goes on as long as it can, so that none starts
inside another; `skip` is the number of units left of the present one. -/
def linksFrom : Nat → Text → List Text
  | _, [] => []
  | skip + 1, _ :: rest => linksFrom skip rest
  | 0, u :: rest =>
    match linkAt? (u :: rest) with
    | some link => link :: linksFrom (link.length - 1) rest
    | none => linksFrom 0 rest

def links (t : Text) : List Text := linksFrom 0 t

/-! ## § Hosts -/

/-- The links of a message: those of its text, then those of its embeds. -/
def linksOf (m : Incoming) : List Text :=
  links m.content ++ m.embeds.filterMap fun e => e.url.filter fun url => !url.isEmpty

/-- The different members of a list in the order of their first occurrence. -/
def distinct (hosts : List Text) : List Text :=
  hosts.foldl (fun seen host => if host ∈ seen then seen else seen ++ [host]) []

/-- The hosts of the links of a message, in small letters. -/
def hostsOf (m : Incoming) : List Text :=
  distinct ((linksOf m).filterMap fun link => (Url.host? link).map Text.toLower)

/-! ## § Matching -/

/-- Whether a host is a domain or one of its subdomains. -/
def covers (domain host : Text) : Bool := host = domain || (0x2E :: domain).isSuffixOf host

/-- The filter with the hosts that it covers, if it covers any. -/
def trigger? (hosts : List Text) (f : Filter) : Option TriggeredFilter :=
  match hosts.filter (covers f.content.toLower) with
  | [] => none
  | found => some ⟨f, found.map Value.text⟩

/-- The filters that a message triggers, in the order in which they were added. -/
def triggered (filters : List Filter) (m : Incoming) : List TriggeredFilter :=
  filters.filterMap (trigger? (hostsOf m))

end ChatModeration.Domain
