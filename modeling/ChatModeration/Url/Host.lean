/-
ChatModeration.Url.Host — the host of a link.

`Url.host?` reads a link the way browsers do and gives its host, empty for a
link that has none, or nothing for a text that is no link.  The host of a web
link is a domain name, an address of 32 bits in any of its spellings, or an
address of 128 bits in brackets; other links have an opaque host.
-/
import ChatModeration.Url.Domain
import ChatModeration.Url.Ipv4
import ChatModeration.Url.Ipv6
import ChatModeration.Url.Percent

namespace ChatModeration.Url

/-! ## § Hosts -/

/-- Code points that no host may contain. -/
def forbiddenInHost (u : CodeUnit) : Bool :=
  u == 0x00 || u == 0x09 || u == 0x0A || u == 0x0D || u == 0x20 || u == 0x23 || u == 0x2F ||
  u == 0x3A || u == 0x3C || u == 0x3E || u == 0x3F || u == 0x40 || u == 0x5B || u == 0x5C ||
  u == 0x5D || u == 0x5E || u == 0x7C

/-- Code points that no domain name may contain. -/
def forbiddenInDomain (u : CodeUnit) : Bool :=
  forbiddenInHost u || u ≤ 0x1F || u == 0x25 || u == 0x7F

/-- The domain name or address that a web link names, by the code points of its host. -/
def domain? (cs : List Nat) : Option Text :=
  let decoded :=
    if cs.contains 0x25 then Text.codePointsOfUtf8 (percentDecode (Text.utf8OfCodePoints cs))
    else cs
  match Domain.toAscii? decoded with
  | none => none
  | some name =>
    if name.isEmpty || name.any forbiddenInDomain then none
    else if Ipv4.endsInNumber name then (Ipv4.readAddress? name).map Ipv4.write
    else some name

/-- The host that a text denotes, in a web link or in another one. -/
def readHost? (web : Bool) (t : Text) : Option Text :=
  if t.head? = some 0x5B then
    if t.getLast? = some 0x5D then
      (Ipv6.read? (t.drop 1).dropLast).map fun pieces => 0x5B :: Ipv6.write pieces ++ [0x5D]
    else none
  else if web then domain? t.codePoints
  else if t.any forbiddenInHost then none
  else some (percentEncode (fun _ => false) t)

/-! ## § Links -/

/-- A letter `a`–`z` of either case. -/
def isLetter (u : CodeUnit) : Bool := 0x61 ≤ (u ||| 0x20) && (u ||| 0x20) ≤ 0x7A && u < 0x80

/-- The scheme in small letters and what follows its colon. -/
def cutScheme? (t : Text) : Option (Text × Text) :=
  let inScheme (u : CodeUnit) : Bool :=
    isLetter u || CodeUnit.isDigit u || u == 0x2B || u == 0x2D || u == 0x2E
  match t.dropWhile inScheme with
  | 0x3A :: rest =>
    if t.head?.any isLetter then some ((t.takeWhile inScheme).map CodeUnit.asciiLower, rest)
    else none
  | _ => none

/-- Schemes of links that need a host. -/
def isWebScheme (scheme : Text) : Bool :=
  [Text.ofString "http", Text.ofString "https", Text.ofString "ws", Text.ofString "wss",
    Text.ofString "ftp"].contains scheme

def isSlash (u : CodeUnit) : Bool := u == 0x2F || u == 0x5C

/-- The position of the colon before the port: the first one outside of brackets. -/
def splitPort (inBrackets : Bool) : Text → Text × Option Text
  | [] => ([], none)
  | u :: rest =>
    if u = 0x3A ∧ inBrackets = false then ([], some rest)
    else
      let inside := if u = 0x5B then true else if u = 0x5D then false else inBrackets
      let (host, port) := splitPort inside rest
      (u :: host, port)

/-- A port is empty or a decimal number of 16 bits. -/
def portValid (t : Text) : Bool :=
  t.all CodeUnit.isDigit && Number.digitsValue 10 (t.map (·.toNat - 0x30)) < 65536

/-- The host of an authority, which may hold credentials before it and a port after it. -/
def authorityHost? (web : Bool) (authority : Text) : Option Text :=
  let hasUser := authority.contains 0x40
  let hostPort := if hasUser then (authority.reverse.takeWhile (· != 0x40)).reverse else authority
  let (host, port) := splitPort false hostPort
  if host.isEmpty && (web || hasUser || port.isSome) then none
  else if !(port.map portValid).getD true then none
  else if host.isEmpty then some []
  else readHost? web host

/-- The text up to the end of the authority. -/
def authorityOf (web : Bool) (t : Text) : Text :=
  t.takeWhile fun u => !(u == 0x2F || u == 0x3F || u == 0x23 || (web && u == 0x5C))

/-- Two units that name a drive. -/
def isDriveLetter (t : Text) : Bool :=
  match t with
  | [letter, colon] => isLetter letter && (colon == 0x3A || colon == 0x7C)
  | _ => false

/-- The host of a file link, read after the colon. -/
def fileHost? (t : Text) : Option Text :=
  match t with
  | a :: b :: rest =>
    if isSlash a && isSlash b then
      let name := authorityOf true rest
      if name.isEmpty || isDriveLetter name then some []
      else (readHost? true name).map fun host =>
        if host = Text.ofString "localhost" then [] else host
    else some []
  | _ => some []

/-- A text as a link is read from it: without blanks and control characters around it, without tabs
and line breaks, and with lone surrogates replaced. -/
def prepare (t : Text) : Text :=
  let outer (u : CodeUnit) : Bool := u ≤ 0x20
  let inner := ((t.dropWhile outer).reverse.dropWhile outer).reverse
  let kept := inner.filter fun u => !(u == 0x09 || u == 0x0A || u == 0x0D)
  Text.ofCodePoints ((Text.codePoints kept).map Text.replaceSurrogate)

/-- The scheme and the host of a link. -/
def schemeAndHost? (t : Text) : Option (Text × Text) :=
  match cutScheme? (prepare t) with
  | none => none
  | some (scheme, rest) =>
    let host? : Option Text :=
      if scheme = Text.ofString "file" then fileHost? rest
      else if isWebScheme scheme then
        authorityHost? true (authorityOf true (rest.dropWhile isSlash))
      else match rest with
        | 0x2F :: 0x2F :: more => authorityHost? false (authorityOf false more)
        | _ => some []
    host?.map fun host => (scheme, host)

/-- The host of a link. -/
def host? (t : Text) : Option Text := (schemeAndHost? t).map (·.2)

end ChatModeration.Url
