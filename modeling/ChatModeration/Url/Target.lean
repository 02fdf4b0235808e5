/-
ChatModeration.Url.Target — what a server is asked for.

A link that is sent to a server may leave out the address of the server or
repeat one.  `Url.target?` gives the path and the query that the server
receives: `.` and `..` in the path are carried out, the fragment is left out,
and what may not stand in a link is percent-encoded.
-/
import ChatModeration.Url.Host

namespace ChatModeration.Url

/-! ## § Paths -/

/-- Signs that are encoded in a path. -/
def hiddenInPath (u : CodeUnit) : Bool :=
  u == 0x20 || u == 0x22 || u == 0x23 || u == 0x3C || u == 0x3E || u == 0x3F || u == 0x60 ||
  u == 0x7B || u == 0x7D

/-- Signs that are encoded in the query of a web link; a single quote is not, in other links. -/
def hiddenInQuery (web : Bool) (u : CodeUnit) : Bool :=
  u == 0x20 || u == 0x22 || u == 0x23 || u == 0x3C || u == 0x3E || (web && u == 0x27)

/-- A segment with its encoded dots written out. -/
def plainDots (segment : Text) : Text :=
  Text.replaceAll (Text.ofString "%2e") (Text.ofString ".") (segment.map CodeUnit.asciiLower)

/-- A segment that stays where it is. -/
def isHere (segment : Text) : Bool := plainDots segment == Text.ofString "."

/-- A segment that goes back by one. -/
def isUp (segment : Text) : Bool := plainDots segment == Text.ofString ".."

/-- The path without its last segment, the last segments first; the drive of a file stays. -/
def goUp (file : Bool) : List Text → List Text
  | [segment] => if file && isDriveLetter segment then [segment] else []
  | path => path.drop 1

/-- One more segment of a path; after the last one, a step that adds none leaves an empty one. -/
def enterSegment (file last : Bool) (path : List Text) (segment : Text) : List Text :=
  if isUp segment then
    let path := goUp file path
    if last then [] :: path else path
  else if isHere segment then (if last then [] :: path else path)
  else
    let segment := percentEncode hiddenInPath segment
    if file && path.isEmpty && isDriveLetter segment then (segment.take 1 ++ [0x3A]) :: path
    else segment :: path

/-- The segments of a path one after the other, after those in `path`. -/
def enterSegments (file : Bool) (path : List Text) : List Text → List Text
  | [] => path
  | segment :: rest => enterSegments file (enterSegment file rest.isEmpty path segment) rest

/-- A path from its written form without the slash in front. -/
def readPath (web file : Bool) (t : Text) : Text :=
  let segments := Text.splitOn (fun u => u == 0x2F || (web && u == 0x5C)) t
  0x2F :: Text.join [0x2F] (enterSegments file [] segments).reverse

/-! ## § Links -/

/-- The path after an authority that is written after two slashes, if there can be that
authority. -/
def pathAfterAuthority? (web : Bool) (t : Text) : Option Text :=
  let authority := authorityOf web t
  (authorityHost? web authority).map fun _ =>
    match t.drop authority.length with
    | [] => if web then [0x2F] else []
    | _ :: path => readPath web false path

/-- The path of a link to a file, read after the colon. -/
def filePath? (t : Text) : Option Text :=
  (fileHost? t).map fun _ =>
    match t with
    | a :: b :: rest =>
      if isSlash a && isSlash b then
        let name := authorityOf true rest
        if isDriveLetter name then readPath true true rest
        else readPath true true (rest.drop (name.length + 1))
      else readPath true true (if isSlash a then b :: rest else t)
    | [a] => readPath true true (if isSlash a then [] else t)
    | [] => [0x2F]

/-- The path of a link without query and fragment, read at the root of a web server. -/
def pathAtRoot? (t : Text) : Option Text :=
  let relative? (t : Text) : Option Text :=
    match t with
    | a :: b :: rest =>
      if isSlash a && isSlash b then pathAfterAuthority? true (rest.dropWhile isSlash)
      else some (readPath true false (if isSlash a then b :: rest else t))
    | [a] => some (readPath true false (if isSlash a then [] else t))
    | [] => some [0x2F]
  match cutScheme? t with
  | none => relative? t
  | some (scheme, rest) =>
    if scheme = Text.ofString "http" then relative? rest
    else if scheme = Text.ofString "file" then filePath? rest
    else if isWebScheme scheme then pathAfterAuthority? true (rest.dropWhile isSlash)
    else match rest with
      | 0x2F :: 0x2F :: more => pathAfterAuthority? false more
      | 0x2F :: path => some (readPath false false path)
      | opaquePath => some (percentEncode (fun _ => false) opaquePath)

/-- The path of a link and the query behind it, read at the root of a web server.  Two slashes in
front belong to the path. -/
def target? (t : Text) : Option Text :=
  let link := (prepare t).takeWhile (· != 0x23)
  let path := link.takeWhile (· != 0x3F)
  let query := link.drop (path.length + 1)
  let web := match cutScheme? path with
    | none => true
    | some (scheme, _) => isWebScheme scheme || scheme = Text.ofString "file"
  let path? :=
    if (Text.ofString "//").isPrefixOf t then some (readPath true false (path.drop 1))
    else pathAtRoot? path
  path?.map fun path =>
    if query.isEmpty then path else path ++ 0x3F :: percentEncode (hiddenInQuery web) query

end ChatModeration.Url
