/-
ChatModeration.Api.Exchange — requests to the admin interface, and answers.

The body of a request is read by its media type: JSON gives a value, plain text
a text, and any other type is refused.  JSON that could change how objects
behave (a field `__proto__`, or a field `prototype` of a field `constructor`)
is refused like JSON that cannot be read.
-/
import ChatModeration.Text.Case
import ChatModeration.Url.Target
import ChatModeration.Value.Json

namespace ChatModeration

/-- A request as the server receives it. -/
structure HttpRequest where
  method : Text
  /-- The path with the query behind it. -/
  target : Text
  contentType : Option Text
  body : Text

/-- The request that a client sends for a link: the method in capital letters, and a target that is
read from the link.  A text that is no link is sent as it is. -/
def HttpRequest.forLink (method link : Text) (contentType : Option Text) (body : Text) :
    HttpRequest :=
  ⟨method.toUpper, (Url.target? link).getD link, contentType, body⟩

structure HttpResponse where
  status : Nat
  body : Value

namespace HttpResponse

/-- The answer to a request that cannot be served. -/
def failure (status : Nat) (error : String) (message : Text) (code : Option String) :
    HttpResponse :=
  ⟨status, Value.record [("statusCode", Value.ofNat status),
    ("code", (code.map Value.ofString).getD Value.absent),
    ("error", Value.ofString error), ("message", Value.text message)]⟩

def badBody (code message : String) : HttpResponse :=
  failure 400 "Bad Request" (Text.ofString message) (some code)

def emptyBody : HttpResponse :=
  badBody "FST_ERR_CTP_EMPTY_JSON_BODY"
    "Body cannot be empty when content-type is set to 'application/json'"

def invalidBody : HttpResponse :=
  badBody "FST_ERR_CTP_INVALID_JSON_BODY"
    "Body is not valid JSON but content-type is set to 'application/json'"

def bodyTooLarge : HttpResponse :=
  failure 413 "Payload Too Large" (Text.ofString "Request body is too large")
    (some "FST_ERR_CTP_BODY_TOO_LARGE")

def unsupportedMedia : HttpResponse :=
  failure 415 "Unsupported Media Type" (Text.ofString "Unsupported Media Type")
    (some "FST_ERR_CTP_INVALID_MEDIA_TYPE")

def notFound (r : HttpRequest) : HttpResponse :=
  failure 404 "Not Found"
    (Text.ofString "Route " ++ r.method ++ Text.ofString ":" ++ r.target ++
      Text.ofString " not found") none

def badTarget (r : HttpRequest) : HttpResponse :=
  failure 400 "Bad Request"
    (Text.ofString "'" ++ r.target ++ Text.ofString "' is not a valid url component")
    (some "FST_ERR_BAD_URL")

def internalError (message : Text) : HttpResponse :=
  failure 500 "Internal Server Error" message none

end HttpResponse

/-! ## § Media types -/

/-- Signs of which the names of media types consist: letters, digits and some punctuation. -/
def CodeUnit.inMediaName (u : CodeUnit) : Bool :=
  (0x41 ≤ u && u ≤ 0x5A) || (0x61 ≤ u && u ≤ 0x7A) || CodeUnit.isDigit u ||
  (Text.ofString "!#$%&'*+-.^_`|~").contains u

/-- The media type that a content type names, in small letters: two names with a slash between them,
without the parameters after a semicolon and the white space around. -/
def mediaName? (contentType : Text) : Option Text :=
  match Text.cutAt? (· == 0x2F) (Text.toLower (contentType.takeWhile (· != 0x3B))) with
  | none => none
  | some (kind, form) =>
    let kind := kind.trimStart
    let form := form.trimEnd
    if !kind.isEmpty && kind.all CodeUnit.inMediaName &&
        !form.isEmpty && form.all CodeUnit.inMediaName then
      some (kind ++ 0x2F :: form)
    else none

/-- Media types of bodies that can be read. -/
inductive MediaType where
  | json
  | plainText
deriving DecidableEq

namespace MediaType

def name : MediaType → Text
  | json => Text.ofString "application/json"
  | plainText => Text.ofString "text/plain"

/-- The media type of that name, or the one that it starts with. -/
def named? (name : Text) : Option MediaType := [json, plainText].find? (·.name.isPrefixOf name)

end MediaType

/-! ## § Bodies -/

mutual

/-- Whether a value holds an object that could change how objects behave. -/
def Value.isHostile : Value → Bool
  | .list items => Value.anyHostile items
  | .object fields =>
    (Value.object fields).has "__proto__" ||
      ((Value.object fields).field "constructor").has "prototype" || Value.anyHostileField fields
  | _ => false

def Value.anyHostile : List Value → Bool
  | [] => false
  | v :: rest => v.isHostile || Value.anyHostile rest

def Value.anyHostileField : List (Text × Value) → Bool
  | [] => false
  | (_, v) :: rest => v.isHostile || Value.anyHostileField rest

end

namespace HttpRequest

/-- The path without the query. -/
def path (r : HttpRequest) : Text := r.target.takeWhile (· != 0x3F)

/-- Bytes that stay encoded in a path: those with a meaning of their own in a link. -/
def keptInPath (b : UInt8) : Bool :=
  [0x23, 0x24, 0x25, 0x26, 0x2B, 0x2C, 0x2F, 0x3A, 0x3B, 0x3D, 0x3F, 0x40].contains b

/-- The path with its encoded signs decoded; nothing if they are not the bytes of a text. -/
def decodedPath? (r : HttpRequest) : Option Text :=
  ((Url.percentDecodeStrict? keptInPath (Text.utf8OfCodePoints r.path.codePoints)).filter
    Text.isUtf8).map Text.ofUtf8

/-- Whether requests with this method have a body; it may be left out with `OPTIONS`. -/
def hasBody (r : HttpRequest) : Bool :=
  (["DELETE", "PATCH", "POST", "PUT"].any fun m => r.method = Text.ofString m) ||
    (r.method = Text.ofString "OPTIONS" && !r.body.isEmpty)

/-- The most bytes that a body may have. -/
def maxBodySize : Nat := 1048576

/-- The value of a JSON body, which may start with a byte order mark. -/
def readJson (body : Text) : Except HttpResponse Value :=
  if body = [] then .error .emptyBody
  else match Json.read? (if body.head? = some 0xFEFF then body.drop 1 else body) with
    | none => .error .invalidBody
    | some v => if v.isHostile then .error .invalidBody else .ok v

/-- The value of the body; a request without a content type has none.  Where there is no route, a
media type that cannot be read does not matter. -/
def readBody (routed : Bool) (r : HttpRequest) : Except HttpResponse Value :=
  match r.contentType with
  | none => .ok .absent
  | some contentType =>
    if !r.hasBody then .ok .absent
    else match mediaName? contentType with
      | none => .error .unsupportedMedia
      | some name =>
        match MediaType.named? name with
        | none => if routed then .error .unsupportedMedia else .ok .absent
        | some mediaType =>
          if maxBodySize < (Text.utf8OfCodePoints r.body.codePoints).length then
            .error .bodyTooLarge
          else match mediaType with
            | .plainText => .ok (.text r.body)
            | .json => readJson r.body

end HttpRequest

end ChatModeration
