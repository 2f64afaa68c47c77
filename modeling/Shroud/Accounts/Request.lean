import Shroud.Accounts.MediaType
import Shroud.Accounts.Reading
import Shroud.Accounts.Target
import Shroud.Log.Span
import Shroud.Text.Utf8

/-!
# Requests

A request has a method, a target, headers and a body.  From its target comes the route; from its
headers and its body comes a new user, where the route asks for one.
-/

set_option autoImplicit false

namespace Shroud.Accounts

/-- A request. -/
structure Request where
  method : String
  target : Target
  headers : List (String × String)
  body : Bytes

/-! ## Routes -/

/-- Where a request goes. -/
inductive Route where
  | users
  | reveal
  /-- A user, by the identifier as it stands in the path. -/
  | user (segment : List Char)
  | health
  | unknown
  deriving DecidableEq

/-- The route of a path. -/
def Route.ofPath (path : List Char) : Route :=
  match path.splitOn '/' with
  | [[], a] =>
    if a = "users".toList then .users else if a = "health".toList then .health else .unknown
  | [[], a, b] =>
    if a ≠ "users".toList ∨ b.isEmpty then .unknown
    else if b = "reveal".toList then .reveal
    else .user b
  | _ => .unknown

/-- The bytes of a path in which `%` and two hexadecimal digits stand for a byte. -/
def percentDecoded : List Char → Bytes
  | '%' :: a :: b :: rest =>
    match Text.hexValue? a, Text.hexValue? b with
    | some hi, some lo => UInt8.ofNat (16 * hi + lo) :: percentDecoded rest
    | _, _ => Text.utf8 "%" ++ percentDecoded (a :: b :: rest)
  | c :: rest => Text.utf8 (String.singleton c) ++ percentDecoded rest
  | [] => []

namespace Request

/-- Where the request goes. -/
def route (r : Request) : Route := .ofPath r.target.path

/-- What is told of a request while it is on its way. -/
def span (r : Request) : Span :=
  ⟨"request", .debug, "tower_http::trace::make_span",
    [("method", .text r.method), ("uri", .text r.target.text), ("version", .text "HTTP/1.1")]⟩

end Request

/-! ## Bodies -/

/-- Why a request was turned away before it was looked into. -/
inductive Rejection where
  /-- The body is not declared as JSON. -/
  | undeclared
  | tooLarge
  /-- The body is no JSON, or an array in it is too long. -/
  | malformed
  /-- A value in the body misses its shape. -/
  | unsuitable (path : List Segment) (fault : Misfit)
  /-- The identifier in the path is no text. -/
  | badPath

namespace Rejection

/-- The status of the answer. -/
def status : Rejection → Nat
  | undeclared => 415
  | tooLarge => 413
  | malformed => 400
  | unsuitable _ _ => 422
  | badPath => 400

/-- The body of the answer. -/
def message : Rejection → String
  | undeclared => "Expected request with `Content-Type: application/json`"
  | tooLarge => "Failed to buffer the request body: length limit exceeded"
  | malformed => "Failed to parse the request body as JSON"
  | unsuitable path fault =>
    let place := pathText "" path
    "Failed to deserialize the JSON body into the target type: " ++
      (if place.isEmpty then "" else place ++ ": ") ++ fault.message
  | badPath => "Invalid URL"

/-- The rejection of a body that was not read. -/
def ofUnread : Unread → Rejection
  | .broken => malformed
  | .misfit _ (.tooLong _) => malformed
  | .misfit path fault => unsuitable path fault

end Rejection

/-- The number of bytes that a body may have. -/
def bodyLimit : Nat := 2097152

namespace Request

/-- The value of the first header of a name, which is given in lower case. -/
def header? (r : Request) (name : String) : Option String :=
  (r.headers.find? fun h ↦ h.1.toLower == name).map Prod.snd

/-- The body is declared as JSON. -/
def isJson (r : Request) : Bool := (r.header? "content-type").any MediaType.isJson

/-- The new user in the body. -/
def newUser (r : Request) : Except Rejection NewUser :=
  if !r.isJson then .error .undeclared
  else if bodyLimit < r.body.length then .error .tooLarge
  else match NewUser.ofDraft (Draft.read (Text.glyphs r.body)).1 with
    | .ok u => .ok u
    | .error e => .error (.ofUnread e)

/-- The identifier that a segment of a path stands for. -/
def identifier (segment : List Char) : Except Rejection String :=
  match Text.ofUtf8? (percentDecoded segment) with
  | some id => .ok id
  | none => .error .badPath

end Request

end Shroud.Accounts
