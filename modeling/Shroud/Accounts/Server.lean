import Shroud.Accounts.Directory
import Shroud.Accounts.Problem
import Shroud.Accounts.Request
import Shroud.Log.Filter
import Shroud.Log.Key
import Shroud.Text.Blank

/-!
# The service

The service creates users, finds them, and undoes the encryption of what a log holds of a new user.
What comes from outside with each request, such as the time and a fresh identifier, is given with
it; nonces are taken from a supply.

Each request has one answer and at least one notice, the last of which tells about the exchange.  It
carries the obscured lines of the new user in the request and of what is in the answer, where there
are such.

This is the service itself.  Its notices are those of the program; what the layers around it do, and
what they tell, is in `Shroud.Accounts.Exchange`.
-/

set_option autoImplicit false

namespace Shroud.Accounts

/-- The state of the service. -/
structure Server where
  directory : Directory
  serviceName : String
  /-- The key for revealing. -/
  logKey : Option LogKey
  revealEnabled : Bool
  /-- The place of the key of the log. -/
  slot : KeySlot

/-- What comes from outside with a request. -/
structure Circumstances where
  requestId : String
  /-- The identifier of a user that is created. -/
  userId : String
  now : Instant
  /-- The milliseconds that the exchange takes. -/
  elapsed : Nat

/-- The answer to a request. -/
structure Response where
  status : Nat
  contentType : Option String
  /-- The methods that the route allows, where the method was wrong. -/
  allow : Option String
  body : String
  /-- The identifier of the exchange; it is empty where the answer has none. -/
  requestId : String
  /-- The obscured line of what was in the request. -/
  requestLog : Option String
  /-- The obscured line of what is in the answer. -/
  responseLog : Option String

/-- An answer, the service afterwards, and what was told to the log. -/
structure Outcome where
  response : Response
  server : Server
  notices : List Notice

/-! ## Answers -/

/-- A document as the body of an answer. -/
def bodyText (d : Document) : String :=
  match Document.text? d with
  | .ok s => s
  | .error u => u.message

namespace Response

/-- An answer with a JSON body and no obscured lines. -/
def json (status : Nat) (d : Document) : Response :=
  ⟨status, some "application/json", none, bodyText d, "", none, none⟩

/-- The answer to a request that was turned away. -/
def ofRejection (r : Rejection) : Response :=
  ⟨r.status, some "text/plain; charset=utf-8", none, r.message, "", none, none⟩

/-- The answer that tells of a problem. -/
def ofProblem (p : Problem) : Response := json p.status (HasDocument.document p)

/-- The answer to a method that a route does not allow. -/
def wrongMethod (allowed : String) : Response := ⟨405, none, some allowed, "", "", none, none⟩

/-- The answer that brings data. -/
def ofData {α : Type} [HasDocument α] (status : Nat) (message : String) (data : α) : Response :=
  json status (members [("code", .number (.int status)), ("message", .text message),
    ("data", HasDocument.document data)])

/-- The answer without its body. -/
def withoutBody (r : Response) : Response := { r with body := "" }

end Response

/-! ## Notices -/

/-- The part of the program that does what is asked. -/
def handlers : String := "cloak_svc::server::handlers"

/-- The part of the program that tells about exchanges. -/
def middleware : String := "cloak_svc::server::middleware"

/-- A user was created. -/
def userCreated (u : User) : Notice :=
  ⟨.info, handlers, "user created", [("user_id", .text u.id)]⟩

/-- Nothing was revealed. -/
def revealFailed : Failure CipherError → Notice
  | .leaf path _ => ⟨.warn, handlers, "reveal failed", [("field", .text path)]⟩
  | f => ⟨.warn, handlers, "reveal failed", [("error", .text f.message)]⟩

/-- An exchange is complete. -/
def completed (c : Circumstances) (q : Request) (r : Response) : Notice :=
  ⟨.info, middleware, "request completed",
    [("method", .text q.method), ("path", .text (String.ofList q.target.path)),
      ("status", .number (.int r.status)), ("latency_ms", .number (.int c.elapsed)),
      ("request_body", .text (r.requestLog.getD "")),
      ("response_body", .text (r.responseLog.getD ""))]⟩

/-- What is told of an exchange while the service is at it. -/
def Server.span (s : Server) (c : Circumstances) : Span :=
  ⟨"request", .info, middleware,
    [("service_name", .text s.serviceName), ("request_id", .text c.requestId)]⟩

/-- The spans around the notices of an exchange, the outer one first. -/
def Server.spans (s : Server) (c : Circumstances) (q : Request) : List Span := [q.span, s.span c]

/-! ## Actions -/

namespace NewUser

/-- What keeps a new user from being stored. -/
def problem? (u : NewUser) : Option Problem :=
  if Text.isBlank u.name then some ⟨.badRequest, "name must not be empty"⟩
  else if !u.email.toList.contains '@' then some ⟨.badRequest, "email is not valid"⟩
  else if u.password.isEmpty then some ⟨.badRequest, "password must not be empty"⟩
  else none

/-- What a new user told before it was encrypted, or the problem that a refusal is, and what is told
to the log. -/
def revealed (u : NewUser) (key : String) : StateM Nonces (Except Problem NewUser × List Notice) :=
  fun n ↦
    match Concealer.standard.decrypt u key n with
    | .ok plain n => ((.ok plain, []), n)
    | .error f n =>
      let p : Problem := match f with
        | .leaf path _ => ⟨.badRequest, "field `" ++ path ++ "` could not be decrypted"⟩
        | _ => ⟨.internal, "reveal failed"⟩
      ((.error p, f.notices ++ [revealFailed f]), n)

end NewUser

namespace Server

/-- The users with one more. -/
def store (s : Server) (u : User) : Server := { s with directory := s.directory.insert u }

/-- An answer that leaves the service as it is. -/
def unchanged (s : Server) (r : Response) (notices : List Notice) : Outcome := ⟨r, s, notices⟩

/-- The answer that brings data, with its obscured line. -/
def bring {α : Type} [HasRoot α] [HasDocument α] (s : Server) (status : Nat) (message : String)
    (data : α) (requestLog : Option String) (notices : List Notice) : StateM Nonces Outcome := do
  let line ← s.slot.obscured data
  return ⟨{ Response.ofData status message data with
      requestLog := requestLog, responseLog := line.line }, s, notices ++ line.notices⟩

/-- The answer that tells of a problem. -/
def tell (s : Server) (p : Problem) (requestLog : Option String) (notices : List Notice) :
    Outcome :=
  s.unchanged { Response.ofProblem p with requestLog := requestLog } notices

/-- A new user is stored. -/
def create (s : Server) (c : Circumstances) (u : NewUser) : StateM Nonces Outcome := do
  let line ← s.slot.obscured u
  match u.problem? with
  | some p => return s.tell p line.line line.notices
  | none =>
    let user := User.ofNewUser c.userId u c.now
    (s.store user).bring 201 "user created" user line.line (line.notices ++ [userCreated user])

/-- A user is looked up. -/
def find (s : Server) (id : String) : StateM Nonces Outcome :=
  match s.directory.get? id with
  | some u => s.bring 200 "ok" u none []
  | none => return s.tell ⟨.notFound, "no user with id " ++ id⟩ none []

/-- What a log holds of a new user is revealed. -/
def reveal (s : Server) (u : NewUser) : StateM Nonces Outcome := do
  let line ← s.slot.obscured u
  if !s.revealEnabled then
    return s.tell ⟨.forbidden, "reveal is disabled"⟩ line.line line.notices
  match s.logKey with
  | none => return s.tell ⟨.unavailable, "no log key configured"⟩ line.line line.notices
  | some key =>
    match ← u.revealed key.text with
    | (.ok plain, notices) => s.bring 200 "revealed" plain line.line (line.notices ++ notices)
    | (.error p, notices) => return s.tell p line.line (line.notices ++ notices)

/-- How the service is. -/
def health (s : Server) : Response :=
  .json 200 (members [("status", .text "ok"), ("log_key_installed", .bool s.logKey.isSome),
    ("users", .number (.int s.directory.size))])

/-! ## Requests -/

/-- An action on the new user in the body of a request. -/
def withNewUser (s : Server) (q : Request) (act : NewUser → StateM Nonces Outcome) :
    StateM Nonces Outcome :=
  match q.newUser with
  | .ok u => act u
  | .error e => return s.unchanged (.ofRejection e) []

/-- A request for something to be read: other methods than `GET` and `HEAD` are wrong, and `HEAD` is
answered without a body. -/
def reading (s : Server) (q : Request) (act : StateM Nonces Outcome) : StateM Nonces Outcome := do
  if q.method = "GET" then act
  else if q.method = "HEAD" then
    let o ← act
    return { o with response := o.response.withoutBody }
  else return s.unchanged (.wrongMethod "GET,HEAD") []

/-- A request for something to be done: other methods than `POST` are wrong. -/
def doing (s : Server) (q : Request) (act : StateM Nonces Outcome) : StateM Nonces Outcome :=
  if q.method = "POST" then act else return s.unchanged (.wrongMethod "POST") []

/-- What a request asks for is done. -/
def handle (s : Server) (c : Circumstances) (q : Request) : StateM Nonces Outcome :=
  match q.route with
  | .users => s.doing q (s.withNewUser q (s.create c))
  | .reveal => s.doing q (s.withNewUser q s.reveal)
  | .user segment => s.reading q (match Request.identifier segment with
    | .ok id => s.find id
    | .error e => return s.unchanged (.ofRejection e) [])
  | .health => s.reading q (return s.unchanged s.health [])
  | .unknown =>
    return s.tell ⟨.notFound, "the requested resource does not exist"⟩ none []

/-- A request whose body is there is answered, and the log is told about the exchange.  The notices
are those of the program: the last of them is followed by those of the tracing layer, and a body
that does not come is the business of another layer, in `Server.exchange`. -/
def serve (s : Server) (c : Circumstances) (q : Request) : StateM Nonces Outcome := do
  let o ← s.handle c q
  return ⟨{ o.response with requestId := c.requestId }, o.server,
    o.notices ++ [completed c q o.response]⟩

end Server

end Shroud.Accounts
