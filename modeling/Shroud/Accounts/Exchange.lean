import Shroud.Accounts.Server

/-!
# Around the service

Two layers stand around `Server.serve`.  The inner one traces: it tells the log when a request comes
and when its answer is there, and so after the notice about the exchange.  The outer one gives up on
an exchange that takes too long, and answers in place of the service.  What the tracing layer tells
is a parameter, since that layer is no part of the program.

An exchange takes too long only if a body is waited for and does not come.  The directory is never
held while something is waited for, and what follows the storing of a user does not wait; so of an
exchange that is given up nothing has been done.

A third layer, which compresses the bodies of answers, is left out: bodies are as they are before
compression.
-/

set_option autoImplicit false

namespace Shroud.Accounts

/-- What the tracing layer tells, when a request comes and when the answer is there.  Neither is the
notice of the service about an exchange. -/
structure Tracing where
  opening : Request → List Notice
  closing : Response → List Notice
  opening_message : ∀ q, ∀ x ∈ opening q, x.message ≠ "request completed"
  closing_message : ∀ r, ∀ x ∈ closing r, x.message ≠ "request completed"

namespace Tracing

/-- The notice that a request has come. -/
def started : Notice := ⟨.debug, "tower_http::trace::on_request", "started processing request", []⟩

/-- The notice that an answer is there, after some milliseconds. -/
def finished (elapsed : Nat) (r : Response) : Notice :=
  ⟨.debug, "tower_http::trace::on_response", "finished processing request",
    [("latency", .text (toString elapsed ++ " ms")), ("status", .number (.int r.status))]⟩

/-- The name of a status with which the service tells of a failure. -/
def reason : Nat → String
  | 500 => "Internal Server Error"
  | 503 => "Service Unavailable"
  | _ => "<unknown status code>"

/-- The notice that the service has failed. -/
def failed (elapsed : Nat) (r : Response) : Notice :=
  ⟨.error, "tower_http::trace::on_failure", "response failed",
    [("classification", .text ("Status code: " ++ toString r.status ++ " " ++ reason r.status)),
      ("latency", .text (toString elapsed ++ " ms"))]⟩

/-- The tracing layer as it is set up, with an exchange of some milliseconds: an answer with a
status of 500 or more is a failure. -/
def standard (elapsed : Nat) : Tracing where
  opening _ := [started]
  closing r := finished elapsed r :: if r.status < 500 then [] else [failed elapsed r]
  opening_message _ := by simp [started]
  closing_message r := by
    split <;> simp [finished, failed]

end Tracing

/-- The answer to a request that was given up: it has no body and no identifier. -/
def Response.timedOut : Response := ⟨408, none, none, "", "", none, none⟩

/-- The body of the request is waited for: the route takes a new user, the method is the right one,
and the body is declared as JSON. -/
def Request.awaitsBody (q : Request) : Bool :=
  (q.route == .users || q.route == .reveal) && q.method == "POST" && q.isJson

/-- The body of the request is waited for and does not come.  `arrives` tells whether as much of it
as is read has come before the exchange is given up. -/
def Request.stalls (q : Request) (arrives : Bool) : Bool := q.awaitsBody && !arrives

/-- A request is answered by the service and the layers around it. -/
def Server.exchange (s : Server) (t : Tracing) (arrives : Bool) (c : Circumstances) (q : Request) :
    StateM Nonces Outcome := do
  if q.stalls arrives then
    return s.unchanged .timedOut (t.opening q)
  else
    let o ← s.serve c q
    return { o with notices := t.opening q ++ o.notices ++ t.closing o.response }

end Shroud.Accounts
