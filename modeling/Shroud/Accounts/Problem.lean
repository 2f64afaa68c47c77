import Shroud.Accounts.User

/-!
# Problems

What the service answers when it does not do what was asked.
-/

set_option autoImplicit false

namespace Shroud.Accounts

/-- A kind of problem. -/
inductive Problem.Kind where
  | badRequest
  | forbidden
  | notFound
  | unavailable
  | internal
  deriving DecidableEq

/-- A problem: its kind, and what is told about it. -/
structure Problem where
  kind : Problem.Kind
  message : String
  deriving DecidableEq

namespace Problem

/-- The status of the answer. -/
def status (p : Problem) : Nat :=
  match p.kind with
  | .badRequest => 400
  | .forbidden => 403
  | .notFound => 404
  | .unavailable => 503
  | .internal => 500

/-- The name of the kind in the body of the answer. -/
def code (p : Problem) : String :=
  match p.kind with
  | .badRequest => "bad_request"
  | .forbidden => "forbidden"
  | .notFound => "not_found"
  | .unavailable => "service_unavailable"
  | .internal => "internal_error"

/-- The problem in words. -/
def text (p : Problem) : String :=
  let kind := match p.kind with
    | .badRequest => "bad request"
    | .forbidden => "forbidden"
    | .notFound => "not found"
    | .unavailable => "service unavailable"
    | .internal => "internal error"
  kind ++ ": " ++ p.message

end Problem

instance : HasDocument Problem where
  document p := members [("code", .text p.code), ("message", .text p.message)]

end Shroud.Accounts
