import Shroud.Proofs.Accounts.Recovery

/-!
# What a request does with the directory

A request turns to the directory once, or not at all: it stores a user, looks one up, or counts
them.  `Access` is what it asks, and `Reply` what it hears.  The request alone decides what is asked
(`Request.accessFor`); the answer depends on the directory through the reply alone, and nothing but
the access changes the directory (`Server.comesOf_serve`).

So requests that are handled at the same time leave the directory, and are answered, as if they were
handled one after another in the order of their accesses.
-/

set_option autoImplicit false

namespace Shroud.Accounts

/-! ## Statuses -/

theorem Problem.status_ne_201 (p : Problem) : p.status ≠ 201 := by
  obtain ⟨kind, message⟩ := p
  cases kind <;> simp [status]

theorem Rejection.status_ne_201 (r : Rejection) : r.status ≠ 201 := by
  cases r <;> simp [status]

/-! ## Accesses -/

/-- What a request asks of the directory. -/
inductive Access where
  | nothing
  | insert (u : User)
  | lookup (id : String)
  | count
  deriving DecidableEq

/-- What the directory replies. -/
inductive Reply where
  | nothing
  | found (u : Option User)
  | counted (n : Nat)

/-- The reply to an access, and the directory after it. -/
def Directory.access (d : Directory) : Access → Reply × Directory
  | .nothing => (.nothing, d)
  | .insert u => (.nothing, d.insert u)
  | .lookup id => (.found (d.get? id), d)
  | .count => (.counted d.size, d)

/-- A new user that is stored. -/
def NewUser.accessFor (u : NewUser) (c : Circumstances) : Access :=
  match u.problem? with
  | none => .insert (User.ofNewUser c.userId u c.now)
  | some _ => .nothing

/-- The method is one of those that only read. -/
def Request.reads (q : Request) : Bool := q.method = "GET" || q.method = "HEAD"

/-- What a request asks of the directory. -/
def Request.accessFor (q : Request) (c : Circumstances) : Access :=
  match q.route with
  | .users =>
    if q.method = "POST" then
      match q.newUser with
      | .ok u => u.accessFor c
      | .error _ => .nothing
    else .nothing
  | .user segment =>
    if q.reads then
      match Request.identifier segment with
      | .ok id => .lookup id
      | .error _ => .nothing
    else .nothing
  | .health => if q.reads then .count else .nothing
  | .reveal => .nothing
  | .unknown => .nothing

namespace Server

/-! ## Actions, case by case -/

section

variable {s : Server} {c : Circumstances} {u : NewUser} {n : Nonces}

theorem create_of_problem {p : Problem} (h : u.problem? = some p) :
    s.create c u n = (s.tell p (s.slot.obscured u n).1.line (s.slot.obscured u n).1.notices,
      (s.slot.obscured u n).2) := by
  simp only [create, bind_apply, h]
  rfl

theorem create_of_none (h : u.problem? = none) :
    s.create c u n =
      (s.store (User.ofNewUser c.userId u c.now)).bring 201 "user created"
        (User.ofNewUser c.userId u c.now) (s.slot.obscured u n).1.line
        ((s.slot.obscured u n).1.notices ++ [userCreated (User.ofNewUser c.userId u c.now)])
        (s.slot.obscured u n).2 := by
  simp only [create, bind_apply, h]

theorem find_of_none {id : String} (h : s.directory.get? id = none) :
    s.find id n = (s.tell ⟨.notFound, "no user with id " ++ id⟩ none [], n) := by
  simp only [find, h]
  rfl

theorem find_of_some {id : String} {user : User} (h : s.directory.get? id = some user) :
    s.find id n = s.bring 200 "ok" user none [] n := by
  simp only [find, h]

theorem reveal_of_disabled (h : s.revealEnabled = false) :
    s.reveal u n = (s.tell ⟨.forbidden, "reveal is disabled"⟩ (s.slot.obscured u n).1.line
      (s.slot.obscured u n).1.notices, (s.slot.obscured u n).2) := by
  simp only [reveal, bind_apply, h, Bool.not_false, if_true]
  rfl

theorem reveal_of_noKey (h : s.revealEnabled = true) (hkey : s.logKey = none) :
    s.reveal u n = (s.tell ⟨.unavailable, "no log key configured"⟩ (s.slot.obscured u n).1.line
      (s.slot.obscured u n).1.notices, (s.slot.obscured u n).2) := by
  simp only [reveal, bind_apply, h, hkey, Bool.not_true, Bool.false_eq_true, if_false]
  rfl

theorem reveal_of_ok {key : LogKey} {plain : NewUser} {notices : List Notice} {n₁ : Nonces}
    (h : s.revealEnabled = true) (hkey : s.logKey = some key)
    (hu : u.revealed key.text (s.slot.obscured u n).2 = ((.ok plain, notices), n₁)) :
    s.reveal u n = s.bring 200 "revealed" plain (s.slot.obscured u n).1.line
      ((s.slot.obscured u n).1.notices ++ notices) n₁ := by
  simp only [reveal, bind_apply, h, hkey, hu, Bool.not_true, Bool.false_eq_true, if_false]

theorem reveal_of_error {key : LogKey} {p : Problem} {notices : List Notice} {n₁ : Nonces}
    (h : s.revealEnabled = true) (hkey : s.logKey = some key)
    (hu : u.revealed key.text (s.slot.obscured u n).2 = ((.error p, notices), n₁)) :
    s.reveal u n = (s.tell p (s.slot.obscured u n).1.line
      ((s.slot.obscured u n).1.notices ++ notices), n₁) := by
  simp only [reveal, bind_apply, h, hkey, hu, Bool.not_true, Bool.false_eq_true, if_false]
  rfl

end

/-! ## What comes of one access -/

/-- The service with another directory. -/
def withDirectory (s : Server) (d : Directory) : Server := { s with directory := d }

/-- What `act` does comes of one access to the directory: afterwards the service has the directory as
the access leaves it, with another directory that replies the same it gives the same answer, and the
answer has the status 201 exactly if a user was stored. -/
structure ComesOf (a : Access) (act : Server → StateM Nonces Outcome) : Prop where
  server : ∀ (s : Server) (n : Nonces),
    (act s n).1.server = s.withDirectory (s.directory.access a).2
  response : ∀ (s : Server) (d : Directory) (n : Nonces),
    (d.access a).1 = (s.directory.access a).1 →
      (act (s.withDirectory d) n).1.response = (act s n).1.response
  status : ∀ (s : Server) (n : Nonces),
    (act s n).1.response.status = 201 ↔ ∃ u, a = .insert u

variable {a : Access} {act : Server → StateM Nonces Outcome}

/-- An answer that is given without a look at the directory. -/
theorem comesOf_unchanged {r : Response} (hr : r.status ≠ 201) (notices : List Notice) :
    ComesOf .nothing fun s ↦ return s.unchanged r notices :=
  ⟨fun _ _ ↦ rfl, fun _ _ _ _ ↦ rfl, fun _ _ ↦ ⟨fun h ↦ absurd h hr, nofun⟩⟩

theorem comesOf_create (c : Circumstances) (u : NewUser) :
    ComesOf (u.accessFor c) fun s ↦ s.create c u := by
  rw [NewUser.accessFor]
  cases hproblem : u.problem? with
  | some p =>
    refine ⟨fun s n ↦ ?_, fun s d n _ ↦ ?_, fun s n ↦ ⟨fun h ↦ ?_, nofun⟩⟩
    · rw [create_of_problem hproblem]
      rfl
    · rw [create_of_problem hproblem, create_of_problem hproblem]
      rfl
    · rw [create_of_problem hproblem] at h
      exact absurd h p.status_ne_201
  | none =>
    refine ⟨fun s n ↦ ?_, fun s d n _ ↦ ?_, fun s n ↦ ⟨fun _ ↦ ⟨_, rfl⟩, fun _ ↦ ?_⟩⟩
    · rw [create_of_none hproblem]
      rfl
    · rw [create_of_none hproblem, create_of_none hproblem]
      rfl
    · rw [create_of_none hproblem]
      rfl

theorem comesOf_find (id : String) : ComesOf (.lookup id) fun s ↦ s.find id := by
  refine ⟨fun s n ↦ ?_, fun s d n h ↦ ?_, fun s n ↦ ⟨fun h ↦ ?_, nofun⟩⟩
  · cases hget : s.directory.get? id with
    | none =>
      rw [find_of_none hget]
      rfl
    | some user =>
      rw [find_of_some hget]
      rfl
  · have hsame : (s.withDirectory d).directory.get? id = s.directory.get? id := Reply.found.inj h
    cases hget : s.directory.get? id with
    | none =>
      rw [find_of_none hget, find_of_none (hsame.trans hget)]
      rfl
    | some user =>
      rw [find_of_some hget, find_of_some (hsame.trans hget)]
      rfl
  · cases hget : s.directory.get? id with
    | none =>
      rw [find_of_none hget] at h
      cases h
    | some user =>
      rw [find_of_some hget] at h
      cases h

/-- Whether or not something is revealed, the service stays as it is, and its directory has no part
in the answer. -/
theorem reveal_cases (s : Server) (u : NewUser) (n : Nonces) :
    (∃ p requestLog notices n₁,
      ∀ d, (s.withDirectory d).reveal u n = ((s.withDirectory d).tell p requestLog notices, n₁)) ∨
    ∃ (plain : NewUser) (requestLog : Option String) (notices : List Notice) (n₁ : Nonces),
      ∀ d, (s.withDirectory d).reveal u n =
        (s.withDirectory d).bring 200 "revealed" plain requestLog notices n₁ := by
  cases henabled : s.revealEnabled with
  | false =>
    exact .inl ⟨_, (s.slot.obscured u n).1.line, (s.slot.obscured u n).1.notices,
      (s.slot.obscured u n).2, fun d ↦ reveal_of_disabled (s := s.withDirectory d) henabled⟩
  | true =>
    cases hkey : s.logKey with
    | none =>
      exact .inl ⟨_, (s.slot.obscured u n).1.line, (s.slot.obscured u n).1.notices,
        (s.slot.obscured u n).2, fun d ↦ reveal_of_noKey (s := s.withDirectory d) henabled hkey⟩
    | some key =>
      cases hu : u.revealed key.text (s.slot.obscured u n).2 with
      | mk told n₁ =>
        obtain ⟨p | plain, notices⟩ := told
        · exact .inl ⟨p, (s.slot.obscured u n).1.line, (s.slot.obscured u n).1.notices ++ notices,
            n₁, fun d ↦ reveal_of_error (s := s.withDirectory d) henabled hkey hu⟩
        · exact .inr ⟨plain, (s.slot.obscured u n).1.line,
            (s.slot.obscured u n).1.notices ++ notices, n₁, fun d ↦
            reveal_of_ok (s := s.withDirectory d) henabled hkey hu⟩

theorem comesOf_reveal (u : NewUser) : ComesOf .nothing fun s ↦ s.reveal u := by
  refine ⟨fun s n ↦ ?_, fun s d n _ ↦ ?_, fun s n ↦ ⟨fun h ↦ ?_, nofun⟩⟩
  · rcases reveal_cases s u n with ⟨p, _, _, _, hreveal⟩ | ⟨plain, _, _, _, hreveal⟩
    · exact congrArg (fun o ↦ o.1.server) (hreveal s.directory)
    · exact congrArg (fun o ↦ o.1.server) (hreveal s.directory)
  · rcases reveal_cases s u n with ⟨p, _, _, _, hreveal⟩ | ⟨plain, _, _, _, hreveal⟩
    · rw [hreveal d]
      exact (congrArg (fun o ↦ o.1.response) (hreveal s.directory)).symm
    · rw [hreveal d]
      exact (congrArg (fun o ↦ o.1.response) (hreveal s.directory)).symm
  · rcases reveal_cases s u n with ⟨p, _, _, _, hreveal⟩ | ⟨plain, _, _, _, hreveal⟩
    · exact absurd ((congrArg (fun o ↦ o.1.response.status) (hreveal s.directory)).symm.trans h)
        p.status_ne_201
    · cases (congrArg (fun o ↦ o.1.response.status) (hreveal s.directory)).symm.trans h

theorem comesOf_health : ComesOf .count fun s ↦ return s.unchanged s.health [] := by
  refine ⟨fun _ _ ↦ rfl, fun s d n h ↦ ?_, fun _ _ ↦ ⟨nofun, nofun⟩⟩
  have hsize : d.size = s.directory.size := Reply.counted.inj h
  show (s.withDirectory d).health = s.health
  simp only [health, withDirectory, hsize]

/-! ## Requests -/

theorem comesOf_reading (q : Request) (h : ComesOf a act) :
    ComesOf (if q.reads then a else .nothing) fun s ↦ s.reading q (act s) := by
  by_cases hget : q.method = "GET"
  · simpa only [reading, Request.reads, hget, decide_true, Bool.true_or, if_true] using h
  by_cases hhead : q.method = "HEAD"
  · have hreads : q.reads = true := by simp [Request.reads, hhead]
    simp only [reading, hhead, hreads, if_true]
    refine ⟨h.server, fun s d n hd ↦ ?_, h.status⟩
    exact congrArg Response.withoutBody (h.response s d n hd)
  · have hreads : q.reads = false := by simp [Request.reads, hget, hhead]
    simp only [reading, hget, hhead, hreads, if_false, Bool.false_eq_true]
    exact comesOf_unchanged (by decide) _

theorem comesOf_doing (q : Request) (h : ComesOf a act) :
    ComesOf (if q.method = "POST" then a else .nothing) fun s ↦ s.doing q (act s) := by
  by_cases hpost : q.method = "POST"
  · simpa only [doing, hpost, if_true] using h
  · simp only [doing, hpost, if_false]
    exact comesOf_unchanged (by decide) _

/-- **What a request does comes of the one access that it asks for.** -/
theorem comesOf_handle (c : Circumstances) (q : Request) :
    ComesOf (q.accessFor c) fun s ↦ s.handle c q := by
  rw [Request.accessFor]
  cases hroute : q.route with
  | users =>
    simp only [handle, hroute]
    refine comesOf_doing q ?_
    cases hbody : q.newUser with
    | ok u =>
      simp only [withNewUser, hbody]
      exact comesOf_create c u
    | error e =>
      simp only [withNewUser, hbody]
      exact comesOf_unchanged e.status_ne_201 _
  | reveal =>
    simp only [handle, hroute]
    have hdoing : ComesOf (if q.method = "POST" then .nothing else .nothing) fun s ↦
        s.doing q (s.withNewUser q s.reveal) := by
      refine comesOf_doing q ?_
      cases hbody : q.newUser with
      | ok u =>
        simp only [withNewUser, hbody]
        exact comesOf_reveal u
      | error e =>
        simp only [withNewUser, hbody]
        exact comesOf_unchanged e.status_ne_201 _
    rwa [ite_self] at hdoing
  | user segment =>
    simp only [handle, hroute]
    cases hid : Request.identifier segment with
    | ok id => exact comesOf_reading q (comesOf_find id)
    | error e => exact comesOf_reading q (comesOf_unchanged e.status_ne_201 _)
  | health =>
    simp only [handle, hroute]
    exact comesOf_reading q comesOf_health
  | unknown =>
    simp only [handle, hroute]
    exact comesOf_unchanged (r := { Response.ofProblem _ with requestLog := none }) (by decide) []

/-- So it is when the log is told about the exchange. -/
theorem comesOf_serve (c : Circumstances) (q : Request) :
    ComesOf (q.accessFor c) fun s ↦ s.serve c q :=
  ⟨(comesOf_handle c q).server, fun s d n h ↦
    congrArg (fun r : Response ↦ { r with requestId := c.requestId })
      ((comesOf_handle c q).response s d n h), (comesOf_handle c q).status⟩

end Server

end Shroud.Accounts
