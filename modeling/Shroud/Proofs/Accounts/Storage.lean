import Shroud.Proofs.Accounts.Access

/-!
# The directory over whole runs

A service that starts without users is consistent after any run (`Server.consistent_of_served`): it
has as many users as it gave answers with the status 201, it finds each of these users under the
identifier that was given to them and with the data that was answered then, it finds nobody else,
and whatever is not answered with 201 leaves it as it was.

A run is a list of exchanges, each of which was served after those before it, with whatever nonces.
A user is created exactly where one is stored (`Server.creates_iff`), so the directory holds the
users of these exchanges in order (`Server.server_of_served`), and everything else follows from that.
-/

set_option autoImplicit false

namespace Shroud.Accounts

/-! ## Runs -/

/-- A request and its answer. -/
structure Exchange where
  circumstances : Circumstances
  request : Request
  response : Response

namespace Exchange

/-- A user was created. -/
def creates (e : Exchange) : Bool := e.response.status = 201

/-- The identifier that the user got. -/
def userId (e : Exchange) : String := e.circumstances.userId

/-- The user that the request stores, if it does. -/
def user? (e : Exchange) : Option User :=
  match e.request.accessFor e.circumstances with
  | .insert u => some u
  | _ => none

end Exchange

/-- The exchanges in which users were created. -/
def created (es : List Exchange) : List Exchange := es.filter Exchange.creates

/-- The users that the exchanges store. -/
def stored (es : List Exchange) : List User := es.filterMap Exchange.user?

/-- The service `s` comes of `s₀` by the exchanges, one after another, whatever nonces are drawn. -/
inductive Served (s₀ : Server) : List Exchange → Server → Prop where
  | nil : Served s₀ [] s₀
  | snoc {es : List Exchange} {s : Server} (h : Served s₀ es s) (c : Circumstances) (q : Request)
      (n : Nonces) :
      Served s₀ (es ++ [⟨c, q, (s.serve c q n).1.response⟩]) (s.serve c q n).1.server

/-! ## Requests and answers -/

/-- The body of an answer that brings data. -/
def answerText (status : Nat) (message : String) (data : Json) : String :=
  Json.print (.map [("code", .number (.int status)), ("message", .text message), ("data", data)])

/-- The body of an answer about the service. -/
def healthText (keyInstalled : Bool) (users : Nat) : String :=
  Json.print (.map [("status", .text "ok"), ("log_key_installed", .bool keyInstalled),
    ("users", .number (.int users))])

namespace Request

/-- The request asks for the user with an identifier: what follows `/users/` in its path is the
identifier, with bytes written as `%` and two digits where one likes. -/
def AsksFor (q : Request) (id : String) : Prop :=
  q.method = "GET" ∧ ∃ segment : List Char, q.target.path = "/users/".toList ++ segment ∧
    segment ≠ [] ∧ '/' ∉ segment ∧ segment ≠ "reveal".toList ∧ identifier segment = .ok id

/-- The request asks how the service is. -/
def AsksForHealth (q : Request) : Prop := q.method = "GET" ∧ q.target.path = "/health".toList

end Request

theorem Route.ofPath_user {segment : List Char} (hne : segment ≠ []) (hslash : '/' ∉ segment)
    (hreveal : segment ≠ "reveal".toList) :
    Route.ofPath ("/users/".toList ++ segment) = .user segment := by
  have hword : ∀ c ∈ "users".toList, (c == '/') = false := by
    intro c hc
    have hall : ("users".toList.all fun c ↦ c != '/') = true := by decide
    have hne := List.all_eq_true.mp hall c hc
    simpa using hne
  have hsplit : ("/users/".toList ++ segment).splitOn '/' = [[], "users".toList, segment] := by
    have hpath : "/users/".toList ++ segment = [] ++ '/' :: ("users".toList ++ '/' :: segment) :=
      rfl
    rw [hpath, List.splitOn, List.splitOnP_append_cons_of_forall_mem nofun _ (by decide),
      List.splitOnP_append_cons_of_forall_mem hword _ (by decide)]
    exact congrArg ([] :: "users".toList :: ·) (List.splitOn_eq_singleton hslash)
  rw [ofPath, hsplit]
  simp only [ne_eq, not_true_eq_false, false_or, List.isEmpty_iff, hne, hreveal, if_false]

namespace Directory

theorem insertUser_of_fresh {u : User} {us : List User} (h : ∀ v ∈ us, v.id ≠ u.id) :
    insertUser u us = us ++ [u] := by
  induction us with
  | nil => rfl
  | cons v us ih =>
    rw [insertUser, if_neg (h v List.mem_cons_self),
      ih fun w hw ↦ h w (List.mem_cons_of_mem _ hw), List.cons_append]

/-- A user with an identifier of their own is put behind the others. -/
theorem insert_of_fresh {u : User} {us : List User} (h : ∀ v ∈ us, v.id ≠ u.id) :
    insert ⟨us⟩ u = ⟨us ++ [u]⟩ :=
  congrArg mk (insertUser_of_fresh h)

end Directory

namespace Server

variable {s₀ s : Server} {es : List Exchange}

/-! ## Single requests -/

/-- A request that stores a user brings a new user in whom there is no problem. -/
theorem exists_of_insert {q : Request} {c : Circumstances} {user : User}
    (h : q.accessFor c = .insert user) :
    ∃ u : NewUser, q.route = .users ∧ q.method = "POST" ∧ q.newUser = .ok u ∧ u.problem? = none ∧
      user = User.ofNewUser c.userId u c.now := by
  rw [Request.accessFor] at h
  cases hroute : q.route with
  | users =>
    rw [hroute] at h
    by_cases hpost : q.method = "POST"
    · rw [if_pos hpost] at h
      cases hbody : q.newUser with
      | error e =>
        rw [hbody] at h
        cases h
      | ok u =>
        rw [hbody] at h
        cases hproblem : u.problem? with
        | some p =>
          simp only [NewUser.accessFor, hproblem] at h
          cases h
        | none =>
          simp only [NewUser.accessFor, hproblem] at h
          exact ⟨u, rfl, hpost, rfl, hproblem, (Access.insert.inj h).symm⟩
    · rw [if_neg hpost] at h
      cases h
  | reveal =>
    rw [hroute] at h
    cases h
  | unknown =>
    rw [hroute] at h
    cases h
  | user segment =>
    rw [hroute] at h
    dsimp only at h
    split at h
    · cases hid : Request.identifier segment with
      | ok id =>
        rw [hid] at h
        cases h
      | error e =>
        rw [hid] at h
        cases h
    · cases h
  | health =>
    rw [hroute] at h
    dsimp only at h
    split at h <;> cases h

/-- The answer to a request that stores a user brings this user. -/
theorem body_of_insert {q : Request} {c : Circumstances} {user : User}
    (h : q.accessFor c = .insert user) (s : Server) (n : Nonces) :
    (s.serve c q n).1.response.body = answerText 201 "user created" user.json := by
  obtain ⟨u, hroute, hmethod, hbody, hproblem, rfl⟩ := exists_of_insert h
  show (s.handle c q n).1.response.body = _
  rw [handle_users hroute hmethod hbody, create_of_none hproblem]
  exact body_ofData (User.ordered?_document _)

theorem handle_of_asksFor {q : Request} {id : String} (h : q.AsksFor id) (s : Server)
    (c : Circumstances) : s.handle c q = s.find id := by
  obtain ⟨hmethod, segment, hpath, hne, hslash, hreveal, hid⟩ := h
  have hroute : q.route = .user segment := by
    rw [Request.route, hpath, Route.ofPath_user hne hslash hreveal]
  simp only [handle, hroute, reading, hmethod, if_true, hid]

/-- Who is in the directory is brought. -/
theorem response_of_found {q : Request} {id : String} (h : q.AsksFor id) {user : User}
    (hget : s.directory.get? id = some user) (c : Circumstances) (n : Nonces) :
    (s.serve c q n).1.response.status = 200 ∧
      (s.serve c q n).1.response.body = answerText 200 "ok" user.json := by
  show (s.handle c q n).1.response.status = 200 ∧ (s.handle c q n).1.response.body = _
  rw [handle_of_asksFor h, find_of_some hget]
  exact ⟨rfl, body_ofData user.ordered?_document⟩

/-- Who is not in the directory is not found. -/
theorem response_of_missing {q : Request} {id : String} (h : q.AsksFor id)
    (hget : s.directory.get? id = none) (c : Circumstances) (n : Nonces) :
    (s.serve c q n).1.response.status = 404 := by
  show (s.handle c q n).1.response.status = 404
  rw [handle_of_asksFor h, find_of_none hget]
  rfl

theorem response_of_health {q : Request} (h : q.AsksForHealth) (s : Server) (c : Circumstances)
    (n : Nonces) :
    (s.serve c q n).1.response.status = 200 ∧
      (s.serve c q n).1.response.body = healthText s.logKey.isSome s.directory.size := by
  obtain ⟨hmethod, hpath⟩ := h
  have hroute : q.route = .health := by rw [Request.route, hpath]; decide
  have hhandle : s.handle c q = return s.unchanged s.health [] := by
    simp only [handle, hroute, reading, hmethod, if_true]
  show (s.handle c q n).1.response.status = 200 ∧ (s.handle c q n).1.response.body = _
  rw [hhandle]
  exact ⟨rfl, rfl⟩

/-! ## Runs -/

/-- Each exchange of a run was served by some service that the run had come to. -/
theorem exists_of_served (h : Served s₀ es s) {before after : List Exchange} {e : Exchange}
    (hes : es = before ++ e :: after) :
    ∃ s₁ n, Served s₀ before s₁ ∧
      e.response = (s₁.serve e.circumstances e.request n).1.response := by
  induction h generalizing after with
  | nil => simp at hes
  | @snoc es s h c q n ih =>
    rcases List.eq_nil_or_concat after with rfl | ⟨after, last, rfl⟩
    · obtain ⟨rfl, hlast⟩ := List.append_inj' hes rfl
      obtain rfl := List.singleton_inj.mp hlast
      exact ⟨s, n, h, rfl⟩
    · rw [List.concat_eq_append, ← List.cons_append, ← List.append_assoc] at hes
      exact ih (List.append_inj' hes rfl).1

/-- A user is created exactly where one is stored. -/
theorem creates_iff {e : Exchange} {n : Nonces}
    (h : e.response = (s.serve e.circumstances e.request n).1.response) :
    e.creates = e.user?.isSome := by
  have hstatus := (comesOf_serve e.circumstances e.request).status s n
  rw [← h] at hstatus
  rw [Exchange.creates, Exchange.user?]
  cases haccess : e.request.accessFor e.circumstances with
  | insert u => simp [hstatus, haccess]
  | nothing => simp [hstatus, haccess]
  | lookup id => simp [hstatus, haccess]
  | count => simp [hstatus, haccess]

theorem creates_of_served (h : Served s₀ es s) {e : Exchange} (he : e ∈ es) :
    e.creates = e.user?.isSome := by
  obtain ⟨before, after, hes⟩ := List.append_of_mem he
  obtain ⟨s₁, n, -, hresponse⟩ := exists_of_served h hes
  exact creates_iff hresponse

theorem accessFor_of_user? {e : Exchange} {user : User} (h : e.user? = some user) :
    e.request.accessFor e.circumstances = .insert user := by
  rw [Exchange.user?] at h
  cases haccess : e.request.accessFor e.circumstances with
  | insert u =>
    rw [haccess] at h
    rw [Option.some.inj h]
  | nothing => simp [haccess] at h
  | lookup id => simp [haccess] at h
  | count => simp [haccess] at h

theorem id_of_user? {e : Exchange} {user : User} (h : e.user? = some user) :
    user.id = e.userId := by
  obtain ⟨-, -, -, -, -, rfl⟩ := exists_of_insert (accessFor_of_user? h)
  rfl

/-- The users who were stored have the identifiers that were given to the users created. -/
theorem ids_stored (h : ∀ e ∈ es, e.creates = e.user?.isSome) :
    (stored es).map User.id = (created es).map Exchange.userId := by
  induction es with
  | nil => rfl
  | cons e es ih =>
    have ih := ih fun e he ↦ h e (List.mem_cons_of_mem _ he)
    have he := h e List.mem_cons_self
    rw [stored, created] at ih ⊢
    cases huser : e.user? with
    | none => rw [List.filterMap_cons_none huser, List.filter_cons_of_neg (by simp [he, huser]), ih]
    | some user =>
      rw [List.filterMap_cons_some huser, List.filter_cons_of_pos (by simp [he, huser]),
        List.map_cons, List.map_cons, ih, id_of_user? huser]

theorem stored_snoc (es : List Exchange) (e : Exchange) :
    stored (es ++ [e]) = stored es ++ e.user?.toList := by
  rw [stored, List.filterMap_append]
  cases huser : e.user? with
  | none => rw [List.filterMap_cons_none huser]; rfl
  | some user => rw [List.filterMap_cons_some huser]; rfl

/-- The step: a directory of the users that were stored holds them and the user of the next request
after it, if the identifier is a new one. -/
theorem directory_access {e : Exchange} (hfresh : ((stored (es ++ [e])).map User.id).Nodup) :
    (Directory.access ⟨stored es⟩ (e.request.accessFor e.circumstances)).2 =
      ⟨stored (es ++ [e])⟩ := by
  rw [stored_snoc] at hfresh ⊢
  rw [Exchange.user?] at hfresh ⊢
  cases haccess : e.request.accessFor e.circumstances with
  | insert user =>
    rw [haccess, List.map_append, List.nodup_append] at hfresh
    exact Directory.insert_of_fresh fun v hv ↦
      hfresh.2.2 _ (List.mem_map_of_mem hv) _ List.mem_cons_self
  | nothing => rw [Option.toList_none, List.append_nil]; rfl
  | lookup id => rw [Option.toList_none, List.append_nil]; rfl
  | count => rw [Option.toList_none, List.append_nil]; rfl

/-- **What a run leaves.**  When no identifier is given twice, the directory holds the users that
were stored, and nothing else of the service has changed. -/
theorem server_of_served (hempty : s₀.directory = .empty) (h : Served s₀ es s)
    (hids : ((stored es).map User.id).Nodup) : s = s₀.withDirectory ⟨stored es⟩ := by
  induction h with
  | nil => rw [withDirectory, stored, List.filterMap_nil, ← Directory.empty, ← hempty]
  | @snoc es s h c q n ih =>
    have hbefore : ((stored es).map User.id).Nodup := by
      rw [stored_snoc, List.map_append] at hids
      exact (List.nodup_append.mp hids).1
    rw [(comesOf_serve c q).server, ← directory_access hids]
    rw [ih hbefore]
    rfl

/-! ## Consistency -/

/-- The service has kept what was created in a run, and nothing else. -/
structure Consistent (es : List Exchange) (s : Server) : Prop where
  /-- There are as many users as were created. -/
  size : s.directory.size = (created es).length
  /-- This is the number that the service tells. -/
  health : ∀ (q : Request) (c : Circumstances) (n : Nonces), q.AsksForHealth →
    (s.serve c q n).1.response.status = 200 ∧
      (s.serve c q n).1.response.body = healthText s.logKey.isSome (created es).length
  /-- Each user who was created is found with the data that was answered then, which are those of
  the request. -/
  found : ∀ e ∈ created es, ∃ u : NewUser, e.request.newUser = .ok u ∧
    e.response.body = answerText 201 "user created"
      (User.ofNewUser e.userId u e.circumstances.now).json ∧
    ∀ (q : Request) (c : Circumstances) (n : Nonces), q.AsksFor e.userId →
      (s.serve c q n).1.response.status = 200 ∧
        (s.serve c q n).1.response.body = answerText 200 "ok"
          (User.ofNewUser e.userId u e.circumstances.now).json
  /-- Nobody else is found. -/
  missing : ∀ (id : String) (q : Request) (c : Circumstances) (n : Nonces),
    id ∉ (created es).map Exchange.userId → q.AsksFor id →
    (s.serve c q n).1.response.status = 404
  /-- What creates no user changes nothing. -/
  unchanged : ∀ (q : Request) (c : Circumstances) (n : Nonces),
    (s.serve c q n).1.response.status ≠ 201 → (s.serve c q n).1.server = s

theorem get?_of_nodup {users : List User} (hids : (users.map User.id).Nodup) {user : User}
    (h : user ∈ users) : Directory.get? ⟨users⟩ user.id = some user := by
  induction users with
  | nil => nomatch h
  | cons v users ih =>
    rw [List.map_cons, List.nodup_cons] at hids
    rw [Directory.get?, List.find?_cons]
    rcases List.mem_cons.mp h with rfl | h
    · simp
    · have hne : v.id ≠ user.id := fun heq ↦ hids.1 (heq ▸ List.mem_map_of_mem h)
      rw [decide_eq_false hne]
      exact ih hids.2 h

theorem server_of_status (s : Server) (c : Circumstances) (q : Request) (n : Nonces)
    (h : (s.serve c q n).1.response.status ≠ 201) : (s.serve c q n).1.server = s := by
  rw [(comesOf_serve c q).server]
  rw [ne_eq, (comesOf_serve c q).status] at h
  cases haccess : q.accessFor c with
  | insert user => exact absurd ⟨user, haccess⟩ h
  | nothing => rfl
  | lookup id => rfl
  | count => rfl

/-- **A service that starts without users is consistent after any run** in which no identifier is
given to two of the users. -/
theorem consistent_of_served (hempty : s₀.directory = .empty) (h : Served s₀ es s)
    (hids : ((created es).map Exchange.userId).Nodup) : Consistent es s := by
  have hstored := ids_stored fun e he ↦ creates_of_served h he
  have hserver := server_of_served hempty h (hstored ▸ hids)
  have hdirectory : s.directory = ⟨stored es⟩ := by rw [hserver]; rfl
  have hsize : s.directory.size = (created es).length := by
    have hlength := congrArg List.length hstored
    rw [List.length_map, List.length_map] at hlength
    rw [hdirectory]
    exact hlength
  refine ⟨hsize, fun q c n hq ↦ ?_, fun e he ↦ ?_, fun id q c n hid hq ↦ ?_, fun q c n ↦
    server_of_status s c q n⟩
  · rw [← hsize]
    exact response_of_health hq s c n
  · obtain ⟨he, hcreates⟩ := List.mem_filter.mp he
    obtain ⟨before, after, hes⟩ := List.append_of_mem he
    obtain ⟨s₁, n₁, -, hresponse⟩ := exists_of_served h hes
    rw [creates_iff hresponse] at hcreates
    obtain ⟨user, huser⟩ := Option.isSome_iff_exists.mp hcreates
    have hinsert := accessFor_of_user? huser
    obtain ⟨u, -, -, hbody, -, hu⟩ := exists_of_insert hinsert
    change user = User.ofNewUser e.userId u e.circumstances.now at hu
    refine ⟨u, hbody, ?_⟩
    rw [← hu]
    refine ⟨hresponse ▸ body_of_insert hinsert s₁ n₁, fun q c n hq ↦ ?_⟩
    have hget : s.directory.get? e.userId = some user := by
      rw [hdirectory, ← id_of_user? huser]
      exact get?_of_nodup (hstored ▸ hids) (List.mem_filterMap.mpr ⟨e, he, huser⟩)
    exact response_of_found hq hget c n
  · have hget : s.directory.get? id = none := by
      rw [hdirectory, Directory.get?, List.find?_eq_none]
      intro user hmem heq
      refine hid ?_
      rw [← hstored]
      exact List.mem_map.mpr ⟨user, hmem, of_decide_eq_true heq⟩
    exact response_of_missing hq hget c n

/-! ## Requests that create and find a user -/

/-- A new user posted as JSON. -/
theorem newUser_posting {u : NewUser} (target : String) (hsize : 24 * u.size + 480 ≤ bodyLimit) :
    (posting target (Json.print u.json)).newUser = .ok u :=
  Request.newUser_of_body (isJson_posting _ _) rfl (Nat.le_trans u.length_utf8_print_le hsize)

/-- A new user in whom there is no problem is stored. -/
theorem accessFor_posting {u : NewUser} (hproblem : u.problem? = none)
    (hsize : 24 * u.size + 480 ≤ bodyLimit) (c : Circumstances) :
    (posting "/users" (Json.print u.json)).accessFor c =
      .insert (User.ofNewUser c.userId u c.now) := by
  have hroute : (posting "/users" (Json.print u.json)).route = .users := by
    have hpath : Route.ofPath (Target.parse "/users").path = .users := by decide
    exact hpath
  have hmethod : (posting "/users" (Json.print u.json)).method = "POST" := rfl
  rw [Request.accessFor, hroute, newUser_posting "/users" hsize]
  simp only [hmethod, if_true, NewUser.accessFor, hproblem]

/-- A request without a body. -/
def getting (target : String) : Request := ⟨"GET", .parse target, [], []⟩

/-- A new user in whom there is no problem. -/
def ada : NewUser := ⟨"Ada", "ada@x.org", "pass", none, some ⟨"Road 1", "London", "0"⟩⟩

end Server

end Shroud.Accounts
