import Shroud.Accounts.Exchange
import Shroud.Proofs.Accounts.Reveal

/-!
# The notice about an exchange

`Server.exchange_truthful` is the main statement: whatever is asked, and whatever the layers around
the service tell, the log is told about the exchange once, after everything else that the program
tells, and what it is told is true of the request and the answer.  The one exception is a request
whose body is waited for and does not come.

Whatever the route, the method and the body are, one of a few things is done (`Server.Does`): a new
user is stored or revealed, a user is looked up, for an answer with a body or for one without, or an
answer is given that has nothing to do with a user.  The line for a new user or for a user is there
exactly if the log has a key (`KeySlot.LineOf`), and the rest is a look at each of these things.
-/

set_option autoImplicit false

namespace Shroud

/-! ## Lines -/

namespace KeySlot

variable {α : Type} [HasRoot α] [HasDocument α]

/-- The line is an obscured form of a value: the text of what the value is encrypted to. -/
def Obscures (slot : KeySlot) (x : α) (line : String) : Prop :=
  ∃ hidden n n₁, Concealer.standard.encrypt x slot.current n = .ok hidden n₁ ∧
    logText hidden = .ok line

/-- What is told of a value is a line, if the log has a key, and nothing else. -/
structure LineOf (slot : KeySlot) (x : α) (o : Obscured) : Prop where
  notices : o.notices = []
  ne_empty_iff : o.line.getD "" ≠ "" ↔ slot.current ≠ ""
  obscures : slot.current ≠ "" → slot.Obscures x (o.line.getD "")

/-- A value that can be encrypted has a line, if what comes of it has a text. -/
theorem lineOf_obscured {slot : KeySlot} {x : α}
    (hencrypt : slot.current ≠ "" → ∀ n, ∃ hidden n₁,
      Concealer.standard.encrypt x slot.current n = .ok hidden n₁)
    (htext : ∀ y : α, ∃ line, logText y = .ok line ∧ line ≠ "") (n : Nonces) :
    slot.LineOf x (slot.obscured x n).1 := by
  by_cases hkey : slot.current = ""
  · have hobscured : slot.obscured x n = (⟨none, []⟩, n) := by
      rw [obscured, Concealer.obscured, if_pos (String.isEmpty_iff.mpr hkey)]
    rw [hobscured]
    exact ⟨rfl, iff_of_false (not_not_intro rfl) (not_not_intro hkey), absurd hkey⟩
  · obtain ⟨hidden, n₁, hhidden⟩ := hencrypt hkey n
    obtain ⟨line, hline, hne⟩ := htext hidden
    have hobscured : slot.obscured x n = (⟨some line, []⟩, n₁) := by
      rw [obscured, Concealer.obscured, if_neg (mt String.isEmpty_iff.mp hkey), hhidden]
      simp only [Obscured.ofHidden, hline]
    rw [hobscured]
    exact ⟨rfl, iff_of_true hne hkey, fun _ ↦ ⟨hidden, n, n₁, hhidden, hline⟩⟩

end KeySlot

theorem Json.print_map_ne_empty (entries : List (String × Json)) : print (.map entries) ≠ "" := by
  intro h
  have hlength := congrArg String.length h
  rw [print, String.length_append, String.length_append] at hlength
  have hbrace : ("\x7b" : String).length = 1 := rfl
  rw [hbrace, String.length_empty] at hlength
  omega

namespace Accounts

theorem User.exists_encrypt {key : String} (hkey : key ≠ "") (u : User) (n : Nonces) :
    ∃ hidden n₁, Concealer.standard.encrypt u key n = .ok hidden n₁ := by
  refine Concealer.exists_encrypt hkey (fun e he ↦ ?_) n
  rw [u.events_root] at he
  obtain ⟨⟨path, t⟩, -, rfl⟩ := List.mem_map.mp he
  exact ⟨path, t, rfl⟩

theorem NewUser.lineOf (slot : KeySlot) (u : NewUser) (n : Nonces) :
    slot.LineOf u (slot.obscured u n).1 :=
  KeySlot.lineOf_obscured (fun hkey ↦ exists_encrypt hkey u)
    (fun v ↦ ⟨_, v.logText_eq, Json.print_map_ne_empty _⟩) n

theorem User.lineOf (slot : KeySlot) (u : User) (n : Nonces) :
    slot.LineOf u (slot.obscured u n).1 :=
  KeySlot.lineOf_obscured (fun hkey ↦ exists_encrypt hkey u)
    (fun v ↦ ⟨_, v.logText_eq, Json.print_map_ne_empty _⟩) n

/-! ## Problems -/

theorem Problem.status_ne_200 (p : Problem) : p.status ≠ 200 := by
  obtain ⟨kind, message⟩ := p
  cases kind <;> simp [status]

theorem Problem.status_ne_503 {p : Problem} (h : p.kind ≠ .unavailable) : p.status ≠ 503 := by
  obtain ⟨kind, message⟩ := p
  cases kind <;> simp_all [status]

theorem NewUser.kind_of_problem? {u : NewUser} {p : Problem} (h : u.problem? = some p) :
    p.kind = .badRequest := by
  rw [problem?] at h
  repeat' split at h
  all_goals cases h
  all_goals rfl

theorem NewUser.of_revealed_ok {u plain : NewUser} {key : String} {notices : List Notice}
    {n n₁ : Nonces} (h : u.revealed key n = ((.ok plain, notices), n₁)) : notices = [] := by
  rw [revealed] at h
  split at h
  case h_1 =>
    cases h
    rfl
  case h_2 => cases h

theorem NewUser.of_revealed_error {u : NewUser} {key : String} {p : Problem}
    {notices : List Notice} {n n₁ : Nonces} (h : u.revealed key n = ((.error p, notices), n₁)) :
    p.kind ≠ .unavailable ∧ ∃ f : Failure CipherError, notices = f.notices ++ [revealFailed f] := by
  rw [revealed] at h
  split at h
  case h_1 => cases h
  case h_2 f _ _ =>
    cases h
    refine ⟨?_, f, rfl⟩
    intro hkind
    cases f <;> cases hkind

/-! ## What is done -/

/-- A new user is posted, to be stored or to be revealed. -/
structure Request.Posts (q : Request) (u : NewUser) : Prop where
  route : q.route = .users ∨ q.route = .reveal
  method : q.method = "POST"
  body : q.newUser = .ok u

/-- New users are posted to two routes only. -/
def Route.takesNewUser : Route → Bool
  | .users => true
  | .reveal => true
  | _ => false

theorem Request.not_posts {q : Request} {r : Route} (hroute : q.route = r)
    (hr : r.takesNewUser = false) : ¬ ∃ u, q.Posts u := by
  rintro ⟨u, hu⟩
  rw [← hroute] at hr
  rcases hu.route with h | h
  all_goals
    rw [h] at hr
    cases hr

theorem Request.not_posts_of_method {q : Request} (h : q.method ≠ "POST") : ¬ ∃ u, q.Posts u := by
  rintro ⟨u, hu⟩
  exact h hu.method

/-- The request with `GET` in the place of `HEAD`: what is asked for is the same, with a body. -/
def Request.forBody (q : Request) : Request :=
  if q.method = "HEAD" then { q with method := "GET" } else q

/-- An answer with the status tells that a user was stored, found or revealed. -/
def Request.Succeeds (q : Request) (status : Nat) : Prop :=
  match q.route with
  | .users => status = 201
  | .reveal => status = 200
  | .user _ => status = 200
  | .health => False
  | .unknown => False

/-- The answer has nothing to do with a user. -/
structure Response.Aside (r : Response) (q : Request) : Prop where
  posts : ¬ ∃ u, q.Posts u
  succeeds : ¬ q.Succeeds r.status
  requestLog : r.requestLog = none
  responseLog : r.responseLog = none
  status : r.status ≠ 503

/-- An answer with another status has not succeeded. -/
theorem Request.not_succeeds {q : Request} {status : Nat} (h₂₀₀ : status ≠ 200)
    (h₂₀₁ : status ≠ 201) : ¬ q.Succeeds status := by
  rw [Succeeds]
  cases q.route with
  | users => exact h₂₀₁
  | reveal => exact h₂₀₀
  | user segment => exact h₂₀₀
  | health => exact id
  | unknown => exact id

theorem Response.aside_ofRejection {q : Request} (h : ¬ ∃ u, q.Posts u) (e : Rejection) :
    (ofRejection e).Aside q := by
  have hstatus : e.status ≠ 200 ∧ e.status ≠ 503 := by cases e <;> simp [Rejection.status]
  exact ⟨h, Request.not_succeeds hstatus.1 e.status_ne_201, rfl, rfl, hstatus.2⟩

theorem Response.aside_wrongMethod {q : Request} (h : ¬ ∃ u, q.Posts u) (allowed : String) :
    (wrongMethod allowed).Aside q :=
  ⟨h, Request.not_succeeds nofun nofun, rfl, rfl, nofun⟩

theorem Response.Aside.withoutBody {q : Request} {r : Response} (h : r.Aside q) :
    r.withoutBody.Aside q :=
  ⟨h.posts, h.succeeds, h.requestLog, h.responseLog, h.status⟩

namespace Server

/-- What may be done when the request `q` is handled. -/
inductive Does (s : Server) (c : Circumstances) (q : Request) (n : Nonces) : Outcome → Prop where
  | create {u : NewUser} (hroute : q.route = .users) (hmethod : q.method = "POST")
      (hbody : q.newUser = .ok u) : Does s c q n (s.create c u n).1
  | reveal {u : NewUser} (h : q.AsksToReveal u) : Does s c q n (s.reveal u n).1
  | find {segment : List Char} {id : String} (hroute : q.route = .user segment)
      (hid : Request.identifier segment = .ok id) (hmethod : q.method = "GET") :
      Does s c q n (s.find id n).1
  /-- A user is looked up, but not brought. -/
  | findOnly {segment : List Char} {id : String} (hroute : q.route = .user segment)
      (hid : Request.identifier segment = .ok id) (hmethod : q.method = "HEAD") :
      Does s c q n { (s.find id n).1 with response := (s.find id n).1.response.withoutBody }
  | other {r : Response} (h : r.Aside q) : Does s c q n (s.unchanged r [])

variable {s : Server} {c : Circumstances} {q : Request} {n : Nonces}

/-! ### Routes and methods -/

theorem does_doing (hroute : q.route = .users ∨ q.route = .reveal)
    {act : NewUser → StateM Nonces Outcome}
    (hact : ∀ u, q.Posts u → s.Does c q n (act u n).1) :
    s.Does c q n (s.doing q (s.withNewUser q act) n).1 := by
  by_cases hmethod : q.method = "POST"
  · rw [doing, if_pos hmethod, withNewUser]
    cases hbody : q.newUser with
    | ok u => exact hact u ⟨hroute, hmethod, hbody⟩
    | error e =>
      refine .other (Response.aside_ofRejection ?_ e)
      rintro ⟨u, hu⟩
      rw [hu.body] at hbody
      cases hbody
  · rw [doing, if_neg hmethod]
    exact .other (Response.aside_wrongMethod (Request.not_posts_of_method hmethod) _)

theorem does_reading (hposts : ¬ ∃ u, q.Posts u) {act : StateM Nonces Outcome}
    (hget : q.method = "GET" → s.Does c q n (act n).1)
    (hhead : q.method = "HEAD" →
      s.Does c q n { (act n).1 with response := (act n).1.response.withoutBody }) :
    s.Does c q n (s.reading q act n).1 := by
  by_cases hmethod : q.method = "GET"
  · rw [reading, if_pos hmethod]
    exact hget hmethod
  by_cases hmethod' : q.method = "HEAD"
  · rw [reading, if_neg hmethod, if_pos hmethod']
    exact hhead hmethod'
  · rw [reading, if_neg hmethod, if_neg hmethod']
    exact .other (Response.aside_wrongMethod hposts _)

/-- **Whatever is asked, one of these things is done.** -/
theorem does_handle (s : Server) (c : Circumstances) (q : Request) (n : Nonces) :
    s.Does c q n (s.handle c q n).1 := by
  rw [handle]
  cases hroute : q.route with
  | users =>
    exact does_doing (.inl hroute) fun u hu ↦ .create hroute hu.method hu.body
  | reveal =>
    exact does_doing (.inr hroute) fun u hu ↦ .reveal ⟨hroute, hu.method, hu.body⟩
  | user segment =>
    have hposts := Request.not_posts hroute rfl
    dsimp only
    cases hid : Request.identifier segment with
    | ok id => exact does_reading hposts (.find hroute hid) (.findOnly hroute hid)
    | error e =>
      have haside := Response.aside_ofRejection hposts e
      exact does_reading hposts (fun _ ↦ .other haside) fun _ ↦ .other haside.withoutBody
  | health =>
    have hposts := Request.not_posts hroute rfl
    have hstatus : s.health.status ≠ 503 := by
      show 200 ≠ 503
      decide
    have haside : s.health.Aside q :=
      ⟨hposts, by rw [Request.Succeeds, hroute]; exact id, rfl, rfl, hstatus⟩
    exact does_reading hposts (fun _ ↦ .other haside) fun _ ↦ .other haside.withoutBody
  | unknown =>
    have hposts := Request.not_posts hroute rfl
    exact .other ⟨hposts, by rw [Request.Succeeds, hroute]; exact id, rfl, rfl, by decide⟩

/-- That there is no key to reveal with is told only if something may be revealed. -/
theorem status_serve_ne_503 (h : s.revealEnabled = true → s.logKey ≠ none) (c : Circumstances)
    (q : Request) (n : Nonces) : (s.serve c q n).1.response.status ≠ 503 := by
  show (s.handle c q n).1.response.status ≠ 503
  have hfind (id : String) : (s.find id n).1.response.status ≠ 503 := by
    cases hget : s.directory.get? id with
    | none =>
      rw [find_of_none hget]
      nofun
    | some user =>
      rw [find_of_some hget]
      nofun
  have hdoes := does_handle s c q n
  generalize (s.handle c q n).1 = o at hdoes ⊢
  cases hdoes with
  | @create u =>
    cases hproblem : u.problem? with
    | some p =>
      rw [create_of_problem hproblem]
      exact Problem.status_ne_503 (by rw [NewUser.kind_of_problem? hproblem]; nofun)
    | none =>
      rw [create_of_none hproblem]
      nofun
  | @reveal u =>
    cases henabled : s.revealEnabled with
    | false =>
      rw [reveal_of_disabled henabled]
      nofun
    | true =>
      obtain ⟨key, hkey⟩ := Option.ne_none_iff_exists'.mp (h henabled)
      rcases hu : u.revealed key.text (s.slot.obscured u n).2 with ⟨⟨p | plain, notices⟩, n₁⟩
      · rw [reveal_of_error henabled hkey hu]
        exact Problem.status_ne_503 (NewUser.of_revealed_error hu).1
      · rw [reveal_of_ok henabled hkey hu]
        nofun
  | find => exact hfind _
  | findOnly => exact hfind _
  | other h => exact h.status

/-! ## What is told -/

/-- The notice is not the one that tells about the exchange. -/
def IsEarlier (x : Notice) : Prop := x.message ≠ "request completed"

/-- The line brings the data of a body: the body tells the status and a message and brings a user,
or a new user, and the line is an obscured form of whom it brings. -/
def BringsData (slot : KeySlot) (status : Nat) (body line : String) : Prop :=
  ∃ message : String,
    (∃ u : User, body = answerText status message u.json ∧ slot.Obscures u line) ∨
    ∃ u : NewUser, body = answerText status message u.json ∧ slot.Obscures u line

/-- What comes of an action: what is told before the notice about the exchange, and the two lines of
that notice.  The second one is there exactly if the log has a key and the answer has the status of
a success, and then it brings the data of the answer. -/
structure Told (slot : KeySlot) (success : Nat) (line : String) (o : Outcome) : Prop where
  earlier : ∀ x ∈ o.notices, IsEarlier x
  request : o.response.requestLog.getD "" = line
  response_iff : o.response.responseLog.getD "" ≠ "" ↔
    slot.current ≠ "" ∧ o.response.status = success
  brings : o.response.responseLog.getD "" ≠ "" →
    BringsData slot success o.response.body (o.response.responseLog.getD "")

section

variable {success : Nat} (line : Option String) {notices : List Notice}

theorem told_tell {slot : KeySlot} {p : Problem} (hp : p.status ≠ success)
    (h : ∀ x ∈ notices, IsEarlier x) :
    Told slot success (line.getD "") (s.tell p line notices) :=
  ⟨h, rfl, iff_of_false (not_not_intro rfl) fun h ↦ hp h.2, fun h ↦ absurd rfl h⟩

theorem told_bring {α : Type} [HasRoot α] [HasDocument α] {x : α} {message : String}
    (hx : s.slot.LineOf x (s.slot.obscured x n).1)
    (hbody : ∀ text, s.slot.Obscures x text →
      BringsData s.slot success (Response.ofData success message x).body text)
    (h : ∀ x ∈ notices, IsEarlier x) :
    Told s.slot success (line.getD "") (s.bring success message x line notices n).1 := by
  have hearlier : ∀ y ∈ notices ++ (s.slot.obscured x n).1.notices, IsEarlier y := by
    rw [hx.notices, List.append_nil]
    exact h
  exact ⟨hearlier, rfl, hx.ne_empty_iff.trans (and_iff_left rfl).symm,
    fun hne ↦ hbody _ (hx.obscures (hx.ne_empty_iff.mp hne))⟩

theorem told_bring_user {user : User} {message : String} (h : ∀ x ∈ notices, IsEarlier x) :
    Told s.slot success (line.getD "") (s.bring success message user line notices n).1 :=
  told_bring line (user.lineOf s.slot n)
    (fun _ htext ↦ ⟨message, .inl ⟨user, body_ofData user.ordered?_document, htext⟩⟩) h

theorem told_bring_newUser {u : NewUser} {message : String} (h : ∀ x ∈ notices, IsEarlier x) :
    Told s.slot success (line.getD "") (s.bring success message u line notices n).1 :=
  told_bring line (u.lineOf s.slot n)
    (fun _ htext ↦ ⟨message, .inr ⟨u, body_ofData u.ordered?_document, htext⟩⟩) h

end

/-- Nothing is told of a new user but their line. -/
theorem isEarlier_line (slot : KeySlot) (u : NewUser) (n : Nonces) :
    ∀ x ∈ (slot.obscured u n).1.notices, IsEarlier x := by
  rw [(u.lineOf slot n).notices]
  nofun

theorem told_create (s : Server) (c : Circumstances) (u : NewUser) (n : Nonces) :
    Told s.slot 201 ((s.slot.obscured u n).1.line.getD "") (s.create c u n).1 := by
  have hline := isEarlier_line s.slot u n
  cases hproblem : u.problem? with
  | some p =>
    rw [create_of_problem hproblem]
    exact told_tell _ p.status_ne_201 hline
  | none =>
    rw [create_of_none hproblem]
    refine told_bring_user (s := s.store _) _ (List.forall_mem_append.mpr ⟨hline, ?_⟩)
    exact List.forall_mem_singleton.mpr (by simp [IsEarlier, userCreated])

theorem told_find (s : Server) (id : String) (n : Nonces) :
    Told s.slot 200 "" (s.find id n).1 := by
  cases hget : s.directory.get? id with
  | none =>
    rw [find_of_none hget]
    exact told_tell none (Problem.status_ne_200 _) nofun
  | some user =>
    rw [find_of_some hget]
    exact told_bring_user none nofun

/-- What is told when a new user cannot be revealed. -/
theorem isEarlier_revealFailed (f : Failure CipherError) :
    ∀ x ∈ f.notices ++ [revealFailed f], IsEarlier x := by
  have hlast : IsEarlier (revealFailed f) := by
    cases f <;> simp [IsEarlier, revealFailed]
  refine List.forall_mem_append.mpr ⟨?_, List.forall_mem_singleton.mpr hlast⟩
  cases f with
  | leaf path cause =>
    exact List.forall_mem_singleton.mpr (by simp [IsEarlier, Notice.leafFailed])
  | unsupportedShape found => nofun
  | tooDeep limit => nofun

theorem told_reveal (s : Server) (u : NewUser) (n : Nonces) :
    Told s.slot 200 ((s.slot.obscured u n).1.line.getD "") (s.reveal u n).1 := by
  have hline := isEarlier_line s.slot u n
  cases henabled : s.revealEnabled with
  | false =>
    rw [reveal_of_disabled henabled]
    exact told_tell _ (Problem.status_ne_200 _) hline
  | true =>
    cases hkey : s.logKey with
    | none =>
      rw [reveal_of_noKey henabled hkey]
      exact told_tell _ (Problem.status_ne_200 _) hline
    | some key =>
      rcases hu : u.revealed key.text (s.slot.obscured u n).2 with ⟨⟨p | plain, notices⟩, n₁⟩
      · rw [reveal_of_error henabled hkey hu]
        obtain ⟨-, f, rfl⟩ := NewUser.of_revealed_error hu
        exact told_tell _ p.status_ne_200
          (List.forall_mem_append.mpr ⟨hline, isEarlier_revealFailed f⟩)
      · rw [reveal_of_ok henabled hkey hu]
        obtain rfl := NewUser.of_revealed_ok hu
        exact told_bring_newUser _ (List.forall_mem_append.mpr ⟨hline, nofun⟩)

/-! ## The notice -/

/-- The line for a request is there exactly if the log has a key and a new user was posted, and then
it is an obscured form of the new user. -/
structure RequestLine (slot : KeySlot) (q : Request) (line : String) : Prop where
  ne_empty_iff : line ≠ "" ↔ slot.current ≠ "" ∧ ∃ u, q.Posts u
  obscures : line ≠ "" → ∃ u, q.Posts u ∧ slot.Obscures u line

/-- The line for an answer is there exactly if the log has a key and the answer tells of a success,
and then it is an obscured form of the data in the body. -/
structure AnswerLine (slot : KeySlot) (q : Request) (status : Nat) (body line : String) :
    Prop where
  ne_empty_iff : line ≠ "" ↔ slot.current ≠ "" ∧ q.Succeeds status
  brings : line ≠ "" → BringsData slot status body line

/-- What the notice tells about an exchange is true of the request and of an answer with this
status and this body. -/
structure Truthful (slot : KeySlot) (q : Request) (code : Nat) (body : String) (x : Notice) :
    Prop where
  message : x.message = "request completed"
  status : x.members.lookup "status" = some (.number (.int code))
  request : ∃ line, x.members.lookup "request_body" = some (.text line) ∧ RequestLine slot q line
  answer : ∃ line, x.members.lookup "response_body" = some (.text line) ∧
    AnswerLine slot q code body line

section

variable {slot : KeySlot} {o : Outcome} {success status : Nat} {u : NewUser} {body line : String}

theorem requestLine_of_posts (hu : q.Posts u) (n : Nonces) :
    RequestLine slot q ((slot.obscured u n).1.line.getD "") := by
  have hline := u.lineOf slot n
  refine ⟨hline.ne_empty_iff.trans (and_iff_left ⟨u, hu⟩).symm, ?_⟩
  intro hne
  exact ⟨u, hu, hline.obscures (hline.ne_empty_iff.mp hne)⟩

theorem requestLine_of_not_posts (h : ¬ ∃ u, q.Posts u) : RequestLine slot q "" :=
  ⟨iff_of_false (not_not_intro rfl) fun hposts ↦ h hposts.2, fun hne ↦ absurd rfl hne⟩

theorem answerLine_of_not_succeeds (h : ¬ q.Succeeds status) :
    AnswerLine slot q status body "" :=
  ⟨iff_of_false (not_not_intro rfl) fun hsucceeds ↦ h hsucceeds.2, fun hne ↦ absurd rfl hne⟩

theorem Told.answerLine (h : Told slot success line o)
    (hsucceeds : q.Succeeds o.response.status ↔ o.response.status = success) :
    AnswerLine slot q o.response.status o.response.body (o.response.responseLog.getD "") := by
  refine ⟨?_, fun hne ↦ ?_⟩
  · rw [hsucceeds]
    exact h.response_iff
  · rw [(h.response_iff.mp hne).2]
    exact h.brings hne

theorem truthful_completed {r : Response} (hrequest : RequestLine slot q (r.requestLog.getD ""))
    (hanswer : AnswerLine slot q r.status body (r.responseLog.getD "")) :
    Truthful slot q r.status body (completed c q r) :=
  ⟨rfl, rfl, ⟨_, rfl, hrequest⟩, ⟨_, rfl, hanswer⟩⟩

theorem Told.truthful_of_posts (h : Told slot success ((slot.obscured u n).1.line.getD "") o)
    (hposts : q.Posts u)
    (hsucceeds : q.Succeeds o.response.status ↔ o.response.status = success) :
    Truthful slot q o.response.status o.response.body (completed c q o.response) := by
  refine truthful_completed ?_ (h.answerLine hsucceeds)
  rw [h.request]
  exact requestLine_of_posts hposts n

theorem Told.truthful_of_not_posts (h : Told slot success "" o) (hposts : ¬ ∃ u, q.Posts u)
    (hsucceeds : q.Succeeds o.response.status ↔ o.response.status = success) :
    Truthful slot q o.response.status o.response.body (completed c q o.response) := by
  refine truthful_completed ?_ (h.answerLine hsucceeds)
  rw [h.request]
  exact requestLine_of_not_posts hposts

end

theorem handle_user {segment : List Char} {id : String} (hroute : q.route = .user segment)
    (hid : Request.identifier segment = .ok id) (hmethod : q.method = "GET") :
    s.handle c q = s.find id := by
  simp only [handle, hroute, reading, hmethod, if_true, hid]

/-- What is told while a request is handled comes before the notice about the exchange, and that
notice is true. -/
theorem truthful_handle (s : Server) (c : Circumstances) (q : Request) (n : Nonces) :
    (∀ x ∈ (s.handle c q n).1.notices, IsEarlier x) ∧
      Truthful s.slot q (s.handle c q n).1.response.status
        (s.handle c q.forBody n).1.response.body (completed c q (s.handle c q n).1.response) := by
  have hsame (hmethod : q.method ≠ "HEAD") : q.forBody = q := if_neg hmethod
  have hdoes := does_handle s c q n
  generalize ho : (s.handle c q n).1 = o at hdoes
  cases hdoes with
  | @create u hroute hmethod hbody =>
    rw [hsame (by rw [hmethod]; decide), ho]
    exact ⟨(told_create s c u n).earlier, (told_create s c u n).truthful_of_posts
      ⟨.inl hroute, hmethod, hbody⟩ (by rw [Request.Succeeds, hroute])⟩
  | @reveal u h =>
    rw [hsame (by rw [h.method]; decide), ho]
    exact ⟨(told_reveal s u n).earlier, (told_reveal s u n).truthful_of_posts
      ⟨.inr h.route, h.method, h.body⟩ (by rw [Request.Succeeds, h.route])⟩
  | @find segment id hroute hid hmethod =>
    rw [hsame (by rw [hmethod]; decide), ho]
    exact ⟨(told_find s id n).earlier, (told_find s id n).truthful_of_not_posts
      (Request.not_posts hroute rfl) (by rw [Request.Succeeds, hroute])⟩
  | @findOnly segment id hroute hid hmethod =>
    have hbody : s.handle c q.forBody n = s.find id n := by
      rw [Request.forBody, if_pos hmethod,
        handle_user (q := { q with method := "GET" }) hroute hid rfl]
    rw [hbody]
    -- the notice does not tell whether the answer has a body
    exact ⟨(told_find s id n).earlier, (told_find s id n).truthful_of_not_posts
      (Request.not_posts hroute rfl) (by rw [Request.Succeeds, hroute])⟩
  | @other r h =>
    refine ⟨nofun, truthful_completed (r := r) ?_ ?_⟩
    · rw [h.requestLog]
      exact requestLine_of_not_posts h.posts
    · rw [h.responseLog]
      exact answerLine_of_not_succeeds h.succeeds

theorem body_of_head (hmethod : q.method = "HEAD")
    (hsucceeds : q.Succeeds (s.handle c q n).1.response.status) :
    (s.handle c q n).1.response.body = "" := by
  have hdoes := does_handle s c q n
  have hpost : q.method ≠ "POST" := by
    rw [hmethod]
    decide
  generalize (s.handle c q n).1 = o at hdoes hsucceeds ⊢
  cases hdoes with
  | create _ h => exact absurd h hpost
  | reveal h => exact absurd h.method hpost
  | find _ _ h =>
    rw [hmethod] at h
    exact absurd h (by decide)
  | findOnly => rfl
  | other h => exact absurd hsucceeds h.succeeds

/-- The service itself ends each exchange with one notice about it, which is true.  The body that
the notice is about is that of the answer to `GET`, since `HEAD` is answered without a body. -/
theorem serve_truthful (s : Server) (c : Circumstances) (q : Request) (n : Nonces) :
    ∃ (earlier : List Notice) (x : Notice),
      (s.serve c q n).1.notices = earlier ++ [x] ∧
      (∀ y ∈ earlier, IsEarlier y) ∧
      Truthful s.slot q (s.serve c q n).1.response.status
        (s.serve c q.forBody n).1.response.body x := by
  obtain ⟨hearlier, htruthful⟩ := truthful_handle s c q n
  exact ⟨_, _, rfl, hearlier, htruthful⟩

/-! ## The layers around the service -/

section

variable {t : Tracing} {arrives : Bool}

theorem exchange_of_stalls (h : q.stalls arrives = true) :
    (s.exchange t arrives c q n).1 = s.unchanged .timedOut (t.opening q) := by
  rw [exchange, if_pos h]
  rfl

theorem exchange_of_not_stalls (h : q.stalls arrives = false) :
    (s.exchange t arrives c q n).1 = { (s.serve c q n).1 with
      notices := t.opening q ++ (s.serve c q n).1.notices ++
        t.closing (s.serve c q n).1.response } := by
  rw [exchange, if_neg (by rw [h]; decide)]
  rfl

/-- Only a body that is posted is waited for. -/
theorem stalls_forBody (h : q.stalls arrives = false) : q.forBody.stalls arrives = false := by
  rw [Request.forBody]
  split
  · rw [Request.stalls, Request.awaitsBody]
    simp
  · exact h

end

/-- **One true notice about each exchange.**  Whatever the service is, whatever is asked, whatever
nonces are drawn and whatever the tracing layer tells, let no body be waited for in vain.  Then
exactly one notice says that the request is completed, and it comes after all other notices of the
program: only what the tracing layer tells at the end comes later.  It tells the status of the
answer, and the answer carries the identifier that is told in the innermost span around the notices.

The notice has a line for the request exactly if the log has a key that is not empty and a new user
was posted, be they stored or revealed or refused; it is an obscured form of the new user.  It has a
line for the answer exactly if the log has such a key and a user was stored, found or revealed; it
is an obscured form of the data in the body of the answer, or, since `HEAD` is answered without a
body, in the body of the answer to the same request with `GET`.

A request whose body is waited for in vain is given up: the answer has neither a body nor an
identifier, no notice says that the request is completed, and the service is as it was. -/
theorem exchange_truthful (s : Server) (t : Tracing) (arrives : Bool) (c : Circumstances)
    (q : Request) (n : Nonces) :
    (q.stalls arrives = false → ∃ (earlier : List Notice) (x : Notice),
      (s.exchange t arrives c q n).1.notices =
        t.opening q ++ earlier ++ x :: t.closing (s.exchange t arrives c q n).1.response ∧
      (∀ y ∈ t.opening q ++ earlier ++ t.closing (s.exchange t arrives c q n).1.response,
        y.message ≠ "request completed") ∧
      Truthful s.slot q (s.exchange t arrives c q n).1.response.status
        (s.exchange t arrives c q.forBody n).1.response.body x ∧
      ((s.spans c q).getLast?.bind fun span ↦ span.text? "request_id") =
        some (s.exchange t arrives c q n).1.response.requestId ∧
      (q.method = "HEAD" → q.Succeeds (s.exchange t arrives c q n).1.response.status →
        (s.exchange t arrives c q n).1.response.body = "")) ∧
    (q.stalls arrives = true →
      (s.exchange t arrives c q n).1.response = .timedOut ∧
      (s.exchange t arrives c q n).1.server = s ∧
      ∀ x ∈ (s.exchange t arrives c q n).1.notices, x.message ≠ "request completed") := by
  constructor
  · intro h
    obtain ⟨earlier, x, hnotices, hearlier, htruthful⟩ := serve_truthful s c q n
    rw [exchange_of_not_stalls h, exchange_of_not_stalls (stalls_forBody h)]
    refine ⟨earlier, x, ?_, ?_, htruthful, rfl, body_of_head⟩
    · simp only [hnotices, List.append_assoc, List.singleton_append]
    · refine List.forall_mem_append.mpr ⟨List.forall_mem_append.mpr ⟨?_, hearlier⟩, ?_⟩
      · exact t.opening_message q
      · exact t.closing_message _
  · intro h
    rw [exchange_of_stalls h]
    exact ⟨rfl, rfl, t.opening_message q⟩

/-- A service with a key for its log, which knows Ada. -/
def knowingAda : Server :=
  { revealing "deadbeef" with directory := ⟨[User.ofNewUser "u1" ada ⟨0, 0⟩]⟩ }

/-- A request for the head of the answer that brings Ada. -/
def headOfAda : Request := ⟨"HEAD", .parse "/users/u1", [], []⟩

/-- A new user is posted, of whom nothing has come yet. -/
def announced : Request :=
  ⟨"POST", .parse "/users", [("content-type", "application/json")], []⟩

/-- The answer to `HEAD` has no data, and yet the notice has a line for data, which is not true of
the body of this answer. -/
theorem headOfAda_untruthful :
    ∃ (o : Outcome) (x : Notice) (line : String),
      (knowingAda.serve ⟨"r1", "u2", ⟨0, 0⟩, 0⟩ headOfAda ⟨fun _ ↦ .zero, 0⟩).1 = o ∧
      o.response.status = 200 ∧ o.response.body = "" ∧ o.notices.getLast? = some x ∧
      x.members.lookup "response_body" = some (.text line) ∧ line ≠ "" ∧
      ¬ Truthful knowingAda.slot headOfAda o.response.status o.response.body x := by
  have hroute : headOfAda.route = .user "u1".toList := by decide
  have hid : Request.identifier "u1".toList = .ok "u1" := by rfl
  have hget : knowingAda.directory.get? "u1" = some (User.ofNewUser "u1" ada ⟨0, 0⟩) := by
    decide
  have hfind := find_of_some (n := ⟨fun _ ↦ .zero, 0⟩) hget
  have hhandle : (knowingAda.handle ⟨"r1", "u2", ⟨0, 0⟩, 0⟩ headOfAda ⟨fun _ ↦ .zero, 0⟩).1 =
      { (knowingAda.find "u1" ⟨fun _ ↦ .zero, 0⟩).1 with
        response := (knowingAda.find "u1" ⟨fun _ ↦ .zero, 0⟩).1.response.withoutBody } := by
    simp only [handle, hroute, hid]
    rfl
  rw [hfind] at hhandle
  have hline : (knowingAda.slot.obscured (User.ofNewUser "u1" ada ⟨0, 0⟩)
      ⟨fun _ ↦ .zero, 0⟩).1.line.getD "" ≠ "" :=
    (User.lineOf knowingAda.slot _ _).ne_empty_iff.mpr (by decide)
  rw [serve, bind_apply, hhandle]
  refine ⟨_, _, _, rfl, rfl, rfl, List.getLast?_concat, rfl, hline, fun htruthful ↦ ?_⟩
  obtain ⟨line, htold, hanswer⟩ := htruthful.answer
  obtain rfl := Tree.text.inj (Option.some.inj htold)
  obtain ⟨message, ⟨u, hbody, -⟩ | ⟨u, hbody, -⟩⟩ := hanswer.brings hline
  · exact Json.print_map_ne_empty _ hbody.symm
  · exact Json.print_map_ne_empty _ hbody.symm

/-- Not all is true of each exchange.  The answer to `HEAD` has no data, and yet the notice has a
line for data, which is not true of the body of this answer; the notice is not the last one, since
the tracing layer has something to tell after it; and when the body of a request does not come,
there is no such notice, and the answer has no identifier. -/
theorem exchange_untruthful :
    (∃ (o : Outcome) (x : Notice) (line : String),
      (knowingAda.exchange (.standard 0) true ⟨"r1", "u2", ⟨0, 0⟩, 0⟩ headOfAda
        ⟨fun _ ↦ .zero, 0⟩).1 = o ∧
      o.response.status = 200 ∧ o.response.body = "" ∧
      x ∈ o.notices ∧ x.members.lookup "response_body" = some (.text line) ∧ line ≠ "" ∧
      ¬ Truthful knowingAda.slot headOfAda o.response.status o.response.body x ∧
      o.notices.getLast?.map Notice.message = some "finished processing request") ∧
    ∃ o : Outcome,
      (knowingAda.exchange (.standard 30000) false ⟨"r1", "u2", ⟨0, 0⟩, 30000⟩ announced
        ⟨fun _ ↦ .zero, 0⟩).1 = o ∧
      o.response.status = 408 ∧ o.response.requestId = "" ∧
      ∀ x ∈ o.notices, x.message ≠ "request completed" := by
  constructor
  · obtain ⟨o, x, line, ho, hstatus, hbody, hlast, htold, hline, huntrue⟩ := headOfAda_untruthful
    refine ⟨_, x, line, exchange_of_not_stalls (by decide), ?_⟩
    rw [ho]
    have hx : x ∈ o.notices := List.mem_of_getLast? hlast
    refine ⟨hstatus, hbody, ?_, htold, hline, huntrue, ?_⟩
    · exact List.mem_append_left _ (List.mem_append_right _ hx)
    · have hclosing :
          (Tracing.standard 0).closing o.response = [Tracing.finished 0 o.response] := by
        simp only [Tracing.standard, hstatus]
        rfl
      simp only [hclosing, List.getLast?_concat]
      rfl
  · refine ⟨_, exchange_of_stalls (by decide +kernel), rfl, rfl, ?_⟩
    exact (Tracing.standard 30000).opening_message announced

end Server

end Accounts

end Shroud
