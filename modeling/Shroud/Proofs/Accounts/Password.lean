import Shroud.Proofs.Accounts.Reveal
import Shroud.Proofs.Accounts.Secrecy

/-!
# The password leaves no trace but its own encryption

Two runs start from the same service and get the same requests, except that new users are posted
with other passwords.  What is sent, and the service after each request, are the same in both runs,
whatever nonces are drawn.  When the same nonces are drawn, the notices are the same as well, except
that in the line for the body of a request another text stands in the place of the password, which is
encrypted there (`Server.run_butPassword`).

There are three places to look at.  Whether a new user is stored depends on the password only in so
far as it is empty; the user that is stored has none; and of the texts that are encrypted for the
line, which take one nonce each, it is one (`NewUser.encrypt_password`).
-/

set_option autoImplicit false

namespace Shroud.Accounts

/-! ## New users -/

namespace NewUser

/-- The new user with another password. -/
def withPassword (u : NewUser) (w : String) : NewUser := { u with password := w }

/-- New users who differ in the password at most; neither has one, or both have. -/
structure ButPassword (u u' : NewUser) : Prop where
  eq : u' = u.withPassword u'.password
  empty : u.password = "" ↔ u'.password = ""

/-- The secrets that a walk meets after the password. -/
def contact (u : NewUser) : List (String × String) :=
  u.phone.toList.map ("phone", ·) ++ u.address.toList.flatMap fun a ↦
    [("address.street", a.street), ("address.postal_code", a.postalCode)]

theorem length_contact (u : NewUser) :
    u.contact.length = (contactTexts u.phone u.address).length := by
  obtain ⟨name, email, password, phone, address⟩ := u
  cases phone <;> cases address <;> rfl

/-- A walk passes a new user with any password: the text made of the password differs, but neither
the texts around it nor the nonces that they take. -/
theorem exists_passes_withPassword {key : String} (hkey : key ≠ "") (u : NewUser) (n : Nonces) :
    ∃ as n₁, as.length = (contactTexts u.phone u.address).length ∧ ∀ w : String,
      (Concealer.standard.pass .encrypt key).Passes n
        ((HasRoot.root (u.withPassword w)).events .standard)
        ((Sealed.enclose key n.next.1 (Text.utf8 u.email)).text ::
          (Sealed.enclose key n.next.2.next.1 (Text.utf8 w)).text :: as) n₁ := by
  have hleaf := Concealer.leaf_encrypt hkey
  obtain ⟨as, n₁, has⟩ := Pass.exists_answers (p := Concealer.standard.pass .encrypt key)
    (fun t n ↦ ⟨_, _, hleaf t n⟩) (u.contact.map Prod.snd) n.next.2.next.2
  have hpasses (w : String) : (Concealer.standard.pass .encrypt key).Passes n
      ((HasRoot.root (u.withPassword w)).events .standard)
      ((Sealed.enclose key n.next.1 (Text.utf8 u.email)).text ::
        (Sealed.enclose key n.next.2.next.1 (Text.utf8 w)).text :: as) n₁ := by
    refine ⟨(u.withPassword w).hasSketch.texts, ?_⟩
    rw [contents_root, secrets, List.append_assoc]
    exact Pass.answers_cons_of_ok (hleaf _ _) (Pass.answers_cons_of_ok (hleaf _ _) has)
  refine ⟨as, n₁, ?_, hpasses⟩
  have hlength := Pass.length_of_run _ (hpasses "").run
  rw [contents_root, List.length_map, secrets, List.append_assoc] at hlength
  rw [← length_contact]
  exact Nat.succ.inj (Nat.succ.inj hlength)

/-- **The password is encrypted by itself**: with another one, another text stands in its place, and
nothing else is different. -/
theorem encrypt_password {key : String} (hkey : key ≠ "") (u : NewUser) (n : Nonces) :
    ∃ (hidden : NewUser) (nonce : GcmSiv.Nonce) (n₁ : Nonces), ∀ w : String,
      Concealer.standard.encrypt (u.withPassword w) key n =
        .ok (hidden.withPassword (Sealed.enclose key nonce (Text.utf8 w)).text) n₁ := by
  obtain ⟨as, n₁, hlength, hpasses⟩ := u.exists_passes_withPassword hkey n
  refine ⟨⟨u.name, (Sealed.enclose key n.next.1 (Text.utf8 u.email)).text, "",
    (contactOf u.phone u.address as).1, (contactOf u.phone u.address as).2⟩, n.next.2.next.1, n₁, ?_⟩
  intro w
  show transform (Concealer.standard.pass .encrypt key) (u.withPassword w) n = _
  rw [transform_eq _ _ hkey]
  refine (map_of_ok (hpasses w).run _).trans (congrArg (EStateM.Result.ok · n₁) ?_)
  exact (u.withPassword w).refill_eq _ _ hlength

variable {u u' : NewUser}

/-- The user who is stored has no password. -/
theorem ButPassword.ofNewUser_eq (h : u.ButPassword u') (id : String) (createdAt : Instant) :
    User.ofNewUser id u' createdAt = User.ofNewUser id u createdAt := by
  rw [h.eq]
  rfl

/-- Of the password it counts only whether it is empty. -/
theorem ButPassword.problem?_eq (h : u.ButPassword u') : u'.problem? = u.problem? := by
  have hempty : u.password.isEmpty = u'.password.isEmpty := by
    rw [Bool.eq_iff_iff, String.isEmpty_iff, String.isEmpty_iff]
    exact h.empty
  rw [h.eq, problem?, problem?, hempty]
  rfl

/-- The new user as a log holds them when this password is encrypted. -/
def lineFor (hidden : NewUser) (key : String) (nonce : GcmSiv.Nonce) (w : String) : String :=
  Json.print (hidden.withPassword (Sealed.enclose key nonce (Text.utf8 w)).text).json

/-- The obscured line of a new user, as a function of the password: there is none, or it has the
encrypted password in one place and is the same elsewhere. -/
def IsLineFor (key : String) (f : String → Option String) : Prop :=
  (∀ w, f w = none) ∨ ∃ (hidden : NewUser) (nonce : GcmSiv.Nonce),
    ∀ w, f w = some (hidden.lineFor key nonce w)

theorem exists_isLineFor (slot : KeySlot) (u : NewUser) (n : Nonces) :
    ∃ f n₁, IsLineFor slot.current f ∧
      ∀ w, slot.obscured (u.withPassword w) n = (⟨f w, []⟩, n₁) := by
  by_cases hkey : slot.current = ""
  · refine ⟨fun _ ↦ none, n, .inl fun _ ↦ rfl, ?_⟩
    intro w
    have hempty : slot.current.isEmpty = true := String.isEmpty_iff.mpr hkey
    rw [KeySlot.obscured, Concealer.obscured, if_pos hempty]
  · obtain ⟨hidden, nonce, n₁, hhidden⟩ := u.encrypt_password hkey n
    exact ⟨_, n₁, .inr ⟨hidden, nonce, fun _ ↦ rfl⟩, fun w ↦ obscured_eq hkey (hhidden w)⟩

end NewUser

/-! ## Requests -/

/-- Requests that differ in the password of a posted new user at most.  The new user may be written
in other ways as well, as long as the service reads the same of them. -/
inductive Request.ButPassword : Request → Request → Prop where
  | same (q : Request) : ButPassword q q
  | users {q q' : Request} {u u' : NewUser} (route : q.route = .users) (method : q.method = "POST")
      (method' : q'.method = q.method) (target : q'.target = q.target) (body : q.newUser = .ok u)
      (body' : q'.newUser = .ok u') (h : u.ButPassword u') : ButPassword q q'

namespace Request.ButPassword

variable {q q' : Request} (h : q.ButPassword q')

include h

theorem method_eq : q'.method = q.method := by
  cases h with
  | same => rfl
  | users _ _ method' => exact method'

theorem target_eq : q'.target = q.target := by
  cases h with
  | same => rfl
  | users _ _ _ target => exact target

/-- Such requests ask the same of the directory. -/
theorem accessFor_eq (c : Circumstances) : q'.accessFor c = q.accessFor c := by
  cases h with
  | same => rfl
  | users route method method' target body body' h =>
    have hroute : q'.route = .users := by rw [Request.route, target, ← Request.route, route]
    simp only [accessFor, route, hroute, method', method, body, body', if_true,
      NewUser.accessFor, h.problem?_eq, h.ofNewUser_eq]

end Request.ButPassword

/-- The outcome with this line for the request. -/
def Outcome.withRequestLog (o : Outcome) (line : Option String) : Outcome :=
  { o with response := { o.response with requestLog := line } }

namespace Server

/-! ## What is sent -/

/-- What is sent does not depend on the nonces. -/
def SentAlways (act : StateM Nonces Outcome) : Prop :=
  ∀ n n', (act n).1.response.sent = (act n').1.response.sent

theorem sentAlways_create (s : Server) (c : Circumstances) (u : NewUser) :
    SentAlways (s.create c u) := by
  intro n n'
  cases hproblem : u.problem? with
  | some p =>
    rw [create_of_problem hproblem, create_of_problem hproblem]
    rfl
  | none =>
    rw [create_of_none hproblem, create_of_none hproblem]
    rfl

theorem sentAlways_find (s : Server) (id : String) : SentAlways (s.find id) := by
  intro n n'
  cases hget : s.directory.get? id with
  | none => rw [find_of_none hget, find_of_none hget]
  | some user =>
    rw [find_of_some hget, find_of_some hget]
    rfl

theorem sentAlways_reveal (s : Server) (u : NewUser) : SentAlways (s.reveal u) := by
  intro n n'
  cases henabled : s.revealEnabled with
  | false =>
    rw [reveal_of_disabled henabled, reveal_of_disabled henabled]
    rfl
  | true =>
    cases hkey : s.logKey with
    | none =>
      rw [reveal_of_noKey henabled hkey, reveal_of_noKey henabled hkey]
      rfl
    | some key =>
      rcases u.revealed_cases key.text with ⟨plain, hu⟩ | ⟨p, notices, -, hu⟩
      · rw [reveal_of_ok henabled hkey (hu _), reveal_of_ok henabled hkey (hu _)]
        rfl
      · rw [reveal_of_error henabled hkey (hu _), reveal_of_error henabled hkey (hu _)]
        rfl

theorem SentAlways.doing {act : StateM Nonces Outcome} (h : SentAlways act) (s : Server)
    (q : Request) : SentAlways (s.doing q act) := by
  rw [Server.doing]
  split
  · exact h
  · exact fun _ _ ↦ rfl

theorem SentAlways.reading {act : StateM Nonces Outcome} (h : SentAlways act) (s : Server)
    (q : Request) : SentAlways (s.reading q act) := by
  rw [Server.reading]
  split
  · exact h
  split
  · exact fun n n' ↦ congrArg Response.withoutBody (h n n')
  · exact fun _ _ ↦ rfl

/-- What is sent in answer to a request does not depend on the nonces. -/
theorem sentAlways_handle (s : Server) (c : Circumstances) (q : Request) :
    SentAlways (s.handle c q) := by
  rw [handle]
  cases q.route with
  | users =>
    refine SentAlways.doing ?_ s q
    rw [withNewUser]
    cases q.newUser with
    | ok u => exact sentAlways_create s c u
    | error e => exact fun _ _ ↦ rfl
  | reveal =>
    refine SentAlways.doing ?_ s q
    rw [withNewUser]
    cases q.newUser with
    | ok u => exact sentAlways_reveal s u
    | error e => exact fun _ _ ↦ rfl
  | user segment =>
    refine SentAlways.reading ?_ s q
    cases Request.identifier segment with
    | ok id => exact sentAlways_find s id
    | error e => exact fun _ _ ↦ rfl
  | health => exact SentAlways.reading (fun _ _ ↦ rfl) s q
  | unknown => exact fun _ _ ↦ rfl

/-! ## What is told -/

/-- A new user is created in the same way with any password, but for the line. -/
theorem create_butPassword (s : Server) (c : Circumstances) (u : NewUser) (n : Nonces) :
    ∃ f o n₁, NewUser.IsLineFor s.slot.current f ∧ ∀ u', u.ButPassword u' →
      s.create c u' n = (Outcome.withRequestLog o (f u'.password), n₁) := by
  obtain ⟨f, n₁, hf, hline⟩ := NewUser.exists_isLineFor s.slot u n
  cases hproblem : u.problem? with
  | some p =>
    refine ⟨f, s.tell p none [], n₁, hf, ?_⟩
    intro u' h
    have hobscured := hline u'.password
    rw [← h.eq] at hobscured
    rw [create_of_problem (h.problem?_eq.trans hproblem), hobscured]
    rfl
  | none =>
    let user := User.ofNewUser c.userId u c.now
    refine ⟨f, ((s.store user).bring 201 "user created" user none [userCreated user] n₁).1,
      ((s.store user).bring 201 "user created" user none [userCreated user] n₁).2, hf, ?_⟩
    intro u' h
    have hobscured := hline u'.password
    rw [← h.eq] at hobscured
    rw [create_of_none (h.problem?_eq.trans hproblem), hobscured, h.ofNewUser_eq]
    rfl

end Server

/-- What is told of two exchanges: the same, or the same but for the encrypted password in the line
for the body of the request.  The password is encrypted with the same nonce then. -/
inductive ToldButPassword (key : String) (q q' : Request) : List Notice → List Notice → Prop where
  | same (notices : List Notice) : ToldButPassword key q q' notices notices
  | line {u u' : NewUser} (hu : q.newUser = .ok u) (hu' : q'.newUser = .ok u')
      (front : List Notice) (c : Circumstances) (r : Response) (hidden : NewUser)
      (nonce : GcmSiv.Nonce) :
      ToldButPassword key q q'
        (front ++ [completed c q
          { r with requestLog := some (hidden.lineFor key nonce u.password) }])
        (front ++ [completed c q
          { r with requestLog := some (hidden.lineFor key nonce u'.password) }])

namespace Server

theorem completed_eq {q q' : Request} (h : q.ButPassword q') (c : Circumstances) (r : Response) :
    completed c q' r = completed c q r := by
  rw [completed, completed, h.method_eq, h.target_eq]

/-- What comes of two requests that differ in a password at most, with the same nonces. -/
structure ServedButPassword (key : String) (q q' : Request) (x x' : Outcome × Nonces) : Prop where
  sent : x.1.response.sent = x'.1.response.sent
  nonces : x.2 = x'.2
  told : ToldButPassword key q q' x.1.notices x'.1.notices

/-- **The step.**  With the same nonces, a request with another password is answered in the same
way, draws as many nonces, and is told about in the same way but for the encrypted password. -/
theorem serve_butPassword {q q' : Request} (h : q.ButPassword q') (s : Server) (c : Circumstances)
    (n : Nonces) :
    ServedButPassword s.slot.current q q' (s.serve c q n) (s.serve c q' n) := by
  have hcompleted := completed_eq h c
  cases h with
  | same => exact ⟨rfl, rfl, .same _⟩
  | @users _ u u' route method method' target body body' hu =>
    have hroute' : q'.route = .users := by rw [Request.route, target, ← Request.route, route]
    obtain ⟨f, o, n₁, hf, hcreate⟩ := create_butPassword s c u n
    have hhandle : s.handle c q n = (o.withRequestLog (f u.password), n₁) := by
      rw [handle_users route method body]
      exact hcreate u ⟨rfl, Iff.rfl⟩
    have hhandle' : s.handle c q' n = (o.withRequestLog (f u'.password), n₁) := by
      rw [handle_users hroute' (method'.trans method) body']
      exact hcreate u' hu
    have hserve : s.serve c q n = (⟨{ o.response with
        requestLog := f u.password, requestId := c.requestId }, o.server,
        o.notices ++ [completed c q { o.response with requestLog := f u.password }]⟩, n₁) := by
      rw [serve, bind_apply, hhandle]
      rfl
    have hserve' : s.serve c q' n = (⟨{ o.response with
        requestLog := f u'.password, requestId := c.requestId }, o.server,
        o.notices ++ [completed c q { o.response with requestLog := f u'.password }]⟩, n₁) := by
      rw [serve, bind_apply, hhandle', ← hcompleted]
      rfl
    rw [hserve, hserve']
    refine ⟨rfl, rfl, ?_⟩
    rcases hf with hf | ⟨hidden, nonce, hf⟩
    · rw [hf, hf]
      exact .same _
    · rw [hf, hf]
      exact .line body body' o.notices c o.response hidden nonce

/-- What is sent in answer to it is the same with other nonces, too. -/
theorem sent_serve_butPassword {q q' : Request} (h : q.ButPassword q') (s : Server)
    (c : Circumstances) (n n' : Nonces) :
    (s.serve c q n).1.response.sent = (s.serve c q' n').1.response.sent := by
  have hnonces : (s.serve c q n).1.response.sent = (s.serve c q n').1.response.sent :=
    congrArg (·.labelled c) (sentAlways_handle s c q n n')
  rw [hnonces]
  exact (serve_butPassword h s c n').sent

/-- The service is the same after it. -/
theorem server_serve_butPassword {q q' : Request} (h : q.ButPassword q') (s : Server)
    (c : Circumstances) (n n' : Nonces) :
    (s.serve c q n).1.server = (s.serve c q' n').1.server := by
  rw [(comesOf_serve c q).server, (comesOf_serve c q').server, h.accessFor_eq]

/-! ## Runs -/

/-- Requests that differ in passwords at most, one by one, in the same circumstances. -/
inductive RunsButPassword :
    List (Circumstances × Request) → List (Circumstances × Request) → Prop where
  | nil : RunsButPassword [] []
  | cons {q q' : Request} {v v' : List (Circumstances × Request)} (c : Circumstances)
      (h : q.ButPassword q') (rest : RunsButPassword v v') :
      RunsButPassword ((c, q) :: v) ((c, q') :: v')

variable {v v' : List (Circumstances × Request)}

/-- Two exchanges: what is sent and the service afterwards are the same. -/
def SameOutside (e e' : List Span × Outcome) : Prop :=
  e.2.response.sent = e'.2.response.sent ∧ e.2.server = e'.2.server

/-- Two exchanges, each with its request: what is told of them is the same but for the encrypted
password. -/
def SameLogButPassword (key : String)
    (e e' : (Circumstances × Request) × (List Span × Outcome)) : Prop :=
  e.2.1 = e'.2.1 ∧ ToldButPassword key e.1.2 e'.1.2 e.2.2.notices e'.2.2.notices

theorem run_sameOutside (hv : RunsButPassword v v') :
    ∀ (s : Server) (n n' : Nonces), List.Forall₂ SameOutside (s.run v n).1 (s.run v' n').1 := by
  induction hv with
  | nil => exact fun _ _ _ ↦ .nil
  | cons c h _ ih =>
    intro s n n'
    have hserver := server_serve_butPassword h s c n n'
    rw [run_cons, run_cons]
    refine .cons ⟨sent_serve_butPassword h s c n n', hserver⟩ ?_
    rw [hserver]
    exact ih _ _ _

theorem run_sameLog (hv : RunsButPassword v v') :
    ∀ (s : Server) (n : Nonces), (s.run v n).2 = (s.run v' n).2 ∧
      List.Forall₂ (SameLogButPassword s.slot.current) (v.zip (s.run v n).1)
        (v'.zip (s.run v' n).1) := by
  induction hv with
  | nil => exact fun _ _ ↦ ⟨rfl, .nil⟩
  | @cons q q' v v' c h _ ih =>
    intro s n
    obtain ⟨-, hnonces, htold⟩ := serve_butPassword h s c n
    have hspans : s.spans c q = s.spans c q' := by
      rw [spans, spans, Request.span, Request.span, h.method_eq, h.target_eq]
    -- The next requests meet the same service with the same nonces.
    obtain ⟨hlast, hrest⟩ := ih (s.serve c q n).1.server (s.serve c q n).2
    rw [slot_serve] at hrest
    rw [run_cons, run_cons, ← server_serve_butPassword h s c n n, ← hnonces]
    exact ⟨hlast, .cons ⟨hspans, htold⟩ hrest⟩

/-- **The password influences nothing but its own encryption.**  Let a service get two runs of
requests, in the same circumstances, that differ in the passwords of posted new users at most; where
the one is empty, so is the other.  Then each answer, as it is sent, and the service after it are
the same in both runs, whatever nonces are drawn in them.  This includes the answers to later
requests, which may look the new users up.

When the same nonces are drawn, the logs of the two runs are the same, but for this: in the line for
the body of a request with a new user, the text in the place of the password is the encryption of
the one password or the other. -/
theorem run_butPassword (hv : RunsButPassword v v') (s : Server) :
    (∀ n n', List.Forall₂ SameOutside (s.run v n).1 (s.run v' n').1) ∧
    ∀ n, (s.run v n).2 = (s.run v' n).2 ∧
      List.Forall₂ (SameLogButPassword s.slot.current) (v.zip (s.run v n).1)
        (v'.zip (s.run v' n).1) :=
  ⟨run_sameOutside hv s, run_sameLog hv s⟩

theorem butPassword_posting {u u' : NewUser} (h : u.ButPassword u')
    (hsize : 24 * u.size + 480 ≤ bodyLimit) (hsize' : 24 * u'.size + 480 ≤ bodyLimit) :
    (posting "/users" (Json.print u.json)).ButPassword
      (posting "/users" (Json.print u'.json)) := by
  have hroute : Route.ofPath (Target.parse "/users").path = .users := by decide
  have hmethod (text : String) : (posting "/users" text).method = "POST" := rfl
  have htarget (text : String) : (posting "/users" text).target = .parse "/users" := rfl
  exact .users hroute (hmethod _) ((hmethod _).trans (hmethod _).symm)
    ((htarget _).trans (htarget _).symm) (newUser_posting "/users" hsize)
    (newUser_posting "/users" hsize') h

/-- Ada is created with one password or another, and looked up. -/
theorem run_butPassword_ada :
    ada.password ≠ (ada.withPassword "word").password ∧
      statuses ((revealing "deadbeef").run (creatingAda ada) ⟨fun _ ↦ .zero, 0⟩).1 = [201, 200] ∧
      List.Forall₂ SameOutside
        ((revealing "deadbeef").run (creatingAda ada) ⟨fun _ ↦ .zero, 0⟩).1
        ((revealing "deadbeef").run (creatingAda (ada.withPassword "word")) ⟨fun _ ↦ .zero, 7⟩).1 ∧
      List.Forall₂ (SameLogButPassword "deadbeef")
        ((creatingAda ada).zip
          ((revealing "deadbeef").run (creatingAda ada) ⟨fun _ ↦ .zero, 0⟩).1)
        ((creatingAda (ada.withPassword "word")).zip
          ((revealing "deadbeef").run (creatingAda (ada.withPassword "word"))
            ⟨fun _ ↦ .zero, 0⟩).1) := by
  have hbut : ada.ButPassword (ada.withPassword "word") := ⟨rfl, by decide⟩
  have hv : RunsButPassword (creatingAda ada) (creatingAda (ada.withPassword "word")) :=
    .cons _ (butPassword_posting hbut (by decide) (by decide)) (.cons _ (.same _) .nil)
  obtain ⟨houtside, hlog⟩ := run_butPassword hv (revealing "deadbeef")
  exact ⟨by decide, statuses_creatingAda (by decide) (by decide) _ _, houtside _ _, (hlog _).2⟩

end Server

end Shroud.Accounts
