import Mathlib.Data.List.Forall2
import Shroud.Proofs.Accounts.Storage

/-!
# What is revealed, and what is not

A new user is revealed if each of their secrets can be decrypted (`NewUser.OpensTo`), and otherwise
the answer names the first that cannot (`NewUser.firstClosed?`).  So the answer is made from the
switch, the key, and either the new user in clear or the name of one field: why that field stayed
closed, and what the other fields hold, has no part in it (`Server.reveal_exact`).

The walk of a new user meets the secrets and nothing else, so decryption ends well or at a leaf;
that is why the service never has to answer that something inside it went wrong.
-/

set_option autoImplicit false

namespace Shroud.Accounts

/-! ## Secrets in clear -/

/-- The texts of the address `b` are those of `a` before they were encrypted. -/
structure Address.OpensTo (key : String) (a b : Address) : Prop where
  street : Sealed.decryptText a.street key = .ok b.street
  city : b.city = a.city
  postalCode : Sealed.decryptText a.postalCode key = .ok b.postalCode

theorem Address.OpensTo.eq {key : String} {a b b' : Address} (h : a.OpensTo key b)
    (h' : a.OpensTo key b') : b = b' := by
  have hstreet := Except.ok.inj (h.street.symm.trans h'.street)
  have hcity := h.city.trans h'.city.symm
  have hcode := Except.ok.inj (h.postalCode.symm.trans h'.postalCode)
  obtain ⟨street, city, code⟩ := b
  subst hstreet hcity hcode
  rfl

/-- What a single-valued relation relates to an optional value is single. -/
theorem eq_of_optionRel {α β : Type} {r : α → β → Prop} (hr : ∀ a b b', r a b → r a b' → b = b')
    {x : Option α} {y y' : Option β} (h : Option.Rel r x y) (h' : Option.Rel r x y') : y = y' := by
  cases h with
  | none =>
    cases h'
    rfl
  | some h =>
    cases h' with
    | some h' => rw [hr _ _ _ h h']

theorem exists_of_optionRel {α β : Type} {r : α → β → Prop} {a : α} {y : Option β}
    (h : Option.Rel r (some a) y) : ∃ b, r a b := by
  cases h with
  | some h => exact ⟨_, h⟩

namespace NewUser

/-- The new user `plain` is `u` with each of the secrets that are there decrypted. -/
structure OpensTo (key : String) (u plain : NewUser) : Prop where
  name : plain.name = u.name
  email : Sealed.decryptText u.email key = .ok plain.email
  password : Sealed.decryptText u.password key = .ok plain.password
  phone : Option.Rel (fun t p ↦ Sealed.decryptText t key = .ok p) u.phone plain.phone
  address : Option.Rel (Address.OpensTo key) u.address plain.address

/-- The text at a path cannot be decrypted. -/
def isClosed (key : String) (x : String × String) : Bool :=
  (Sealed.decryptText x.2 key).toOption.isNone

/-- The path of the first secret that cannot be decrypted. -/
def firstClosed? (key : String) (u : NewUser) : Option String :=
  (u.secrets.find? (isClosed key)).map Prod.fst

variable {key : String} {u : NewUser}

theorem isClosed_of_ok {x : String × String} {p : String}
    (h : Sealed.decryptText x.2 key = .ok p) : ¬ isClosed key x = true := by
  rw [isClosed, h]
  exact Bool.false_ne_true

theorem isClosed_of_error {x : String × String} {e : CipherError}
    (h : Sealed.decryptText x.2 key = .error e) : isClosed key x = true := by
  rw [isClosed, h]
  rfl

/-- The walk over some secrets: all of them are decrypted, or it ends at the first that is not. -/
theorem run_secrets (key : String) (xs : List (String × String)) :
    (∃ as, List.Forall₂ (fun x a ↦ Sealed.decryptText x.2 key = .ok a) xs as ∧
      xs.find? (isClosed key) = none ∧
      ∀ n, (Concealer.standard.pass .decrypt key).run (xs.map fun x ↦ .text x.1 x.2) n =
        .ok as n) ∨
    ∃ x e, xs.find? (isClosed key) = some x ∧
      ∀ n, (Concealer.standard.pass .decrypt key).run (xs.map fun x ↦ .text x.1 x.2) n =
        .error (.leaf x.1 e) n := by
  induction xs with
  | nil => exact .inl ⟨[], .nil, rfl, fun _ ↦ rfl⟩
  | cons x xs ih =>
    simp only [List.map_cons, Pass.run]
    cases hx : Sealed.decryptText x.2 key with
    | error e =>
      refine .inr ⟨x, e, List.find?_cons_of_pos (isClosed_of_error hx), ?_⟩
      intro n
      exact bind_of_error (Pass.replace_of_error (Concealer.leaf_decrypt_of_error hx n) x.1)
    | ok a =>
      have hreplace (n : Nonces) := Pass.replace_of_ok (Concealer.leaf_decrypt_of_ok hx n) x.1
      rw [List.find?_cons_of_neg (isClosed_of_ok hx)]
      rcases ih with ⟨as, has, hnone, hrun⟩ | ⟨y, e, hy, hrun⟩
      · refine .inl ⟨a :: as, .cons hx has, hnone, ?_⟩
        intro n
        rw [bind_of_ok (hreplace n), bind_of_ok (hrun n)]
        rfl
      · refine .inr ⟨y, e, hy, ?_⟩
        intro n
        rw [bind_of_ok (hreplace n)]
        exact bind_of_error (hrun n)

/-- Answers for the secrets of a new user make a new user. -/
theorem opensTo_refill {as : List String}
    (h : List.Forall₂ (fun x a ↦ Sealed.decryptText x.2 key = .ok a) u.secrets as) :
    u.OpensTo key (HasRoot.refill u ((HasRoot.root u).put .standard as)) := by
  obtain ⟨name, email, password, phone, address⟩ := u
  cases phone with
  | none =>
    cases address with
    | none =>
      obtain _ | ⟨he, _ | ⟨hw, _ | _⟩⟩ := h
      exact ⟨rfl, he, hw, .none, .none⟩
    | some a =>
      obtain _ | ⟨he, _ | ⟨hw, _ | ⟨hs, _ | ⟨hc, _ | _⟩⟩⟩⟩ := h
      exact ⟨rfl, he, hw, .none, .some ⟨hs, rfl, hc⟩⟩
  | some t =>
    cases address with
    | none =>
      obtain _ | ⟨he, _ | ⟨hw, _ | ⟨ht, _ | _⟩⟩⟩ := h
      exact ⟨rfl, he, hw, .some ht, .none⟩
    | some a =>
      obtain _ | ⟨he, _ | ⟨hw, _ | ⟨ht, _ | ⟨hs, _ | ⟨hc, _ | _⟩⟩⟩⟩⟩ := h
      exact ⟨rfl, he, hw, .some ht, .some ⟨hs, rfl, hc⟩⟩

/-- Secrets are decrypted in one way only. -/
theorem OpensTo.eq {plain plain' : NewUser} (h : u.OpensTo key plain) (h' : u.OpensTo key plain') :
    plain = plain' := by
  have hname := h.name.trans h'.name.symm
  have hemail := Except.ok.inj (h.email.symm.trans h'.email)
  have hpassword := Except.ok.inj (h.password.symm.trans h'.password)
  have hphone := eq_of_optionRel (fun t p p' hp hp' ↦ Except.ok.inj (hp.symm.trans hp'))
    h.phone h'.phone
  have haddress := eq_of_optionRel (fun a b _ (h : a.OpensTo key b) ↦ h.eq) h.address h'.address
  obtain ⟨name, email, password, phone, address⟩ := plain
  subst hname hemail hpassword hphone haddress
  rfl

/-- When all secrets can be decrypted, none stays closed. -/
theorem OpensTo.firstClosed?_eq_none {plain : NewUser} (h : u.OpensTo key plain) :
    u.firstClosed? key = none := by
  rw [firstClosed?, Option.map_eq_none_iff, List.find?_eq_none]
  intro x hx
  have hopen : ∃ p, Sealed.decryptText x.2 key = .ok p := by
    simp only [secrets, List.mem_append, List.mem_cons, List.not_mem_nil, or_false, List.mem_map,
      List.mem_flatMap, Option.mem_toList] at hx
    rcases hx with ((rfl | rfl) | ⟨t, ht, rfl⟩) | ⟨a, ha, rfl | rfl⟩
    · exact ⟨_, h.email⟩
    · exact ⟨_, h.password⟩
    · exact exists_of_optionRel (ht ▸ h.phone)
    · obtain ⟨b, hb⟩ := exists_of_optionRel (ha ▸ h.address)
      exact ⟨_, hb.street⟩
    · obtain ⟨b, hb⟩ := exists_of_optionRel (ha ▸ h.address)
      exact ⟨_, hb.postalCode⟩
  obtain ⟨p, hp⟩ := hopen
  exact isClosed_of_ok hp

/-- **A new user opens, or a first secret stays closed**; decryption says which, and draws no
nonces. -/
theorem decrypt_cases (hkey : key ≠ "") (u : NewUser) :
    (∃ plain, u.OpensTo key plain ∧ u.firstClosed? key = none ∧
      ∀ n, Concealer.standard.decrypt u key n = .ok plain n) ∨
    ∃ path e, u.firstClosed? key = some path ∧
      ∀ n, Concealer.standard.decrypt u key n = .error (.leaf path e) n := by
  have hdecrypt : Concealer.standard.decrypt u key =
      (fun as ↦ HasRoot.refill u ((HasRoot.root u).put .standard as)) <$>
        (Concealer.standard.pass .decrypt key).run (u.secrets.map fun x ↦ .text x.1 x.2) := by
    rw [← u.events_root]
    exact transform_eq (Concealer.standard.pass .decrypt key) u hkey
  rcases run_secrets key u.secrets with ⟨as, has, hnone, hrun⟩ | ⟨x, e, hx, hrun⟩
  · refine .inl ⟨_, opensTo_refill has, by rw [firstClosed?, hnone]; rfl, ?_⟩
    intro n
    rw [hdecrypt, map_of_ok (hrun n)]
  · refine .inr ⟨x.1, e, by rw [firstClosed?, hx]; rfl, ?_⟩
    intro n
    rw [hdecrypt, map_of_error (hrun n)]

theorem exists_opensTo_iff (hkey : key ≠ "") (u : NewUser) :
    (∃ plain, u.OpensTo key plain) ↔ u.firstClosed? key = none := by
  refine ⟨fun ⟨plain, h⟩ ↦ h.firstClosed?_eq_none, ?_⟩
  intro h
  rcases decrypt_cases hkey u with ⟨plain, hplain, -, -⟩ | ⟨path, e, hpath, -⟩
  · exact ⟨plain, hplain⟩
  · rw [h] at hpath
    cases hpath

end NewUser

/-! ## Answers -/

/-- What is sent of an answer: everything but the obscured lines, which are for the log. -/
def Response.sent (r : Response) : Response := { r with requestLog := none, responseLog := none }

/-- The answer with the identifier of the request that came in these circumstances. -/
def Response.labelled (r : Response) (c : Circumstances) : Response :=
  { r with requestId := c.requestId }

/-- The problem that a secret cannot be decrypted. -/
def Problem.closed (path : String) : Problem :=
  ⟨.badRequest, "field `" ++ path ++ "` could not be decrypted"⟩

/-- A new user is posted to be revealed. -/
structure Request.AsksToReveal (q : Request) (u : NewUser) : Prop where
  route : q.route = .reveal
  method : q.method = "POST"
  body : q.newUser = .ok u

/-- The service may reveal, and has a key for it that is not empty. -/
structure Server.RevealsWith (s : Server) (key : String) : Prop where
  enabled : s.revealEnabled = true
  logKey : s.logKey = some ⟨key⟩
  key_ne : key ≠ ""

namespace Server

section

variable {s : Server} {q : Request} {u plain : NewUser} {key path : String}

theorem sent_serve (hq : q.AsksToReveal u) (c : Circumstances) (n : Nonces) :
    (s.serve c q n).1.response.sent = (s.reveal u n).1.response.sent.labelled c := by
  rw [← handle_reveal (c := c) hq.route hq.method hq.body]
  rfl

theorem sent_of_disabled (hq : q.AsksToReveal u) (h : s.revealEnabled = false) (c : Circumstances)
    (n : Nonces) : (s.serve c q n).1.response.sent =
      (Response.ofProblem ⟨.forbidden, "reveal is disabled"⟩).labelled c := by
  rw [sent_serve hq, reveal_of_disabled h]
  rfl

theorem sent_of_noKey (hq : q.AsksToReveal u) (h : s.revealEnabled = true) (hkey : s.logKey = none)
    (c : Circumstances) (n : Nonces) : (s.serve c q n).1.response.sent =
      (Response.ofProblem ⟨.unavailable, "no log key configured"⟩).labelled c := by
  rw [sent_serve hq, reveal_of_noKey h hkey]
  rfl

/-- What decryption gives is the data of the answer. -/
theorem sent_of_decrypt (hq : q.AsksToReveal u) (h : s.revealEnabled = true)
    (hkey : s.logKey = some ⟨key⟩) (hu : ∀ n, Concealer.standard.decrypt u key n = .ok plain n)
    (c : Circumstances) (n : Nonces) : (s.serve c q n).1.response.sent =
      (Response.ofData 200 "revealed" plain).labelled c := by
  have hrevealed : u.revealed key (s.slot.obscured u n).2 =
      ((.ok plain, []), (s.slot.obscured u n).2) := by rw [NewUser.revealed, hu]
  rw [sent_serve hq, reveal_of_ok h hkey hrevealed]
  rfl

/-- With an empty key a new user is revealed as they are. -/
theorem sent_of_emptyKey (hq : q.AsksToReveal u) (h : s.revealEnabled = true)
    (hkey : s.logKey = some ⟨""⟩) (c : Circumstances) (n : Nonces) :
    (s.serve c q n).1.response.sent = (Response.ofData 200 "revealed" u).labelled c :=
  sent_of_decrypt hq h hkey (fun _ ↦ rfl) c n

theorem sent_of_opensTo (hq : q.AsksToReveal u) (hs : s.RevealsWith key)
    (hplain : u.OpensTo key plain) (c : Circumstances) (n : Nonces) :
    (s.serve c q n).1.response.sent = (Response.ofData 200 "revealed" plain).labelled c := by
  refine sent_of_decrypt hq hs.enabled hs.logKey (fun n ↦ ?_) c n
  rcases NewUser.decrypt_cases hs.key_ne u with ⟨plain', hplain', -, hu⟩ | ⟨path, e, hpath, -⟩
  · rw [hplain.eq hplain', hu]
  · rw [hplain.firstClosed?_eq_none] at hpath
    cases hpath

theorem sent_of_firstClosed (hq : q.AsksToReveal u) (hs : s.RevealsWith key)
    (hpath : u.firstClosed? key = some path) (c : Circumstances) (n : Nonces) :
    (s.serve c q n).1.response.sent = (Response.ofProblem (.closed path)).labelled c := by
  rcases NewUser.decrypt_cases hs.key_ne u with ⟨plain, -, hnone, -⟩ | ⟨path', e, hpath', hu⟩
  · rw [hnone] at hpath
    cases hpath
  · obtain rfl := Option.some.inj (hpath'.symm.trans hpath)
    have hrevealed : u.revealed key (s.slot.obscured u n).2 =
        ((.error (.closed path'), [.leafFailed path', revealFailed (.leaf path' e)]),
          (s.slot.obscured u n).2) := by
      rw [NewUser.revealed, hu]
      rfl
    rw [sent_serve hq, reveal_of_error hs.enabled hs.logKey hrevealed]
    rfl

/-- A request to the route for revealing changes nothing, whatever its method and its body are. -/
theorem server_of_reveal (hroute : q.route = .reveal) (s : Server) (c : Circumstances)
    (n : Nonces) : (s.serve c q n).1.server = s := by
  have haccess : q.accessFor c = .nothing := by rw [Request.accessFor, hroute]
  rw [(comesOf_serve c q).server, haccess]
  rfl

end

/-- The answer `r` to a new user `u` who is to be revealed is the right one. -/
structure Reveals (s : Server) (c : Circumstances) (u : NewUser) (r : Response) : Prop where
  /-- Nothing goes wrong inside the service. -/
  internal : r.status ≠ 500
  /-- Where nothing may be revealed, nothing else counts. -/
  disabled : s.revealEnabled = false → r.status = 403 ∧
    r.sent = (Response.ofProblem ⟨.forbidden, "reveal is disabled"⟩).labelled c
  /-- Without a key, the new user does not count. -/
  noKey : s.revealEnabled = true → s.logKey = none → r.status = 503 ∧
    r.sent = (Response.ofProblem ⟨.unavailable, "no log key configured"⟩).labelled c
  /-- The new user is revealed exactly if all secrets can be decrypted. -/
  status_iff : ∀ key, s.RevealsWith key → (r.status = 200 ↔ ∃ plain, u.OpensTo key plain)
  /-- Then the data of the answer are the new user in clear. -/
  revealed : ∀ key plain, s.RevealsWith key → u.OpensTo key plain →
    r.body = answerText 200 "revealed" plain.json ∧
    r.sent = (Response.ofData 200 "revealed" plain).labelled c
  /-- Otherwise the answer names the first secret that cannot be decrypted. -/
  closed : ∀ key, s.RevealsWith key → (¬ ∃ plain, u.OpensTo key plain) →
    ∃ path, u.firstClosed? key = some path ∧ r.status = 400 ∧
      r.sent = (Response.ofProblem (.closed path)).labelled c

theorem status_of_sent {r r' : Response} {c : Circumstances} (h : r.sent = r'.labelled c) :
    r.status = r'.status := by
  show r.sent.status = _
  rw [h]
  rfl

theorem reveals_serve {s : Server} {q : Request} {u : NewUser} (hq : q.AsksToReveal u)
    (c : Circumstances) (n : Nonces) : s.Reveals c u (s.serve c q n).1.response := by
  have hclosed {key path : String} (hs : s.RevealsWith key)
      (hpath : u.firstClosed? key = some path) : (s.serve c q n).1.response.status = 400 :=
    status_of_sent (sent_of_firstClosed hq hs hpath c n)
  have hopens {key : String} {plain : NewUser} (hs : s.RevealsWith key)
      (hplain : u.OpensTo key plain) : (s.serve c q n).1.response.status = 200 :=
    status_of_sent (sent_of_opensTo hq hs hplain c n)
  refine ⟨?_, ?_, ?_, ?_, ?_, ?_⟩
  · cases henabled : s.revealEnabled with
    | false =>
      rw [status_of_sent (sent_of_disabled hq henabled c n)]
      decide
    | true =>
      rcases hkey : s.logKey with _ | ⟨⟨key⟩⟩
      · rw [status_of_sent (sent_of_noKey hq henabled hkey c n)]
        decide
      by_cases hne : key = ""
      · subst hne
        rw [status_of_sent (sent_of_emptyKey hq henabled hkey c n)]
        nofun
      have hs : s.RevealsWith key := ⟨henabled, hkey, hne⟩
      cases hpath : u.firstClosed? key with
      | some path =>
        rw [hclosed hs hpath]
        decide
      | none =>
        obtain ⟨plain, hplain⟩ := (NewUser.exists_opensTo_iff hne u).mpr hpath
        rw [hopens hs hplain]
        decide
  · intro h
    have hsent := sent_of_disabled hq h c n
    exact ⟨status_of_sent hsent, hsent⟩
  · intro h hkey
    have hsent := sent_of_noKey hq h hkey c n
    exact ⟨status_of_sent hsent, hsent⟩
  · intro key hs
    refine ⟨?_, fun ⟨plain, hplain⟩ ↦ hopens hs hplain⟩
    intro h
    rw [NewUser.exists_opensTo_iff hs.key_ne]
    cases hpath : u.firstClosed? key with
    | none => rfl
    | some path =>
      rw [hclosed hs hpath] at h
      cases h
  · intro key plain hs hplain
    have hsent := sent_of_opensTo hq hs hplain c n
    refine ⟨?_, hsent⟩
    show (s.serve c q n).1.response.sent.body = _
    rw [hsent]
    exact body_revealed plain
  · intro key hs hnone
    rw [NewUser.exists_opensTo_iff hs.key_ne] at hnone
    obtain ⟨path, hpath⟩ := Option.ne_none_iff_exists'.mp hnone
    have hsent := sent_of_firstClosed hq hs hpath c n
    exact ⟨path, hpath, status_of_sent hsent, hsent⟩

/-- **What is revealed is exactly what opens, and nothing is told but the first field that does
not.**  A new user `u` who is posted to be revealed gets the right answer from every service:
whether revealing is on comes first, then whether there is a key, and then, under a key that is not
empty, whether all secrets can be decrypted.  Nothing that is sent to this route changes the service.

Two answers that name the same field are the same, to the byte, but for the identifiers of the
requests.  The services, their keys and what else is in the requests may differ, and so may the
reasons why the field stayed closed. -/
theorem reveal_exact :
    (∀ (s : Server) (c : Circumstances) (q : Request) (n : Nonces) (u : NewUser),
      q.AsksToReveal u → s.Reveals c u (s.serve c q n).1.response) ∧
    (∀ (s : Server) (c : Circumstances) (q : Request) (n : Nonces),
      q.route = .reveal → (s.serve c q n).1.server = s) ∧
    ∀ (s s' : Server) (c c' : Circumstances) (q q' : Request) (n n' : Nonces) (u u' : NewUser)
      (key key' path : String), q.AsksToReveal u → q'.AsksToReveal u' →
      s.RevealsWith key → s'.RevealsWith key' → u.firstClosed? key = some path →
      u'.firstClosed? key' = some path →
      (s.serve c q n).1.response.sent.labelled c' = (s'.serve c' q' n').1.response.sent := by
  refine ⟨fun _ c _ n _ hq ↦ reveals_serve hq c n, fun s c _ n hroute ↦
    server_of_reveal hroute s c n, ?_⟩
  intro s s' c c' q q' n n' u u' key key' path hq hq' hs hs' hpath hpath'
  rw [sent_of_firstClosed hq hs hpath, sent_of_firstClosed hq' hs' hpath']
  rfl

theorem asksToReveal_posting {u : NewUser} (hsize : 24 * u.size + 480 ≤ bodyLimit) :
    (posting "/users/reveal" (Json.print u.json)).AsksToReveal u := by
  have hroute : Route.ofPath (Target.parse "/users/reveal").path = .reveal := by decide
  exact ⟨hroute, rfl, newUser_posting "/users/reveal" hsize⟩

/-- A new user whose address for mail has the form of an encrypted field, but is too short for one,
and who has a phone that is no encrypted field. -/
def forged : NewUser := ⟨"Eve", "v1.AAAAAAAAAAAAAAAA.AA", "", some "0", none⟩

/-- Ada is revealed from what was encrypted of her.  When she is posted in clear, the answer is that
to the forged new user, at a service with another key. -/
theorem reveal_exact_ada :
    (∃ hidden : NewUser, hidden.OpensTo "deadbeef" ada ∧
      ((revealing "deadbeef").serve ⟨"r1", "u1", ⟨0, 0⟩, 0⟩
        (posting "/users/reveal" (Json.print hidden.json)) ⟨fun _ ↦ .zero, 0⟩).1.response.body =
          answerText 200 "revealed" ada.json) ∧
    (((revealing "deadbeef").serve ⟨"r2", "u2", ⟨0, 0⟩, 0⟩
      (posting "/users/reveal" (Json.print ada.json)) ⟨fun _ ↦ .zero, 5⟩).1.response.sent.labelled
        ⟨"r3", "u3", ⟨1, 0⟩, 7⟩) =
    ((revealing "cafe").serve ⟨"r3", "u3", ⟨1, 0⟩, 7⟩
      (posting "/users/reveal" (Json.print forged.json)) ⟨fun _ ↦ .zero, 0⟩).1.response.sent ∧
    ((revealing "deadbeef").serve ⟨"r2", "u2", ⟨0, 0⟩, 0⟩
      (posting "/users/reveal" (Json.print ada.json)) ⟨fun _ ↦ .zero, 5⟩).1.server =
        revealing "deadbeef" := by
  have hkey : "deadbeef" ≠ "" := by decide
  have hs : (revealing "deadbeef").RevealsWith "deadbeef" := ⟨rfl, rfl, hkey⟩
  have hs' : (revealing "cafe").RevealsWith "cafe" := ⟨rfl, rfl, by decide⟩
  have hada := asksToReveal_posting (u := ada) (by decide)
  have hforged := asksToReveal_posting (u := forged) (by decide)
  refine ⟨?_, ?_, reveal_exact.2.1 _ _ _ _ hada.route⟩
  · obtain ⟨hidden, n₁, hhidden⟩ := NewUser.exists_encrypt hkey ada ⟨fun _ ↦ .zero, 0⟩
    have hopens : hidden.OpensTo "deadbeef" ada := by
      obtain ⟨n₃, hback⟩ := NewUser.decrypt_of_encrypt hkey hhidden n₁
      rcases NewUser.decrypt_cases hkey hidden with ⟨plain, hplain, -, hu⟩ | ⟨path, e, -, hu⟩
      · rw [hu] at hback
        obtain ⟨rfl, rfl⟩ := EStateM.Result.ok.inj hback
        exact hplain
      · rw [hu] at hback
        cases hback
    have hsize := NewUser.size_of_encrypt hkey hhidden
    have hada : ada.size = 29 := by decide
    have hlimit : bodyLimit = 2097152 := rfl
    have hposted := asksToReveal_posting (u := hidden) (by omega)
    exact ⟨hidden, hopens, ((reveal_exact.1 _ _ _ _ _ hposted).revealed _ _ hs hopens).1⟩
  · have hmail : ada.firstClosed? "deadbeef" = some "email" := by decide +kernel
    have hmail' : forged.firstClosed? "cafe" = some "email" := by decide +kernel
    exact reveal_exact.2.2 _ _ _ _ _ _ _ _ _ _ _ _ _ hada hforged hs hs' hmail hmail'

end Server

end Shroud.Accounts
