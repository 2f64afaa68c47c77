import Shroud.Accounts.Server
import Shroud.Proofs.Accounts.User
import Shroud.Proofs.Sealed.Concealer

/-!
# What the log holds can be revealed

`Server.reveal_logged` is the main statement: the line that the log holds of a new user in the body
of a request, posted as it is, brings the new user back.  The way from the new user to the answer
has six steps, and each of them has its own statement elsewhere: encryption, the text of what was
encrypted, and its way into the notice about the exchange; then the body that is read, decryption,
and the answer with what was revealed.
-/

set_option autoImplicit false

namespace Shroud.Accounts

variable {key : String} {u hidden : NewUser} {n n₁ : Nonces}

theorem bind_apply {σ α β : Type} (x : StateM σ α) (f : α → StateM σ β) (s : σ) :
    (x >>= f) s = f (x s).1 (x s).2 :=
  rfl

/-! ## The line of a new user -/

theorem NewUser.exists_encrypt (hkey : key ≠ "") (u : NewUser) (n : Nonces) :
    ∃ hidden n₁, Concealer.standard.encrypt u key n = .ok hidden n₁ := by
  refine Concealer.exists_encrypt hkey (fun e he ↦ ?_) n
  rw [u.events_root] at he
  obtain ⟨⟨path, t⟩, -, rfl⟩ := List.mem_map.mp he
  exact ⟨path, t, rfl⟩

theorem NewUser.decrypt_of_encrypt (hkey : key ≠ "")
    (h : Concealer.standard.encrypt u key n = .ok hidden n₁) (n₂ : Nonces) :
    ∃ n₃, Concealer.standard.decrypt hidden key n₂ = .ok u n₃ :=
  Concealer.decrypt_of_encrypt hkey (u.restorable .standard) h n₂

/-- Encryption makes a new user longer by no more than this. -/
theorem NewUser.size_of_encrypt (hkey : key ≠ "")
    (h : Concealer.standard.encrypt u key n = .ok hidden n₁) : hidden.size ≤ 9 * u.size + 300 := by
  obtain ⟨as, hrun, rfl⟩ := Concealer.eq_refill_of_encrypt hkey h
  have htotal := Concealer.totalLength_of_run hkey hrun
  have hlength := Pass.length_of_run _ hrun
  rw [u.contents_root] at htotal hlength
  rw [List.length_map] at hlength
  have hsize := u.size_refill_le hlength
  obtain ⟨hsecrets, hfew⟩ := u.secrets_le
  show (HasRoot.refill u ((HasRoot.root u).put .standard as)).size ≤ _
  omega

/-- The line of a new user fits into a body, unless their texts are very long. -/
theorem NewUser.length_line_le (hkey : key ≠ "")
    (h : Concealer.standard.encrypt u key n = .ok hidden n₁) :
    (Text.utf8 (Json.print hidden.json)).length ≤ 216 * u.size + 7680 := by
  have hsize := NewUser.size_of_encrypt hkey h
  have hbody := hidden.length_utf8_print_le
  omega

/-- The line of a new user is the JSON text of the encrypted one. -/
theorem NewUser.obscured_eq {slot : KeySlot} (hkey : slot.current ≠ "")
    (h : Concealer.standard.encrypt u slot.current n = .ok hidden n₁) :
    slot.obscured u n = (⟨some hidden.json.print, []⟩, n₁) := by
  have hempty : ¬ slot.current.isEmpty = true := mt String.isEmpty_iff.mp hkey
  rw [KeySlot.obscured, Concealer.obscured, if_neg hempty, h]
  simp only [Obscured.ofHidden, NewUser.logText_eq]

/-! ## Exchanges -/

namespace Server

variable {s : Server} {c : Circumstances} {q : Request}

theorem handle_users (hroute : q.route = .users) (hmethod : q.method = "POST")
    (hbody : q.newUser = .ok u) : s.handle c q = s.create c u := by
  rw [handle, hroute]
  simp only [doing, if_pos hmethod, withNewUser, hbody]

theorem handle_reveal (hroute : q.route = .reveal) (hmethod : q.method = "POST")
    (hbody : q.newUser = .ok u) : s.handle c q = s.reveal u := by
  rw [handle, hroute]
  simp only [doing, if_pos hmethod, withNewUser, hbody]

/-- Whether or not a new user is stored, the answer carries their line. -/
theorem requestLog_create {line : Obscured} (hline : s.slot.obscured u n = (line, n₁)) :
    (s.create c u n).1.response.requestLog = line.line := by
  rw [create, bind_apply, hline]
  cases u.problem? with
  | some p => rfl
  | none => rfl

/-- A new user whose parts can be decrypted is the data of the answer. -/
theorem response_reveal {k : LogKey} {plain : NewUser} (hkey : s.logKey = some k)
    (henabled : s.revealEnabled = true)
    (hplain : ∀ n, ∃ n₁, Concealer.standard.decrypt u k.text n = .ok plain n₁) (n : Nonces) :
    ∃ requestLog responseLog, (s.reveal u n).1.response =
      { Response.ofData 200 "revealed" plain with
        requestLog := requestLog, responseLog := responseLog } := by
  rw [reveal, bind_apply]
  cases s.slot.obscured u n with
  | mk line n₁ =>
  obtain ⟨n₂, hn₂⟩ := hplain n₁
  have hrevealed : u.revealed k.text n₁ = ((.ok plain, []), n₂) := by rw [NewUser.revealed, hn₂]
  simp only [henabled, hkey, Bool.not_true, Bool.false_eq_true, if_false, bind_apply, hrevealed]
  exact ⟨_, _, rfl⟩

theorem notices_serve (s : Server) (c : Circumstances) (q : Request) (n : Nonces) :
    (s.serve c q n).1.notices.getLast? = some (completed c q (s.handle c q n).1.response) :=
  List.getLast?_concat

/-- The answer that brings data, as a JSON value. -/
theorem body_ofData {α : Type} [HasDocument α] {x : α} {data : Json} {status : Nat}
    {message : String} (h : Document.ordered? (HasDocument.document x) = .ok data) :
    (Response.ofData status message x).body =
      Json.print (.map [("code", .number (.int status)), ("message", .text message),
        ("data", data)]) := by
  have hordered : Document.ordered? (members [("code", .number (.int status)),
      ("message", .text message), ("data", HasDocument.document x)]) =
      .ok (.map [("code", .number (.int status)), ("message", .text message),
        ("data", data)]) := by
    simp only [members, List.map_cons, List.map_nil, Document.ordered?, Document.orderedEntries?, h]
    rfl
  show bodyText (members [("code", .number (.int status)), ("message", .text message),
    ("data", HasDocument.document x)]) = _
  rw [bodyText, Document.text?, hordered]
  rfl

/-- The answer that brings a new user, as a JSON value. -/
theorem body_revealed (u : NewUser) :
    (Response.ofData 200 "revealed" u).body =
      Json.print (.map [("code", .number (.int 200)), ("message", .text "revealed"),
        ("data", u.json)]) :=
  body_ofData u.ordered?_document

/-- **What the log holds of a new user can be revealed.**  Let a new user `u`, whatever their texts
are, be posted while the log has a key that is not empty, and let any nonces be drawn.  Then, be the
new user stored or refused, the notice about the exchange holds a line for the body, which is the
text of the encrypted new user.  If this line is posted, as it is, to a service that may reveal and
has the same key, and is not too long for a body, then the answer has the status 200 and brings
`u`: reading its data gives the new user in every field. -/
theorem reveal_logged {s₁ : Server} {q₁ : Request} (hkey : key ≠ "")
    (hslot : s₁.slot.current = key) (hroute : q₁.route = .users) (hmethod : q₁.method = "POST")
    (hbody : q₁.newUser = .ok u) (c₁ : Circumstances) (n₁ : Nonces) :
    ∃ (hidden : NewUser) (n₁' : Nonces) (line : String) (notice : Notice),
      Concealer.standard.encrypt u key n₁ = .ok hidden n₁' ∧ logText hidden = .ok line ∧
      (s₁.serve c₁ q₁ n₁).1.notices.getLast? = some notice ∧
      notice.message = "request completed" ∧
      notice.members.lookup "request_body" = some (.text line) ∧
      ∀ (s₂ : Server) (c₂ : Circumstances) (q₂ : Request) (n₂ : Nonces),
        s₂.logKey = some ⟨key⟩ → s₂.revealEnabled = true →
        q₂.route = .reveal → q₂.method = "POST" → q₂.isJson = true →
        q₂.body = Text.utf8 line → q₂.body.length ≤ bodyLimit →
        (s₂.serve c₂ q₂ n₂).1.response.status = 200 ∧
        (s₂.serve c₂ q₂ n₂).1.response.body = (Response.ofData 200 "revealed" u).body ∧
        ∃ data : Json,
          Json.parse? (s₂.serve c₂ q₂ n₂).1.response.body =
            some (.map [("code", .number (.int 200)), ("message", .text "revealed"),
              ("data", data)]) ∧
          NewUser.ofDraft (.ofJson data) = .ok u := by
  subst hslot
  obtain ⟨hidden, n₁', hhidden⟩ := NewUser.exists_encrypt hkey u n₁
  have hline := NewUser.obscured_eq hkey hhidden
  have hrequestLog : (s₁.handle c₁ q₁ n₁).1.response.requestLog = some hidden.json.print := by
    rw [handle_users hroute hmethod hbody, requestLog_create hline]
  refine ⟨hidden, n₁', hidden.json.print, _, hhidden, hidden.logText_eq, notices_serve s₁ c₁ q₁ n₁,
    rfl, ?_, ?_⟩
  · show some (Tree.text ((s₁.handle c₁ q₁ n₁).1.response.requestLog.getD "")) = _
    rw [hrequestLog]
    rfl
  · intro s₂ c₂ q₂ n₂ hlogKey henabled hroute₂ hmethod₂ hjson hbody₂ hsize
    have hposted := Request.newUser_of_body hjson hbody₂ hsize
    obtain ⟨requestLog, responseLog, hresponse⟩ := response_reveal (u := hidden) hlogKey henabled
      (NewUser.decrypt_of_encrypt hkey hhidden) n₂
    rw [← handle_reveal (c := c₂) hroute₂ hmethod₂ hposted] at hresponse
    have hstatus : (s₂.serve c₂ q₂ n₂).1.response.status = 200 := by
      show (s₂.handle c₂ q₂ n₂).1.response.status = _
      rw [hresponse]
      rfl
    have hdata :
        (s₂.serve c₂ q₂ n₂).1.response.body = (Response.ofData 200 "revealed" u).body := by
      show (s₂.handle c₂ q₂ n₂).1.response.body = _
      rw [hresponse]
    refine ⟨hstatus, hdata, u.json, ?_, u.ofDraft_json⟩
    have hnumbers : Json.numbers (.map [("code", .number (.int 200)),
        ("message", .text "revealed"), ("data", u.json)]) = [.int 200] := by
      simp [Json.numbers, Json.entryNumbers, u.numbers_json]
    rw [hdata, body_revealed]
    refine Json.parse?_print _ fun n hn ↦ ?_
    rw [hnumbers, List.mem_singleton] at hn
    rw [hn]
    exact Number.readsBack_200

/-- A service that may reveal, with the key of the log, and without users. -/
def revealing (key : String) : Server :=
  ⟨.empty, "accounts", some ⟨key⟩, true, ⟨some ⟨key⟩⟩⟩

/-- Something posted as JSON. -/
def posting (target text : String) : Request :=
  ⟨"POST", .parse target, [("Content-Type", "application/json")], Text.utf8 text⟩

theorem isJson_posting (target text : String) : (posting target text).isJson = true := by
  have hempty : (posting "" "").isJson = true := by decide +kernel
  exact hempty

/-- A new user with quotes, an empty phone, a password that looks like an encrypted field, and a
name that is blank, so that the user is refused. -/
def trickyUser : NewUser :=
  ⟨" \t", "\"ada\"@x.org", "v1.AA.\n\u0001", some "", some ⟨"É 1", "\\", "0"⟩⟩

theorem reveal_logged_trickyUser :
    ∃ (line : String) (notice : Notice),
      ((revealing "deadbeef").serve ⟨"r1", "u1", ⟨0, 0⟩, 0⟩
        (posting "/users" (Json.print trickyUser.json)) ⟨fun _ ↦ .zero, 0⟩).1.notices.getLast? =
          some notice ∧
      notice.members.lookup "request_body" = some (.text line) ∧
      ((revealing "deadbeef").serve ⟨"r2", "u2", ⟨0, 0⟩, 0⟩ (posting "/users/reveal" line)
        ⟨fun _ ↦ .zero, 5⟩).1.response.status = 200 ∧
      ((revealing "deadbeef").serve ⟨"r2", "u2", ⟨0, 0⟩, 0⟩ (posting "/users/reveal" line)
        ⟨fun _ ↦ .zero, 5⟩).1.response.body = (Response.ofData 200 "revealed" trickyUser).body := by
  have hkey : "deadbeef" ≠ "" := by decide
  have hslot : (revealing "deadbeef").slot.current = "deadbeef" := rfl
  have hroute : Route.ofPath (Target.parse "/users/reveal").path = .reveal := by decide
  have hposted : (posting "/users" (Json.print trickyUser.json)).newUser = .ok trickyUser := by
    refine Request.newUser_of_body (isJson_posting _ _) rfl ?_
    exact Nat.le_trans trickyUser.length_utf8_print_le (by decide)
  obtain ⟨hidden, n₁, line, notice, hhidden, hline, hnotice, -, hbody, hreveal⟩ :=
    reveal_logged hkey hslot (by decide) rfl hposted ⟨"r1", "u1", ⟨0, 0⟩, 0⟩ ⟨fun _ ↦ .zero, 0⟩
  have hsize : (Text.utf8 line).length ≤ bodyLimit := by
    rw [hidden.logText_eq] at hline
    obtain rfl := Except.ok.inj hline
    exact Nat.le_trans (NewUser.length_line_le hkey hhidden) (by decide)
  obtain ⟨hstatus, hdata, -⟩ := hreveal (revealing "deadbeef") ⟨"r2", "u2", ⟨0, 0⟩, 0⟩
    (posting "/users/reveal" line) ⟨fun _ ↦ .zero, 5⟩ rfl rfl hroute rfl
    (isJson_posting _ line) rfl hsize
  exact ⟨line, notice, hnotice, hbody, hstatus, hdata⟩

end Server

end Shroud.Accounts
