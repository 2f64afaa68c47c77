import Shroud.Proofs.Accounts.Storage

/-!
# Requests that are handled together

Several requests may be on their way at once.  Each of them arrives, turns to the directory once, and
is answered from what the directory replied; in between, others may do the same (`System.Step`).

Whatever the order of these steps, the directory and the answers are those of a run in which the
requests are served one after another, in the order of their accesses (`System.isRun_of_leads`);
later steps only lengthen this run (`System.exchanges_prefix`).  So what holds after any run holds
here as well (`Server.consistent_together`).
-/

set_option autoImplicit false

namespace Shroud.Accounts

/-! ## Steps -/

/-- A request, and what comes from outside with it. -/
structure Visit where
  circumstances : Circumstances
  request : Request
  nonces : Nonces

namespace Visit

/-- What is asked of the directory. -/
def access (v : Visit) : Access := v.request.accessFor v.circumstances

/-- The answer of a service. -/
def answer (v : Visit) (s : Server) : Response :=
  (s.serve v.circumstances v.request v.nonces).1.response

end Visit

/-- A visit that has turned to the directory: the directory that it met there, and the answer, once
it is given. -/
structure Handled where
  visit : Visit
  met : Directory
  answer? : Option Response

/-- The visit as an exchange with a service that has the directory that the visit met. -/
def Handled.exchange (s : Server) (h : Handled) : Exchange :=
  ⟨h.visit.circumstances, h.visit.request, h.visit.answer (s.withDirectory h.met)⟩

/-- A service with the visits that wait for the directory and those that had their access, in the
order of the accesses. -/
structure System where
  server : Server
  waiting : List Visit
  handled : List Handled

namespace System

/-- A service that nobody has turned to. -/
def start (s : Server) : System := ⟨s, [], []⟩

/-- The visits that had their access, as exchanges. -/
def exchanges (t : System) : List Exchange := t.handled.map (Handled.exchange t.server)

/-- A request arrives, turns to the directory, or is answered.  The directory may have changed before
the answer is given: all that is known of the directory that was met is its reply, and the answer is
one that the service gives with some directory that replies so. -/
inductive Step : System → System → Prop where
  | arrive (t : System) (v : Visit) : Step t { t with waiting := t.waiting ++ [v] }
  | access {s : Server} {before after : List Visit} (v : Visit) {handled : List Handled} :
      Step ⟨s, before ++ v :: after, handled⟩
        ⟨s.withDirectory (s.directory.access v.access).2, before ++ after,
          handled ++ [⟨v, s.directory, none⟩]⟩
  | answer {s : Server} {waiting : List Visit} {before after : List Handled} (v : Visit)
      (met d : Directory) (h : (d.access v.access).1 = (met.access v.access).1) :
      Step ⟨s, waiting, before ++ ⟨v, met, none⟩ :: after⟩
        ⟨s, waiting, before ++ ⟨v, met, some (v.answer (s.withDirectory d))⟩ :: after⟩

/-- Any number of steps. -/
inductive Leads (t : System) : System → Prop where
  | refl : Leads t t
  | step {t₁ t₂ : System} (h : Leads t t₁) (hstep : Step t₁ t₂) : Leads t t₂

/-! ## The run behind the steps -/

/-- The visits that had their access make a run, and the answers that were given are those of the
run. -/
structure IsRun (s₀ : Server) (t : System) : Prop where
  served : Served s₀ t.exchanges t.server
  answered : ∀ h ∈ t.handled, ∀ r, h.answer? = some r → r = (h.exchange t.server).response

variable {s₀ : Server} {t t' : System}

/-- The step: an access lengthens the run by its exchange, and an answer is that of its exchange. -/
theorem isRun_step (h : IsRun s₀ t) (hstep : Step t t') : IsRun s₀ t' := by
  obtain ⟨hserved, hanswered⟩ := h
  cases hstep with
  | arrive v => exact ⟨hserved, hanswered⟩
  | @access s before after v handled =>
    have hserver := (Server.comesOf_serve v.circumstances v.request).server s v.nonces
    have hnext := hserved.snoc v.circumstances v.request v.nonces
    rw [hserver] at hnext
    refine ⟨?_, fun h hh r hr ↦ ?_⟩
    · rw [exchanges, List.map_append]
      exact hnext
    · rcases List.mem_append.mp hh with hh | hh
      · exact hanswered h hh r hr
      · obtain rfl := List.mem_singleton.mp hh
        cases hr
  | @answer s waiting before after v met d hreply =>
    refine ⟨?_, fun h hh r hr ↦ ?_⟩
    · rw [exchanges, List.map_append, List.map_cons] at hserved ⊢
      exact hserved
    · rcases List.mem_append.mp hh with hbefore | hh
      · exact hanswered h (List.mem_append_left _ hbefore) r hr
      rcases List.mem_cons.mp hh with rfl | hafter
      · rw [← Option.some.inj hr]
        exact (Server.comesOf_serve v.circumstances v.request).response (s.withDirectory met) d
          v.nonces hreply
      · exact hanswered h (List.mem_append_right _ (List.mem_cons_of_mem _ hafter)) r hr

/-- **Whatever the order of the steps, there is a run behind them.** -/
theorem isRun_of_leads (h : Leads (start s₀) t) : IsRun s₀ t := by
  induction h with
  | refl => exact ⟨.nil, nofun⟩
  | step _ hstep ih => exact isRun_step ih hstep

theorem exchanges_step (hstep : Step t t') : t.exchanges <+: t'.exchanges := by
  cases hstep with
  | arrive v => exact List.prefix_rfl
  | access v =>
    rw [exchanges, exchanges, List.map_append]
    exact List.prefix_append _ _
  | answer v met d h =>
    rw [exchanges, exchanges, List.map_append, List.map_append, List.map_cons, List.map_cons]
    exact List.prefix_rfl

/-- Later steps only lengthen the run. -/
theorem exchanges_prefix (h : Leads t t') : t.exchanges <+: t'.exchanges := by
  induction h with
  | refl => exact List.prefix_rfl
  | step _ hstep ih => exact ih.trans (exchanges_step hstep)

end System

namespace Server

variable {s₀ : Server}

/-- **The directory is consistent.**  A service starts without users.  Let any requests be served one
after another, and let no identifier be given to two of the users created.  Then the service is
`Consistent` with the answers given so far: after the whole run, and after each exchange of it, since
what comes before and the exchange are a run as well.

Let requests be handled together, each with its own access to the directory.  Then the visits that
had their access are such a run, in the order of the accesses, with the answers that were given;
later steps only add exchanges at the end. -/
theorem consistent_together (hempty : s₀.directory = .empty) :
    (∀ es s, Served s₀ es s → ((created es).map Exchange.userId).Nodup → Consistent es s) ∧
    (∀ before e after s, Served s₀ (before ++ e :: after) s → ∃ s₁ n, Served s₀ before s₁ ∧
      Served s₀ (before ++ [e]) (s₁.serve e.circumstances e.request n).1.server ∧
      e.response = (s₁.serve e.circumstances e.request n).1.response) ∧
    (∀ t, System.Leads (.start s₀) t → System.IsRun s₀ t ∧
      (((created t.exchanges).map Exchange.userId).Nodup → Consistent t.exchanges t.server) ∧
      ∀ t', System.Leads t t' → t.exchanges <+: t'.exchanges) := by
  refine ⟨fun es s h hids ↦ consistent_of_served hempty h hids, fun before e after s h ↦ ?_,
    fun t h ↦ ?_⟩
  · obtain ⟨s₁, n, hbefore, hresponse⟩ := exists_of_served h rfl
    refine ⟨s₁, n, hbefore, ?_, hresponse⟩
    have hnext := hbefore.snoc e.circumstances e.request n
    rwa [← hresponse] at hnext
  · have hrun := System.isRun_of_leads h
    exact ⟨hrun, fun hids ↦ consistent_of_served hempty hrun.served hids,
      fun t' ht' ↦ System.exchanges_prefix ht'⟩

/-- Ada is created, and then somebody else is looked up; after that, Ada is found. -/
theorem consistent_together_ada :
    ∃ es s, Served (revealing "deadbeef") es s ∧ es.length = 2 ∧
      (created es).map Exchange.userId = ["u1"] ∧ s.directory.size = 1 ∧
      ∀ c n, (s.serve c (getting "/users/%751") n).1.response.body =
        answerText 200 "ok" (User.ofNewUser "u1" ada ⟨0, 0⟩).json := by
  have hposted := newUser_posting (u := ada) "/users" (by decide)
  have hinsert := accessFor_posting (u := ada) (by decide) (by decide) ⟨"r1", "u1", ⟨0, 0⟩, 0⟩
  have hlookup : (getting "/users/u2").accessFor ⟨"r2", "u2", ⟨0, 0⟩, 0⟩ = .lookup "u2" := by
    decide +kernel
  have hserved : ∃ r₁ r₂ s, Served (revealing "deadbeef")
      [⟨⟨"r1", "u1", ⟨0, 0⟩, 0⟩, posting "/users" (Json.print ada.json), r₁⟩,
        ⟨⟨"r2", "u2", ⟨0, 0⟩, 0⟩, getting "/users/u2", r₂⟩] s :=
    ⟨_, _, _, (Served.nil.snoc ⟨"r1", "u1", ⟨0, 0⟩, 0⟩ (posting "/users" (Json.print ada.json))
      ⟨fun _ ↦ .zero, 0⟩).snoc ⟨"r2", "u2", ⟨0, 0⟩, 0⟩ (getting "/users/u2") ⟨fun _ ↦ .zero, 0⟩⟩
  obtain ⟨r₁, r₂, s, hserved⟩ := hserved
  have hfirst : Exchange.creates _ = true :=
    (creates_of_served hserved List.mem_cons_self).trans (by rw [Exchange.user?, hinsert]; rfl)
  have hsecond : ¬ Exchange.creates _ = true := fun h ↦ by
    rw [creates_of_served hserved (List.mem_cons_of_mem _ List.mem_cons_self), Exchange.user?,
      hlookup] at h
    cases h
  have hcreated := (List.filter_cons_of_pos hfirst).trans
    (congrArg _ (List.filter_cons_of_neg (l := []) hsecond))
  change created _ = [_] at hcreated
  have hempty : (revealing "deadbeef").directory = .empty := rfl
  have hconsistent := (consistent_together hempty).1 _ _ hserved
    (by rw [hcreated]; exact List.pairwise_singleton _ _)
  refine ⟨_, _, hserved, rfl, by rw [hcreated]; rfl, by rw [hconsistent.size, hcreated]; rfl,
    fun c n ↦ ?_⟩
  have hid : Request.identifier "%751".toList = .ok "u1" := by
    have hbytes : Text.ofUtf8? (percentDecoded "%751".toList) = some "u1" := by decide +kernel
    rw [Request.identifier, hbytes]
  obtain ⟨u, hu, -, hfound⟩ := hconsistent.found _ (hcreated ▸ List.mem_cons_self)
  obtain rfl := Except.ok.inj (hposted.symm.trans hu)
  exact (hfound (getting "/users/%751") c n ⟨rfl, "%751".toList, by decide, by decide, by decide,
    by decide, hid⟩).2

end Server

end Shroud.Accounts
