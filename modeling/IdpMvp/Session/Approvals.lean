import IdpMvp.Session.Resumption

/-!
# Approvals

A user's consent to a client is one row, and every approval writes the scopes of its request over those
before it. So an approval counts for later requests as long as each later one for the same client includes
it, and what it leaves out is asked for again until an approval includes that: `approval_covers`.
-/

namespace IdpMvp

open Program Program.Prog Program.Flow IdpMvp.Prog

variable {D : Deploy} {s s' : Store} {tenantId : TenantId} {userId : Uuid} {clientId : String}
variable {scopes : List String} {P : List String → Prop}

/-! ## The row -/

/-- The user's consent to the client is there, and its scopes are as the predicate says. -/
def Recorded (D : Deploy) (tenantId : TenantId) (userId : Uuid) (clientId : String)
    (P : List String → Prop) (s : Store) : Prop :=
  ∃ consent, s.consents.find? (·.hasKey D tenantId userId clientId) = some consent ∧ P consent.scopes

/-- Rewriting scopes keeps the keys of the rows. -/
lemma find?_rewrite (rows : List ClientConsent) (p : ClientConsent → Bool) (written : List String) :
    (rows.map fun r => if p r then { r with scopes := written } else r).find?
        (·.hasKey D tenantId userId clientId) =
      (rows.find? (·.hasKey D tenantId userId clientId)).map fun r =>
        if p r then { r with scopes := written } else r := by
  rw [List.find?_map]
  congr 2
  funext r
  simp only [Function.comp]
  split <;> rfl

lemma hasKey_congr {c : ClientConsent} (key : c.hasKey D tenantId userId clientId = true)
    (r : ClientConsent) :
    r.hasKey D c.tenantId c.userId c.clientId = r.hasKey D tenantId userId clientId := by
  obtain ⟨rfl, rfl, client⟩ := of_decide_eq_true key
  unfold ClientConsent.hasKey
  rw [client]

lemma hasKey_excl {c r : ClientConsent} (other : c.hasKey D tenantId userId clientId = false)
    (key : r.hasKey D tenantId userId clientId = true) :
    r.hasKey D c.tenantId c.userId c.clientId = false := by
  obtain ⟨rfl, rfl, client⟩ := of_decide_eq_true key
  refine decide_eq_false fun same => of_decide_eq_false other ?_
  exact ⟨same.1.symm, same.2.1.symm, same.2.2.symm.trans client⟩

/-- An approval writes its scopes to the row of its key, -/
lemma upsert_row {c : ClientConsent} (written : (ConsentStmt.upsert c).exec D s = (.ok (), s'))
    (key : c.hasKey D tenantId userId clientId = true) :
    ∃ r, s'.consents.find? (·.hasKey D tenantId userId clientId) = some r ∧ r.scopes = c.scopes := by
  simp only [ConsentStmt.exec, hasKey_congr key] at written
  split_ifs at written with _ there
  · cases written
  · obtain ⟨-, rfl⟩ := Prod.mk.inj written
    obtain ⟨r, row⟩ := Option.isSome_iff_exists.mp (List.find?_isSome.mpr (List.any_eq_true.mp there))
    rw [find?_rewrite, row, Option.map_some, if_pos (List.find?_some row)]
    exact ⟨_, rfl, rfl⟩
  · obtain ⟨-, rfl⟩ := Prod.mk.inj written
    rw [List.find?_append, List.find?_eq_none.mpr (by simpa using there), Option.none_or,
      List.find?_cons_of_pos key]
    exact ⟨c, rfl, rfl⟩

/-- and leaves the others. -/
lemma upsert_others {c : ClientConsent} {r : DbResult Unit}
    (written : (ConsentStmt.upsert c).exec D s = (r, s'))
    (other : c.hasKey D tenantId userId clientId = false) :
    s'.consents.find? (·.hasKey D tenantId userId clientId) =
      s.consents.find? (·.hasKey D tenantId userId clientId) := by
  simp only [ConsentStmt.exec] at written
  split_ifs at written
  · obtain ⟨-, rfl⟩ := Prod.mk.inj written
    rfl
  · obtain ⟨-, rfl⟩ := Prod.mk.inj written
    rw [find?_rewrite]
    cases row : s.consents.find? (·.hasKey D tenantId userId clientId) with
    | none => rfl
    | some r =>
      have apart := hasKey_excl other (List.find?_some row)
      rw [Option.map_some, apart, if_neg Bool.false_ne_true]
  · obtain ⟨-, rfl⟩ := Prod.mk.inj written
    rw [List.find?_append, List.find?_cons_of_neg (by rw [other]; exact Bool.false_ne_true), List.find?_nil,
      Option.or_none]

/-! ## Approvals in runs -/

/-- The event is the approval of scopes for the user and the client: the auth session it names is that of
the user, unexpired and for the client. -/
structure ApprovalOf (D : Deploy) (tenantId : TenantId) (userId : Uuid) (clientId : String)
    (scopes : List String) (e : Event FlowCall Input Store) (authSessionId : String) (a : AuthSession) :
    Prop where
  call : e.call = .approve tenantId authSessionId
  session : (e.pre.authSessions.find? fun a => D.coll a.id = D.coll authSessionId ∧
    a.tenantId = tenantId) = some a
  unexpired : a.isExpiredAt (e.ins 0).now = false
  user : a.authenticatedUserId = some userId
  time : a.authTime.isSome = true
  client : D.coll a.clientId = D.coll clientId
  scope : a.scope = scopes

/-- The approval was answered with a code. -/
def Approved (D : Deploy) (tenantId : TenantId) (userId : Uuid) (clientId : String)
    (scopes : List String) (e : Event FlowCall Input Store) : Prop :=
  ∃ authSessionId a location, ApprovalOf D tenantId userId clientId scopes e authSessionId a ∧
    ((approve D tenantId authSessionId).run (exec D) e.ins e.pre).1 = .approved location

/-- What `approve` does to the consents: it writes the scopes of its auth session, or nothing. -/
inductive ApproveWrites (D : Deploy) (tenantId : TenantId) (authSessionId : String) (now : DateTime)
    (s : Store) : ConsentOutcome → Store → Prop where
  | kept {r : ConsentOutcome} {s' : Store} (consents : s'.consents = s.consents)
    (refused : ∀ location, r ≠ .approved location) : ApproveWrites D tenantId authSessionId now s r s'
  | written {r : ConsentOutcome} {s₁ s' : Store} {a : AuthSession} {userId : Uuid} {authTime : DateTime}
    (session : (s.authSessions.find? fun a => D.coll a.id = D.coll authSessionId ∧
      a.tenantId = tenantId) = some a)
    (unexpired : a.isExpiredAt now = false) (user : a.authenticatedUserId = some userId)
    (time : a.authTime = some authTime)
    (upsert : (ConsentStmt.upsert ⟨userId, tenantId, a.clientId, a.scope⟩).exec D s = (.ok (), s₁))
    (consents : s'.consents = s₁.consents) : ApproveWrites D tenantId authSessionId now s r s'

/-- The row a service has loaded, or its outcome without one. -/
lemma loadAuthSession_row {ε : Type} {sessionId : String} {now : DateTime} {expired : ε}
    {internal : String → ε} :
    alwaysE (exec D) (loadAuthSession tenantId sessionId now expired internal) s
      (fun a s' => s' = s ∧ (s.authSessions.find? fun a => D.coll a.id = D.coll sessionId ∧
        a.tenantId = tenantId) = some a ∧ a.isExpiredAt now = false)
      (fun e s' => s'.consents = s.consents ∧ (e = expired ∨ ∃ detail, e = internal detail)) := by
  unfold loadAuthSession
  refine read_step (fun _ => rfl) (fun _ => ⟨rfl, .inr ⟨_, rfl⟩⟩) fun _ => ?_
  refine found_step (fun _ => ⟨rfl, .inl rfl⟩) fun a row => ?_
  refine ensureOr_step (fun _ => ?_) fun unexpired => ?_
  · simp [op, always_db, Stmt.exec, AuthSessionStmt.exec]
  · exact ⟨rfl, row, by simpa using unexpired⟩

lemma approve_writes (D : Deploy) (tenantId : TenantId) (authSessionId : String) (ins : Nat → Input)
    (s : Store) :
    (approve D tenantId authSessionId).wp (exec D) ins s (fun r s' _ =>
      ApproveWrites D tenantId authSessionId (ins 0).now s r s') := by
  unfold approve
  rw [wp_outcome]
  refine wpE_clock_step ?_
  refine alwaysE.wpE ?_
  generalize (ins 0).now = now
  refine alwaysE_bind_of loadAuthSession_row ?_ ?_
  · rintro _ s' ⟨kept, rfl | ⟨detail, rfl⟩⟩
    · exact .kept kept (by rintro _ ⟨⟩)
    · exact .kept kept (by rintro _ ⟨⟩)
  rintro a s ⟨rfl, session, unexpired⟩
  refine found_step (fun _ => .kept rfl (by rintro _ ⟨⟩)) fun userId user => ?_
  refine found_step (fun _ => .kept rfl (by rintro _ ⟨⟩)) fun authTime time => ?_
  refine write_step (fun _ => .kept rfl (by rintro _ ⟨⟩)) (fun _ e s' fails => ?_) fun _ _ s₁ upsert => ?_
  · refine .kept ?_ (by rintro _ ⟨⟩)
    simp only [Stmt.exec, ConsentStmt.exec] at fails
    split_ifs at fails
    · exact congrArg Store.consents (Prod.mk.inj fails).2.symm
    · cases fails
    · cases fails
  · rw [alwaysE_bind, alwaysE_orLeave]
    refine issueCode_always (fun _ => ⟨by rintro _ ⟨⟩, fun _ _ => ?_⟩) fun code at' =>
      ⟨fun _ _ => ?_, by rintro _ ⟨⟩⟩
    · exact .written session unexpired user time upsert rfl
    · refine lift_step ?_
      simp only [op, always_db, Stmt.exec, AuthSessionStmt.exec, always_ret, alwaysE_pure]
      exact ⟨fun _ => .written session unexpired user time upsert rfl,
        fun _ => .written session unexpired user time upsert rfl⟩

/-! Every other call of a flow leaves the consents alone. -/

lemma SessionEnd.consents {ctx : RequestContext} {now : DateTime} {Pending Done : AuthSession → User → Prop}
    (h : SessionEnd D tenantId ctx now Pending Done s s') : s'.consents = s.consents := by
  cases h with
  | refused kept => exact kept.consents
  | pending same => exact same.consents
  | done same session row evidence completed => exact completed.consents.trans same.consents

lemma AuthorizeEnd.consents {req : AuthorizeRequest} {outcome : AuthorizeOutcome}
    (h : AuthorizeEnd D tenantId req s outcome s') : s'.consents = s.consents := by
  cases h <;> rfl

lemma FlowCall.run_consents {c : FlowCall} (other : ∀ tenantId id, c ≠ .approve tenantId id)
    (ins : Nat → Input) (s : Store) : (c.run D ins s).consents = s.consents := by
  cases c with
  | authorize tenantId req => exact (authorize_always.run ins).consents
  | login tenantId cmd ctx => exact (login_end cmd ins).consents
  | mfaVerify tenantId cmd ctx => exact (mfaVerify_end cmd ins).consents
  | changePassword tenantId cmd ctx => exact (changePassword_end cmd ins).consents
  | passkeyComplete tenantId challengeId credentialValue ctx =>
    exact (passkeyComplete_end challengeId credentialValue ins).consents
  | approve tenantId authSessionId => exact absurd rfl (other tenantId authSessionId)
  | deny tenantId authSessionId => exact (deny_end authSessionId ins).consents

/-- An approval of the key writes the row; -/
lemma Approved.recorded {e : Event FlowCall Input Store} (h : Approved D tenantId userId clientId scopes e)
    (holds : P scopes) : Recorded D tenantId userId clientId P (e.post (FlowCall.run D)) := by
  obtain ⟨authSessionId, a, location, approval, approved⟩ := h
  have writes := wp_iff_run.mp (approve_writes D tenantId authSessionId e.ins e.pre)
  rw [Event.post, approval.call]
  cases writes with
  | kept consents refused => exact absurd approved (refused location)
  | written session unexpired user time upsert consents =>
    obtain rfl := Option.some.inj (session.symm.trans approval.session)
    obtain rfl := Option.some.inj (user.symm.trans approval.user)
    obtain ⟨r, row, same⟩ := upsert_row upsert (decide_eq_true ⟨rfl, rfl, approval.client⟩)
    refine ⟨r, ?_, ?_⟩
    · rw [← row, ← consents]
      rfl
    · rwa [same, approval.scope]

/-- every other call keeps it, and another approval of the key writes its own scopes. -/
lemma Recorded.step {e : Event FlowCall Input Store} (recorded : Recorded D tenantId userId clientId P e.pre)
    (later : ∀ authSessionId a scopes', ApprovalOf D tenantId userId clientId scopes' e authSessionId a →
      P scopes') :
    Recorded D tenantId userId clientId P (e.post (FlowCall.run D)) := by
  have kept : ∀ {s' : Store}, s'.consents = e.pre.consents → Recorded D tenantId userId clientId P s' := by
    intro s' same
    rwa [Recorded, same]
  by_cases approves : ∃ t id, e.call = .approve t id
  · obtain ⟨t, authSessionId, call⟩ := approves
    have writes := wp_iff_run.mp (approve_writes D t authSessionId e.ins e.pre)
    rw [Event.post, call]
    cases writes with
    | kept consents refused => exact kept consents
    | @written _ _ a u authTime session unexpired user time upsert consents =>
      by_cases key : ClientConsent.hasKey D tenantId userId clientId ⟨u, t, a.clientId, a.scope⟩ = true
      · -- The approval is one of the key.
        obtain ⟨rfl, rfl, client⟩ := of_decide_eq_true key
        have approval : ApprovalOf D t u clientId a.scope e authSessionId a :=
          ⟨call, session, unexpired, user, Option.isSome_iff_exists.mpr ⟨_, time⟩, client, rfl⟩
        obtain ⟨r, row, same⟩ := upsert_row upsert key
        refine ⟨r, ?_, ?_⟩
        · rw [← row, ← consents]
          rfl
        · rw [same]
          exact later _ _ _ approval
      · obtain ⟨r, row, holds⟩ := recorded
        refine ⟨r, ?_, holds⟩
        rw [← row, ← upsert_others upsert (Bool.not_eq_true _ ▸ key), ← consents]
        rfl
  · exact kept (FlowCall.run_consents (fun t id call => approves ⟨t, id, call⟩) e.ins e.pre)

/-! ## Runs -/

/-- What happens besides leaves the user's consent to the client alone: it is not revoked. -/
def ConsentStays (D : Deploy) (tenantId : TenantId) (userId : Uuid) (clientId : String) (s s' : Store) : Prop :=
  s'.consents.find? (·.hasKey D tenantId userId clientId) =
    s.consents.find? (·.hasKey D tenantId userId clientId)

/-- Runs of the flows from any store, in which the user revokes nothing. -/
abbrev ConsentRuns (D : Deploy) (tenantId : TenantId) (userId : Uuid) (clientId : String) :
    List (Event FlowCall Input Store) → Store → Prop :=
  Runs (FlowCall.run D) (fun _ => True) (ConsentStays D tenantId userId clientId) (fun _ _ => True)

section
variable {es before after : List (Event FlowCall Input Store)} {e : Event FlowCall Input Store}

/-- The scopes of every later approval of the key are as the predicate says. -/
def Approvals (D : Deploy) (tenantId : TenantId) (userId : Uuid) (clientId : String)
    (P : List String → Prop) (after : List (Event FlowCall Input Store)) : Prop :=
  ∀ e ∈ after, ∀ authSessionId a scopes', ApprovalOf D tenantId userId clientId scopes' e authSessionId a →
    P scopes'

/-- What holds of an approval and of all that follow it holds of the row. -/
lemma ConsentRuns.recorded (run : ConsentRuns D tenantId userId clientId es s)
    (split : es = before ++ e :: after) (approved : Approved D tenantId userId clientId scopes e)
    (holds : P scopes) (later : Approvals D tenantId userId clientId P after) :
    Recorded D tenantId userId clientId P s := by
  refine run.invariant (I := fun es s => ∀ after, es = before ++ e :: after →
    Approvals D tenantId userId clientId P after → Recorded D tenantId userId clientId P s)
    ?_ ?_ ?_ after split later
  · intro s _ after split
    simp at split
  · intro es s s' recorded stays after split later
    obtain ⟨r, row, holds⟩ := recorded after split later
    exact ⟨r, stays.trans row, holds⟩
  · intro es s c ins recorded _ after split later
    obtain ⟨rfl, rfl⟩ | ⟨rest, rfl, earlier⟩ := snoc_split split
    · exact approved.recorded holds
    · refine Recorded.step (e := ⟨c, ins, s⟩) (recorded rest earlier ?_) ?_
      · exact fun e mem => later e (List.mem_append_left _ mem)
      · exact later _ (List.mem_append_right _ (List.mem_singleton_self _))

/-- A consent with the scopes of a request is found; -/
lemma Recorded.found {scope : List String}
    (recorded : Recorded D tenantId userId clientId (fun approved => ∀ x ∈ scopes, x ∈ approved) s)
    (asks : ∀ x ∈ scope, x = "openid" ∨ x ∈ scopes) : ConsentFound D s tenantId userId clientId scope := by
  obtain ⟨consent, row, includes⟩ := recorded
  refine .inr ⟨consent, row, ?_⟩
  refine List.all_eq_true.mpr fun x mem => ?_
  obtain ⟨mem, needed⟩ := List.mem_filter.mp mem
  exact List.contains_iff_mem.mpr (includes x ((asks x mem).resolve_left (of_decide_eq_true needed)))

/-- one without a scope of it is not. -/
lemma Recorded.not_found {scope : List String} {x : String}
    (recorded : Recorded D tenantId userId clientId (x ∉ ·) s) (asked : x ∈ scope) (needed : x ≠ "openid") :
    ¬ ConsentFound D s tenantId userId clientId scope := by
  have mem : x ∈ scopesNeedingConsent scope := List.mem_filter.mpr ⟨asked, decide_eq_true needed⟩
  obtain ⟨consent, row, without⟩ := recorded
  rintro (none | ⟨consent', row', covers⟩)
  · exact List.not_mem_nil (none ▸ mem)
  · obtain rfl := Option.some.inj (row.symm.trans row')
    exact without (List.contains_iff_mem.mp (List.all_eq_true.mp covers x mem))

/-- Once a user has approved scopes for a client, and as long as every later approval for the client
includes them, no request of the user's browser for these scopes and `openid` asks for a consent again,
unless it forces one. A scope that is not among them, whatever was approved before, is asked for again as
long as no later approval includes it. -/
theorem approval_covers {now : DateTime} {req : AuthorizeRequest} {f : AuthorizeFlow} {x : SsoSession}
    {ins : Nat → Input} (run : ConsentRuns D tenantId userId clientId es s)
    (split : es = before ++ e :: after) (approved : Approved D tenantId userId clientId scopes e)
    (request : SsoRequest D s tenantId now req f x) (user : x.userId = userId)
    (client : D.coll f.client.clientId = D.coll clientId) (unforced : req.prompt ≠ some "consent")
    (calm : Unhindered D s now ins) :
    (Approvals D tenantId userId clientId (fun later => ∀ scope ∈ scopes, scope ∈ later) after →
      (∀ scope ∈ req.scopes, scope = "openid" ∨ scope ∈ scopes) →
      ¬ ((authorize D tenantId req).run (exec D) ins s).1.AsksConsent D f) ∧
    ∀ scope ∈ req.scopes, scope ≠ "openid" → scope ∉ scopes →
      Approvals D tenantId userId clientId (scope ∉ ·) after → Young req (now - x.authTime) →
      ((authorize D tenantId req).run (exec D) ins s).1.AsksConsent D f := by
  obtain ⟨resumes, asks⟩ := wp_iff_run.mp (authorize_unhindered calm request)
  have scope : f.scope = req.scopes := congrArg AuthorizeFlow.scope request.valid.flow
  have same : ConsentFound D s tenantId x.userId f.client.clientId f.scope ↔
      ConsentFound D s tenantId userId clientId req.scopes := by
    unfold ConsentFound ClientConsent.hasKey
    rw [scope, user, client]
  refine ⟨fun later within consent => ?_, fun scope asked needed without later young => ?_⟩
  · have young := resumes.mp (.inr consent)
    have recorded := run.recorded split approved (fun _ mem => mem) later
    exact (asks young unforced).mp consent (same.mpr (recorded.found within))
  · have recorded := run.recorded split approved without later
    exact (asks young unforced).mpr (mt same.mp (recorded.not_found asked needed))

end

namespace Sample

/-- An auth session on which Alice is authenticated. -/
def consentSession (b : UInt8) (scope : List String) : AuthSession :=
  { authSession with
    id := sessionId b
    scope := scope
    authenticatedUserId := some aliceId
    authTime := some Sample.now }

/-- Alice has logged in and is asked for three consents. -/
def askedStore : Store :=
  { ssoStore Sample.now with
    consents := []
    authSessions :=
      [consentSession 7 ["openid", "profile"], consentSession 8 ["openid", "offline_access"],
        consentSession 9 ["openid", "profile", "offline_access"]] }

def firstApproval : Event FlowCall Input Store := eventOf (.approve tenantA (sessionId 7)) 2 askedStore

/-- Next she approves other scopes, -/
def otherApproval : Event FlowCall Input Store :=
  eventOf (.approve tenantA (sessionId 8)) 3 (firstApproval.post (FlowCall.run deploy))

/-- or more of them. -/
def widerApproval : Event FlowCall Input Store :=
  eventOf (.approve tenantA (sessionId 9)) 3 (firstApproval.post (FlowCall.run deploy))

def profileRequest : AuthorizeRequest := { authorizeRequest with ssoSessionId := some (sessionId 5) }

end Sample

section
open Sample

lemma approvals_run (e : Event FlowCall Input Store) (next : e.pre = firstApproval.post (FlowCall.run deploy)) :
    ConsentRuns deploy tenantA aliceId "app" [firstApproval, e] (e.post (FlowCall.run deploy)) := by
  have start : ConsentRuns deploy tenantA aliceId "app" [] firstApproval.pre := .start trivial
  have first := start.post firstApproval trivial
  rw [← next] at first
  exact first.post e trivial

/-- The approvals, run, and the request for the first one's scopes after the one of others. -/
lemma approvals_answer :
    (firstApproval.pre.authSessions.find? fun a =>
        deploy.coll a.id = deploy.coll (sessionId 7) ∧ a.tenantId = tenantA) =
      some (consentSession 7 ["openid", "profile"]) ∧
    ((approve deploy tenantA (sessionId 7)).run (exec deploy) firstApproval.ins firstApproval.pre).1 =
      .approved (codeRedirect deploy "https://app.example.com/cb" (plainToken 2) "s1") ∧
    (otherApproval.pre.authSessions.find? fun a =>
        deploy.coll a.id = deploy.coll (sessionId 8) ∧ a.tenantId = tenantA) =
      some (consentSession 8 ["openid", "offline_access"]) ∧
    ((approve deploy tenantA (sessionId 8)).run (exec deploy) otherApproval.ins otherApproval.pre).1 =
      .approved (codeRedirect deploy "https://app.example.com/cb" (plainToken 3) "s1") ∧
    (widerApproval.pre.authSessions.find? fun a =>
        deploy.coll a.id = deploy.coll (sessionId 9) ∧ a.tenantId = tenantA) =
      some (consentSession 9 ["openid", "profile", "offline_access"]) ∧
    ((authorize deploy tenantA profileRequest).run (exec deploy) (fun _ => input 4)
      (otherApproval.post (FlowCall.run deploy))).1 = .consentRequired (sessionId 4) := by
  decide +kernel

/-- What the approvals leave. -/
lemma approvals_left : ∀ e ∈ [otherApproval, widerApproval],
    profileRequest.client deploy (e.post (FlowCall.run deploy)) tenantA = some agedFlow.client ∧
    (e.post (FlowCall.run deploy)).ssoSessions.find? (·.sessionHash = deploy.sha256Hex (sessionId 5)) =
      some (ssoSession Sample.now) ∧
    (e.post (FlowCall.run deploy)).users.find? (·.id = (ssoSession Sample.now).userId) = some alice ∧
    (e.post (FlowCall.run deploy)).isActiveMember tenantA (ssoSession Sample.now).userId = true ∧
    (∀ c ∈ (e.post (FlowCall.run deploy)).codes,
      c.codeHash ≠ deploy.sha256Hex (base64Url ((input 4).bytes 32))) ∧
    (∀ a ∈ (e.post (FlowCall.run deploy)).authSessions,
      deploy.coll a.id ≠ deploy.coll (hexEncode ((input 4).bytes 32))) := by
  decide +kernel

lemma firstApproval_approved : Approved deploy tenantA aliceId "app" ["openid", "profile"] firstApproval :=
  ⟨sessionId 7, consentSession 7 ["openid", "profile"],
    codeRedirect deploy "https://app.example.com/cb" (plainToken 2) "s1",
    ⟨rfl, approvals_answer.1, rfl, rfl, rfl, rfl, rfl⟩, approvals_answer.2.1⟩

lemma otherApproval_approved :
    Approved deploy tenantA aliceId "app" ["openid", "offline_access"] otherApproval :=
  ⟨sessionId 8, consentSession 8 ["openid", "offline_access"],
    codeRedirect deploy "https://app.example.com/cb" (plainToken 3) "s1",
    ⟨rfl, approvals_answer.2.2.1, rfl, rfl, rfl, rfl, rfl⟩, approvals_answer.2.2.2.1⟩

/-- The second approval includes the first. -/
lemma widerApproval_includes : Approvals deploy tenantA aliceId "app"
    (fun later => ∀ scope ∈ ["openid", "profile"], scope ∈ later) [widerApproval] := by
  intro e mem authSessionId a scopes' approval
  obtain rfl := List.mem_singleton.mp mem
  obtain ⟨-, rfl⟩ := FlowCall.approve.inj approval.call
  obtain rfl := Option.some.inj (approvals_answer.2.2.2.2.1.symm.trans approval.session)
  rw [← approval.scope]
  decide

set_option maxRecDepth 8000 in
/-- The second approval takes the first one back. -/
theorem approval_overwritten :
    ConsentRuns deploy tenantA aliceId "app" [firstApproval, otherApproval]
      (otherApproval.post (FlowCall.run deploy)) ∧
    Approved deploy tenantA aliceId "app" ["openid", "profile"] firstApproval ∧
    Approved deploy tenantA aliceId "app" ["openid", "offline_access"] otherApproval ∧
    profileRequest.scopes = ["openid", "profile"] ∧
    ((authorize deploy tenantA profileRequest).run (exec deploy) (fun _ => input 4)
      (otherApproval.post (FlowCall.run deploy))).1 = .consentRequired (sessionId 4) :=
  ⟨approvals_run otherApproval rfl, firstApproval_approved, otherApproval_approved, by decide +kernel,
    approvals_answer.2.2.2.2.2⟩

lemma profileRequest_sso {e : Event FlowCall Input Store} (mem : e ∈ [otherApproval, widerApproval]) :
    SsoRequest deploy (e.post (FlowCall.run deploy)) tenantA Sample.now profileRequest agedFlow
      (ssoSession Sample.now) where
  valid := ⟨⟨(approvals_left e mem).1, rfl, rfl, List.mem_singleton_self _⟩,
    show validateRequest authorizeRequest agedFlow.client = .ok () by decide +kernel, rfl⟩
  session := ⟨sessionId 5, rfl, (approvals_left e mem).2.1, rfl,
    ⟨alice, (approvals_left e mem).2.2.1, rfl, rfl⟩, (approvals_left e mem).2.2.2.1⟩
  unforced := nofun
  told := nofun

lemma approvals_unhindered {e : Event FlowCall Input Store} (mem : e ∈ [otherApproval, widerApproval]) :
    Unhindered deploy (e.post (FlowCall.run deploy)) Sample.now (fun _ => input 4) where
  quiet _ := rfl
  clock _ := rfl
  codes _ := (approvals_left e mem).2.2.2.2.1
  authSessions _ := (approvals_left e mem).2.2.2.2.2

/-- After an approval of more scopes the first ones are not asked for again, after one of others they
are. -/
theorem approval_covers_sample :
    ¬ ((authorize deploy tenantA profileRequest).run (exec deploy) (fun _ => input 4)
      (widerApproval.post (FlowCall.run deploy))).1.AsksConsent deploy agedFlow ∧
    ((authorize deploy tenantA profileRequest).run (exec deploy) (fun _ => input 4)
      (otherApproval.post (FlowCall.run deploy))).1.AsksConsent deploy agedFlow := by
  have wider : widerApproval ∈ [otherApproval, widerApproval] := .tail _ (.head _)
  have other : otherApproval ∈ [otherApproval, widerApproval] := .head _
  have client : deploy.coll agedFlow.client.clientId = deploy.coll "app" := rfl
  have within : ∀ scope ∈ profileRequest.scopes, scope = "openid" ∨ scope ∈ ["openid", "profile"] := by
    decide +kernel
  have asked : "profile" ∈ profileRequest.scopes := by decide +kernel
  have last : Approvals deploy tenantA aliceId "app" ("profile" ∉ ·) [] :=
    fun _ mem => absurd mem List.not_mem_nil
  constructor
  · have split : [firstApproval, widerApproval] = [] ++ firstApproval :: [widerApproval] := rfl
    exact (approval_covers (approvals_run widerApproval rfl) split firstApproval_approved
      (profileRequest_sso wider) rfl client nofun (approvals_unhindered wider)).1
      widerApproval_includes within
  · have split : [firstApproval, otherApproval] = [firstApproval] ++ otherApproval :: [] := rfl
    have young : Young profileRequest (Sample.now - (ssoSession Sample.now).authTime) :=
      fun _ aged => by cases aged
    exact (approval_covers (approvals_run otherApproval rfl) split otherApproval_approved
      (profileRequest_sso other) rfl client nofun (approvals_unhindered other)).2
      "profile" asked (by decide) (by decide) last young

end

end IdpMvp
