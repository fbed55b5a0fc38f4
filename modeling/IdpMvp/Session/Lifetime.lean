import IdpMvp.Program.History
import IdpMvp.Session.Cookie
import IdpMvp.Session.Entries
import IdpMvp.Session.Logout
import IdpMvp.Session.Resumption

/-!
# The lifetime of an SSO session

A login creates the session with its two deadlines, and only `authorize` touches it again: it moves the
idle deadline, after it has checked both deadlines, the user and the membership. Over whole runs the
rows therefore say who logged in and when, and no resume reaches beyond the absolute deadline.
-/

namespace IdpMvp

open Program Program.Prog Program.Flow Prog

variable {D : Deploy} {s s' : Store} {tenantId : TenantId} {now : DateTime} {ins : Nat → Input}

/-! ## A resume -/

/-- The rows after `extend_idle` at this time. -/
def prolonged (D : Deploy) (sid : String) (now : DateTime) (rows : List SsoSession) : List SsoSession :=
  rows.map fun x => if x.sessionHash = D.sha256Hex sid then { x with idleExpiresAt := now + D.ssoIdleTtl } else x

/-- What `try_resume_sso` answers and leaves: nobody, and at most without a session that has expired; or
the user of a session that may be resumed, which is prolonged. -/
inductive ResumeEnd (D : Deploy) (s : Store) (tenantId : TenantId) (sid : String) (now : DateTime) :
    DbResult (Option (Uuid × DateTime)) → Store → Prop where
  | refused {r : DbResult (Option (Uuid × DateTime))} {rows : List SsoSession}
    (lost : rows.Sublist s.ssoSessions) (nobody : ∀ found, r ≠ .ok (some found)) :
    ResumeEnd D s tenantId sid now r { s with ssoSessions := rows }
  | resumed {x : SsoSession} (able : Resumable D s tenantId now sid x) :
    ResumeEnd D s tenantId sid now (.ok (some (x.userId, x.authTime)))
      { s with ssoSessions := prolonged D sid now s.ssoSessions }

/-- The time of a resume is the second input, after the row was found. -/
lemma tryResumeSso_wp {sid : String} :
    (tryResumeSso D tenantId sid).wp (exec D) ins s
      (fun r s' _ => ResumeEnd D s tenantId sid (ins 1).now r s') := by
  have same : ∀ r, (∀ found, r ≠ .ok (some found)) → ResumeEnd D s tenantId sid (ins 1).now r s :=
    fun _ nobody => .refused (.refl _) nobody
  unfold tryResumeSso
  rw [wp_outcome]
  refine wpE_db_split (fun _ _ => same _ (by rintro _ ⟨⟩)) (fun _ _ _ fails => by cases fails) ?_
  rintro row s₁ - ⟨⟩
  refine wpE_found_split (fun _ => same _ (by rintro _ ⟨⟩)) fun x row => ?_
  refine wpE_clock_step ?_
  cases valid : x.isValidAt (ins 1).now
  · rw [wpE_bind, wpE_ensureOr]
    refine ⟨by rintro ⟨⟩, fun _ => ?_⟩
    rw [wp_bind, db, op, wp_db]
    refine ⟨fun _ _ => same _ (by rintro _ ⟨⟩), fun _ => ?_⟩
    exact .refused List.filter_sublist (by rintro _ ⟨⟩)
  · refine wpE_ensureOr_step rfl ?_
    refine wpE_db_split (fun _ _ => same _ (by rintro _ ⟨⟩)) (fun _ _ _ fails => by cases fails) ?_
    rintro user s₁ - ⟨⟩
    refine wpE_ensure_split (fun _ => same _ (by rintro _ ⟨⟩)) fun active => ?_
    refine wpE_db_split (fun _ _ => same _ (by rintro _ ⟨⟩)) (fun _ _ _ fails => by cases fails) ?_
    rintro member s₁ - ⟨⟩
    refine wpE_ensure_split (fun _ => same _ (by rintro _ ⟨⟩)) fun member => ?_
    refine wpE_db_split (fun _ _ => same _ (by rintro _ ⟨⟩)) (fun _ _ _ fails => by cases fails) ?_
    rintro _ s₁ - ⟨⟩
    obtain ⟨u, found, ok⟩ := (Option.any_eq_true _ _).mp active
    exact .resumed ⟨row, valid, ⟨u, found, by simpa using ok⟩, member⟩

/-- What an authorization request does to the SSO sessions and the codes: it makes use of none, or it
resumes one, and a code it issues is for the user and the time of that one. -/
inductive SsoUse (D : Deploy) (s : Store) (tenantId : TenantId) (req : AuthorizeRequest) (now : DateTime)
    (s' : Store) : Prop where
  | aside (lost : s'.ssoSessions.Sublist s.ssoSessions) (codes : s'.codes = s.codes)
  | resumed {sid : String} {x : SsoSession} (cookie : nonEmpty req.ssoSessionId = some sid)
    (able : Resumable D s tenantId now sid x)
    (rows : s'.ssoSessions = prolonged D sid now s.ssoSessions)
    (codes : s'.codes = s.codes ∨
      ∃ c, s'.codes = s.codes ++ [c] ∧ c.userId = x.userId ∧ c.authTime = x.authTime)

section
variable {f : AuthorizeFlow} {req : AuthorizeRequest}

/-- A login that is asked for leaves the SSO sessions and the codes. -/
lemma requireLogin_aside {promptNone : Bool} :
    always (exec D) (requireLogin D f promptNone) s (fun _ s' =>
      s'.ssoSessions = s.ssoSessions ∧ s'.codes = s.codes) := by
  unfold requireLogin
  split
  · exact ⟨rfl, rfl⟩
  · exact startSession_always (fun _ _ => ⟨rfl, rfl⟩) fun _ _ => ⟨rfl, rfl⟩

/-- After a resume a code is issued for its user and its time, or none. -/
lemma resumed_issues {forceConsent promptNone : Bool} {userId : Uuid} {authTime : DateTime} :
    always (exec D) (IdpMvp.resumed D f forceConsent promptNone userId authTime) s (fun _ s' =>
      s'.ssoSessions = s.ssoSessions ∧ (s'.codes = s.codes ∨
        ∃ c, s'.codes = s.codes ++ [c] ∧ c.userId = userId ∧ c.authTime = authTime)) := by
  have ask : always (exec D)
      (if promptNone = true then
        pure (f.errorRedirect D .consentRequired "consent required")
      else startSession D f (some (userId, authTime)) "failed to start consent" .consentRequired) s
      (fun _ s' => s'.ssoSessions = s.ssoSessions ∧ (s'.codes = s.codes ∨
        ∃ c, s'.codes = s.codes ++ [c] ∧ c.userId = userId ∧ c.authTime = authTime)) := by
    split
    · exact ⟨rfl, .inl rfl⟩
    · exact startSession_always (fun _ _ => ⟨rfl, .inl rfl⟩) fun _ _ => ⟨rfl, .inl rfl⟩
  cases forceConsent with
  | true =>
    simpa only [IdpMvp.resumed, if_true, pure_eq, ret_bind, Bool.false_eq_true, if_false] using ask
  | false =>
    simp only [IdpMvp.resumed, Bool.false_eq_true, if_false, always_bind]
    refine always_mono checkConsent_always ?_
    rintro consented _ ⟨rfl, -⟩
    split
    · rw [always_bind]
      refine issueCode_always (fun _ => ⟨rfl, .inl rfl⟩) fun code issuedAt => ?_
      exact ⟨rfl, .inr ⟨_, rfl, rfl, rfl⟩⟩
    · exact ask

lemma authorizeFlow_use (tenant : f.tenantId = tenantId) :
    (authorizeFlow D f req).wp (exec D) ins s (fun _ s' _ => SsoUse D s tenantId req (ins 1).now s') := by
  have login : ∀ {promptNone : Bool} {rows : List SsoSession} {ins' : Nat → Input},
      rows.Sublist s.ssoSessions →
      (requireLogin D f promptNone).wp (exec D) ins' { s with ssoSessions := rows }
        (fun _ s' _ => SsoUse D s tenantId req (ins 1).now s') := by
    intro promptNone rows ins' lost
    refine wp_mono (always.wp requireLogin_aside) ?_
    rintro _ s' _ ⟨sso, codes⟩
    exact .aside (sso ▸ lost) codes
  cases cookie : nonEmpty req.ssoSessionId with
  | none => simpa only [authorizeFlow, cookie] using login (.refl _)
  | some sid =>
    by_cases forced : req.prompt = some "login"
    · simpa only [authorizeFlow, cookie, if_pos forced] using login (.refl _)
    · simp only [authorizeFlow, cookie, if_neg forced, wp_bind, tenant]
      refine wp_mono tryResumeSso_wp ?_
      rintro _ _ tr (⟨lost, nobody⟩ | able)
      · rename_i r rows
        rcases r with e | _ | found
        · exact login lost
        · exact login lost
        · exact absurd rfl (nobody found)
      · rename_i x
        have used : ∀ s', s'.ssoSessions = prolonged D sid (ins 1).now s.ssoSessions →
            (s'.codes = s.codes ∨ ∃ c, s'.codes = s.codes ++ [c] ∧ c.userId = x.userId ∧
              c.authTime = x.authTime) → SsoUse D s tenantId req (ins 1).now s' :=
          fun s' rows codes => .resumed cookie able rows codes
        simp only [wp_bind]
        refine wp_mono (always.wp maxAgeExceeded_always) ?_
        rintro exceeded _ _ rfl
        split
        · split
          · exact used _ rfl (.inl rfl)
          · refine wp_mono (always.wp requireLogin_aside) ?_
            rintro _ s' _ ⟨rows, codes⟩
            exact used s' rows (.inl codes)
        · refine wp_mono (always.wp resumed_issues) ?_
          rintro _ s' _ ⟨rows, codes⟩
          exact used s' rows codes

/-- An authorization request resumes at its third input, after the client and the session were found. -/
lemma authorize_use :
    (authorize D tenantId req).wp (exec D) ins s (fun _ s' _ => SsoUse D s tenantId req (ins 2).now s') := by
  have same : SsoUse D s tenantId req (ins 2).now s := .aside (.refl _) rfl
  unfold authorize
  rw [wp_outcome]
  refine wpE_found_split (fun _ => same) fun clientId _ => ?_
  refine wpE_db_split (fun _ _ => same) (fun _ _ _ fails => by cases fails) ?_
  rintro row s₁ - ⟨⟩
  refine wpE_found_split (fun _ => same) fun client _ => ?_
  refine wpE_ensure_split (fun _ => same) fun _ => ?_
  refine wpE_found_split (fun _ => same) fun uri _ => ?_
  refine wpE_ensure_split (fun _ => same) fun _ => ?_
  refine wpE_orThrow_split (fun _ _ => same) fun _ _ => ?_
  rw [wpE_lift]
  exact authorizeFlow_use rfl

end

/-! ## A login -/

/-- At most one SSO session is created, at this time and for a user of whom `Done` was checked. -/
def Enters (D : Deploy) (now : DateTime) (Done : User → Prop) (s s' : Store) : Prop :=
  s'.ssoSessions = s.ssoSessions ∨ ∃ id user ctx, Done user ∧
    s'.ssoSessions = s.ssoSessions ++ [ssoSessionFor D id user.id now ctx]

section
variable {ctx : RequestContext}

lemma SessionEnd.enters {Pending Done : AuthSession → User → Prop}
    (h : SessionEnd D tenantId ctx now Pending Done s s') :
    Enters D now (fun user => ∃ a, OnSession D s tenantId now a ∧ Done a user) s s' := by
  cases h with
  | refused kept => exact .inl kept.ssoSessions
  | pending same => exact .inl same.ssoSessions
  | @done s₁ s' a user same session row evidence completed =>
    have sso := completed.sso
    rw [same.ssoSessions] at sso
    refine sso.imp_right ?_
    rintro ⟨id, more⟩
    exact ⟨id, user, ctx, ⟨a, session, evidence⟩, more⟩

lemma DirectEnd.enters {Done : User → Prop} (h : DirectEnd D ctx now Done s s') : Enters D now Done s s' := by
  cases h with
  | refused kept => exact .inl kept.ssoSessions
  | @created s₁ user id same row evidence =>
    exact .inr ⟨id, user, ctx, evidence, by rw [same.ssoSessions]⟩

end

/-- Every login creates at most the session of the user it has checked. -/
lemma LoginCall.run_enters (c : LoginCall) (ins : Nat → Input) (s : Store) :
    Enters D (ins 0).now (fun user => c.Authenticates D s ins user) s (c.run D ins s) := by
  cases c with
  | login tenantId cmd ctx =>
    refine (login_end cmd ins).enters.imp_right ?_
    rintro ⟨id, user, ctx, ⟨a, -, -, done⟩, more⟩
    exact ⟨id, user, ctx, done, more⟩
  | mfaVerify tenantId cmd ctx => exact (mfaVerify_end cmd ins).enters
  | changePassword tenantId cmd ctx => exact (changePassword_end cmd ins).enters
  | passkeyComplete tenantId challengeId credentialValue ctx =>
    exact (passkeyComplete_end challengeId credentialValue ins).enters
  | portalLogin tenantId cmd ctx => exact (portalLogin_end cmd ins).enters
  | portalChangePassword tenantId cmd ctx => exact (portalChangePassword_end cmd ins).enters
  | portalVerifyMfa tenantId cmd ctx => exact (portalVerifyMfa_end cmd ins).enters
  | adminLogin tenantId cmd ctx => exact (adminLogin_end cmd ins).enters
  | adminChangePassword tenantId cmd ctx => exact (adminChangePassword_end cmd ins).enters

/-! ## A logout -/

/-- A logout creates no session and changes none. -/
lemma logout_lost (cmd : LogoutCommand) (ins : Nat → Input) (s : Store) :
    ((Logout.logout D tenantId cmd).run (exec D) ins s).2.ssoSessions.Sublist s.ssoSessions := by
  have w : (Logout.logout D tenantId cmd).wp (exec D) ins s
      (fun _ s' _ => s'.ssoSessions.Sublist s.ssoSessions) := by
    cases cookie : nonEmpty cmd.ssoSessionId with
    | none =>
      refine wp_mono (logout_absent cookie) ?_
      rintro _ _ _ ⟨rfl, -⟩
      exact .refl _
    | some sid =>
      by_cases unknown : (ins 1).fault ≠ none ∨ s.presentedSession D sid = none
      · refine wp_mono (logout_unknown cookie unknown) ?_
        rintro _ _ _ ⟨rfl, -⟩
        exact .refl _
      · obtain ⟨quiet, known⟩ := not_or.mp unknown
        obtain ⟨x, row⟩ := Option.ne_none_iff_exists'.mp known
        refine wp_mono (logout_known cookie (not_not.mp quiet) row) ?_
        rintro _ _ _ ⟨rfl, -⟩
        simp only [Store.endSession]
        split
        · exact List.filter_sublist
        · exact .refl _
  exact wp_iff_run.mp w

/-! ## The primary key -/

/-- The primary key of `sso_sessions`. -/
def Store.SsoKeys (s : Store) : Prop := (s.ssoSessions.map (·.sessionHash)).Nodup

lemma Store.SsoKeys.lost (keys : s.SsoKeys) (lost : s'.ssoSessions.Sublist s.ssoSessions) : s'.SsoKeys :=
  List.Nodup.sublist (lost.map _) keys

lemma Store.SsoKeys.eq (keys : s.SsoKeys) {x y : SsoSession} (hx : x ∈ s.ssoSessions)
    (hy : y ∈ s.ssoSessions) (hash : x.sessionHash = y.sessionHash) : x = y :=
  eq_of_nodup_map keys hx hy hash

/-- Every operation keeps it. -/
lemma exec_ssoKeys (o : Op) (i : Input) (s : Store) (keys : s.SsoKeys) : (exec D o i s).2.SsoKeys := by
  have w := exec_written (D := D) o i s
  generalize (exec D o i s).2 = s' at w
  cases w with
  | ssoSessions q eq rows h =>
    subst h
    cases q with
    | create x =>
      simp only [SsoSessionStmt.exec]
      split
      · exact keys
      · rename_i new
        split
        · exact keys
        · simp only [Bool.not_eq_true, List.any_eq_false, decide_eq_true_eq] at new
          refine (List.map_append ▸ List.nodup_append.mpr ⟨keys, List.nodup_singleton _, ?_⟩ :
            ((s.ssoSessions ++ [x]).map (·.sessionHash)).Nodup)
          intro hash old hash' own same
          obtain ⟨y, mem, rfl⟩ := List.mem_map.mp old
          obtain rfl := List.mem_singleton.mp own
          exact new y mem same
    | findByHash hash => exact keys
    | extendIdle hash deadline =>
      have same : (s.ssoSessions.map fun x =>
          if x.sessionHash = hash then { x with idleExpiresAt := deadline } else x).map (·.sessionHash) =
            s.ssoSessions.map (·.sessionHash) := by
        rw [List.map_map]
        refine List.map_congr_left fun x _ => ?_
        simp only [Function.comp_apply]
        split <;> rfl
      rw [Store.SsoKeys]
      exact same.symm ▸ (keys : (s.ssoSessions.map (·.sessionHash)).Nodup)
    | delete hash => exact keys.lost List.filter_sublist
    | deleteAllForUser userId => exact keys.lost List.filter_sublist
  | deleteUser id => exact keys.lost List.filter_sublist
  | _ => exact keys

/-! ## Runs -/

inductive SessionCall where
  | enter (c : LoginCall)
  | authorize (tenantId : TenantId) (req : AuthorizeRequest)
  | logout (tenantId : TenantId) (cmd : LogoutCommand)

/-- The store after a call. -/
def SessionCall.run (D : Deploy) (c : SessionCall) (ins : Nat → Input) (s : Store) : Store :=
  match c with
  | enter c => c.run D ins s
  | authorize tenantId req => ((IdpMvp.authorize D tenantId req).run (exec D) ins s).2
  | logout tenantId cmd => ((Logout.logout D tenantId cmd).run (exec D) ins s).2

lemma SessionCall.run_keys (c : SessionCall) (ins : Nat → Input) (keys : s.SsoKeys) :
    (c.run D ins s).SsoKeys := by
  cases c with
  | enter c => cases c <;> exact Prog.run_invariant exec_ssoKeys _ keys
  | authorize tenantId req => exact Prog.run_invariant exec_ssoKeys _ keys
  | logout tenantId cmd => exact Prog.run_invariant exec_ssoKeys _ keys

/-- Sequential runs of the logins, authorization requests and logouts, from an empty table. In between,
other services may do anything; of the SSO sessions they can only delete some. -/
abbrev SsoRuns (D : Deploy) : List (Event SessionCall Input Store) → Store → Prop :=
  Runs (SessionCall.run D) (fun s => s.ssoSessions = [])
    (fun s s' => s'.ssoSessions.Sublist s.ssoSessions) (fun _ _ => True)

lemma SsoRuns.keys {es : List (Event SessionCall Input Store)} (run : SsoRuns D es s) : s.SsoKeys := by
  refine run.invariant (I := fun _ s => s.SsoKeys) ?_ ?_ ?_
  · intro s empty
    rw [Store.SsoKeys, empty]
    exact List.nodup_nil
  · exact fun _ _ _ keys lost => keys.lost lost
  · exact fun _ _ c ins keys _ => c.run_keys ins keys

section
variable {e : Event SessionCall Input Store} {x x' : SsoSession}

/-- The call is a login that authenticates the user. -/
def LogsIn (D : Deploy) (e : Event SessionCall Input Store) (user : User) : Prop :=
  ∃ c, e.call = .enter c ∧ c.Authenticates D e.pre e.ins user

/-- The call is an authorization request whose cookie is that of the session, and the session may be
resumed at the time the request reads. -/
def ResumesSso (D : Deploy) (e : Event SessionCall Input Store) (x : SsoSession) : Prop :=
  ∃ tenantId req sid, e.call = .authorize tenantId req ∧ nonEmpty req.ssoSessionId = some sid ∧
    Resumable D e.pre tenantId (e.ins 2).now sid x

/-- Where a row comes from. -/
inductive RowFrom (D : Deploy) (e : Event SessionCall Input Store) (x' : SsoSession) : Prop where
  | kept (mem : x' ∈ e.pre.ssoSessions)
  | resumed {x : SsoSession} (mem : x ∈ e.pre.ssoSessions) (resumes : ResumesSso D e x)
    (eq : x' = { x with idleExpiresAt := (e.ins 2).now + D.ssoIdleTtl })
  | created {id : String} {user : User} {ctx : RequestContext} (logsIn : LogsIn D e user)
    (eq : x' = ssoSessionFor D id user.id (e.ins 0).now ctx)
    (rows : (e.post (SessionCall.run D)).ssoSessions = e.pre.ssoSessions ++ [x'])

/-- A call keeps a row, resumes it or creates it. -/
lemma rowFrom (keys : e.pre.SsoKeys) (mem : x' ∈ (e.post (SessionCall.run D)).ssoSessions) :
    RowFrom D e x' := by
  obtain ⟨c, ins, s⟩ := e
  cases c with
  | enter c =>
    obtain same | ⟨id, user, ctx, done, more⟩ := c.run_enters (D := D) ins s
    · exact .kept (same ▸ mem)
    · have rows : x' ∈ s.ssoSessions ++ [ssoSessionFor D id user.id (ins 0).now ctx] := more ▸ mem
      rcases List.mem_append.mp rows with old | new
      · exact .kept old
      · obtain rfl := List.mem_singleton.mp new
        exact .created ⟨c, rfl, done⟩ rfl more
  | authorize tenantId req =>
    have use : SsoUse D s tenantId req (ins 2).now _ := wp_iff_run.mp authorize_use
    cases use with
    | aside lost codes => exact .kept (lost.subset mem)
    | @resumed sid x cookie able rows codes =>
      have row : x' ∈ prolonged D sid (ins 2).now s.ssoSessions := rows ▸ mem
      obtain ⟨y, old, rfl⟩ := List.mem_map.mp row
      split
      · rename_i hash
        have named := List.find?_some able.row
        simp only [decide_eq_true_eq] at named
        obtain rfl := keys.eq old (List.mem_of_find?_eq_some able.row) (hash.trans named.symm)
        exact .resumed old ⟨tenantId, req, sid, rfl, cookie, able⟩ rfl
      · exact .kept old
  | logout tenantId cmd => exact .kept ((logout_lost cmd ins s).subset mem)

/-- A row that keeps its hash keeps everything but its idle deadline, which a resume moves. -/
lemma row_same (keys : e.pre.SsoKeys) (mem : x ∈ e.pre.ssoSessions)
    (mem' : x' ∈ (e.post (SessionCall.run D)).ssoSessions) (hash : x'.sessionHash = x.sessionHash) :
    x' = x ∨ (ResumesSso D e x ∧ x' = { x with idleExpiresAt := (e.ins 2).now + D.ssoIdleTtl }) := by
  cases rowFrom keys mem' with
  | kept old => exact .inl (keys.eq old mem hash)
  | @resumed y old resumes eq =>
    subst eq
    obtain rfl := keys.eq old mem hash
    exact .inr ⟨resumes, rfl⟩
  | created logsIn eq rows =>
    have after : (e.post (SessionCall.run D)).SsoKeys := e.call.run_keys e.ins keys
    rw [Store.SsoKeys, rows, List.map_append, List.nodup_append] at after
    exact absurd hash.symm
      (after.2.2 _ (List.mem_map_of_mem mem) _ (List.mem_singleton.mpr rfl))

/-- What a row says: the login of the run that created it, with the absolute deadline counted from there and
the idle deadline from there or from a request of the run that resumed it. -/
structure Lifetime (D : Deploy) (es : List (Event SessionCall Input Store)) (x : SsoSession) : Prop where
  login : ∃ e ∈ es, ∃ user, LogsIn D e user ∧ x.userId = user.id ∧ x.authTime = (e.ins 0).now
  absolute : x.absoluteExpiresAt = x.authTime + D.ssoAbsoluteTtl
  idle : x.idleExpiresAt = x.authTime + D.ssoIdleTtl ∨ ∃ e ∈ es, ∃ y, ResumesSso D e y ∧
    y.sessionHash = x.sessionHash ∧ x.idleExpiresAt = (e.ins 2).now + D.ssoIdleTtl

variable {es before after : List (Event SessionCall Input Store)}

lemma Lifetime.snoc (h : Lifetime D es x) (e : Event SessionCall Input Store) : Lifetime D (es ++ [e]) x := by
  obtain ⟨⟨e', mem, login⟩, absolute, idle⟩ := h
  refine ⟨⟨e', List.mem_append_left _ mem, login⟩, absolute, idle.imp_right ?_⟩
  rintro ⟨e', mem, resumed⟩
  exact ⟨e', List.mem_append_left _ mem, resumed⟩

/-- One call keeps it, and gives it to the row it creates. -/
lemma lifetime_call (keys : e.pre.SsoKeys) (inv : ∀ x ∈ e.pre.ssoSessions, Lifetime D es x)
    (mem : x' ∈ (e.post (SessionCall.run D)).ssoSessions) : Lifetime D (es ++ [e]) x' := by
  have here : e ∈ es ++ [e] := List.mem_append_right _ (List.mem_singleton.mpr rfl)
  cases rowFrom keys mem with
  | kept old => exact (inv x' old).snoc e
  | @resumed x old resumes eq =>
    obtain ⟨login, absolute, -⟩ := (inv x old).snoc e
    subst eq
    exact ⟨login, absolute, .inr ⟨e, here, x, resumes, rfl, rfl⟩⟩
  | @created id user ctx logsIn eq rows =>
    subst eq
    exact ⟨⟨e, here, user, logsIn, rfl, rfl⟩, rfl, .inl rfl⟩

lemma SsoRuns.lifetimes (run : SsoRuns D es s) : ∀ x ∈ s.ssoSessions, Lifetime D es x := by
  refine (run.invariant (I := fun es s => s.SsoKeys ∧ ∀ x ∈ s.ssoSessions, Lifetime D es x) ?_ ?_ ?_).2
  · intro s empty
    rw [Store.SsoKeys, empty]
    exact ⟨List.nodup_nil, by rintro _ ⟨⟩⟩
  · rintro es s s' ⟨keys, inv⟩ lost
    exact ⟨keys.lost lost, fun x mem => inv x (lost.subset mem)⟩
  · rintro es s c ins ⟨keys, inv⟩ -
    exact ⟨c.run_keys ins keys, fun x mem => lifetime_call (e := ⟨c, ins, s⟩) keys inv mem⟩

/-- Over every run: a stored SSO session is of a login of the run and expires for good at its absolute
deadline after that login. While it is stored only its idle deadline changes, and only by a request that
resumes it, before both deadlines, for an active, unlocked user who is an active member of the tenant. A
request gives a code only for a session it resumes, with its user and its authentication time. -/
theorem sso_session_lifetimes (run : SsoRuns D es s) :
    (∀ x ∈ s.ssoSessions, Lifetime D es x) ∧
    ∀ before e after, es = before ++ e :: after →
      (∀ x ∈ e.pre.ssoSessions, Lifetime D before x ∧
        (∀ x' ∈ (e.post (SessionCall.run D)).ssoSessions, x'.sessionHash = x.sessionHash →
          x' = x ∨ (ResumesSso D e x ∧ x' = { x with idleExpiresAt := (e.ins 2).now + D.ssoIdleTtl })) ∧
        (ResumesSso D e x → (e.ins 2).now < x.idleExpiresAt ∧
          (e.ins 2).now < x.authTime + D.ssoAbsoluteTtl)) ∧
      ∀ tenantId req, e.call = .authorize tenantId req →
        ∀ c ∈ (e.post (SessionCall.run D)).codes, c ∉ e.pre.codes →
          ∃ x ∈ e.pre.ssoSessions, ResumesSso D e x ∧ c.userId = x.userId ∧ c.authTime = x.authTime := by
  refine ⟨run.lifetimes, ?_⟩
  intro before e after split
  have earlier : SsoRuns D before e.pre := (run.upTo split).1
  refine ⟨fun x mem => ?_, ?_⟩
  · have life := earlier.lifetimes x mem
    refine ⟨life, fun x' mem' hash => row_same earlier.keys mem mem' hash, ?_⟩
    rintro ⟨tenantId, req, sid, -, -, able⟩
    have valid := able.valid
    simp only [SsoSession.isValidAt, Bool.and_eq_true, decide_eq_true_eq, life.absolute] at valid
    exact valid
  · obtain ⟨call, ins, s⟩ := e
    rintro tenantId req rfl c mem new
    have use : SsoUse D s tenantId req (ins 2).now _ := wp_iff_run.mp authorize_use
    cases use with
    | aside lost codes => exact absurd (codes ▸ mem) new
    | @resumed sid x cookie able rows codes =>
      rcases codes with same | ⟨c', more, user, time⟩
      · exact absurd (same ▸ mem) new
      · have added : c ∈ s.codes ++ [c'] := more ▸ mem
        obtain rfl := List.mem_singleton.mp ((List.mem_append.mp added).resolve_left new)
        exact ⟨x, List.mem_of_find?_eq_some able.row, ⟨tenantId, req, sid, rfl, cookie, able⟩, user, time⟩

end

namespace Sample

/-- The administrator has approved the scopes of a client. -/
def approvedStore : Store :=
  { guardedStore with
    memberships := [.newHome tenantA adminId]
    codes := []
    consents := [⟨adminId, tenantA, "app", ["openid", "profile"]⟩] }

/-- He signs in on the console. -/
def consoleSignIn : Event SessionCall Input Store := ⟨.enter consoleEvent.call, consoleEvent.ins, approvedStore⟩

/-- An hour later a request of the client comes with the cookie. -/
def hourLater : Input := { input 6 with now := Sample.now + 3600000000 }

def consoleResume : Event SessionCall Input Store where
  call := .authorize tenantA { authorizeRequest with ssoSessionId := some (sessionId 5) }
  ins _ := hourLater
  pre := consoleSignIn.post (SessionCall.run loginDeploy)

lemma consoleResume_run :
    SsoRuns loginDeploy [consoleSignIn, consoleResume] (consoleResume.post (SessionCall.run loginDeploy)) := by
  have start : SsoRuns loginDeploy [] consoleSignIn.pre := .start rfl
  exact (start.post consoleSignIn trivial).post consoleResume trivial

end Sample

open Sample in
/-- The session is prolonged and gives a code, and ends for good when its absolute deadline has come. -/
theorem sso_session_lifetimes_sample :
    (∃ x ∈ (consoleResume.post (SessionCall.run loginDeploy)).ssoSessions,
      x.absoluteExpiresAt = x.authTime + loginDeploy.ssoAbsoluteTtl ∧
        x.idleExpiresAt = hourLater.now + loginDeploy.ssoIdleTtl) ∧
    ∃ c ∈ (consoleResume.post (SessionCall.run loginDeploy)).codes, ∃ x ∈ consoleResume.pre.ssoSessions,
      ResumesSso loginDeploy consoleResume x ∧ c.userId = x.userId ∧ c.authTime = x.authTime ∧
        hourLater.now < x.authTime + loginDeploy.ssoAbsoluteTtl := by
  obtain ⟨lifetimes, calls⟩ := sso_session_lifetimes consoleResume_run
  obtain ⟨rows, codes⟩ := calls [consoleSignIn] consoleResume [] rfl
  constructor
  · have prolonged : ∃ x ∈ (consoleResume.post (SessionCall.run loginDeploy)).ssoSessions,
        x.idleExpiresAt = hourLater.now + loginDeploy.ssoIdleTtl := by decide +kernel
    obtain ⟨x, mem, idle⟩ := prolonged
    exact ⟨x, mem, (lifetimes x mem).absolute, idle⟩
  · have issued : ∃ c ∈ (consoleResume.post (SessionCall.run loginDeploy)).codes, c ∉ consoleResume.pre.codes := by
      decide +kernel
    obtain ⟨c, mem, new⟩ := issued
    obtain ⟨x, old, resumes, user, time⟩ := codes _ _ rfl c mem new
    exact ⟨c, mem, x, old, resumes, user, time, ((rows x old).2.2 resumes).2⟩

/-! ## After a logout -/

/-- No session has the hash of the cookie. -/
def Store.CookieDead (D : Deploy) (sid : String) (s : Store) : Prop :=
  ∀ x ∈ s.ssoSessions, x.sessionHash ≠ D.sha256Hex sid

/-- No session with the hash of the cookie is created. -/
def Op.LeavesDead (D : Deploy) (sid : String) (o : Op) : Prop :=
  ∀ x, o = .db (.ssoSessions (.create x)) → x.sessionHash ≠ D.sha256Hex sid

section
variable {sid : String}

lemma exec_cookieDead {o : Op} (leaves : o.LeavesDead D sid) (i : Input) (s : Store)
    (dead : s.CookieDead D sid) : (exec D o i s).2.CookieDead D sid := by
  have w := exec_written (D := D) o i s
  generalize (exec D o i s).2 = s' at w
  cases w with
  | ssoSessions q eq rows h =>
    subst h
    cases q with
    | create x =>
      simp only [SsoSessionStmt.exec]
      split
      · exact dead
      · split
        · exact dead
        · intro y mem
          rcases List.mem_append.mp mem with old | new
          · exact dead y old
          · obtain rfl := List.mem_singleton.mp new
            exact leaves y eq
    | findByHash hash => exact dead
    | extendIdle hash deadline =>
      intro y mem
      obtain ⟨x, old, rfl⟩ := List.mem_map.mp mem
      have other := dead x old
      split <;> exact other
    | delete hash => exact fun y mem => dead y (List.mem_filter.mp mem).1
    | deleteAllForUser userId => exact fun y mem => dead y (List.mem_filter.mp mem).1
  | deleteUser id => exact fun y mem => dead y (List.mem_filter.mp mem).1
  | _ => exact dead

/-- A logout whose lookup and deletion do not fail leaves no session of its cookie. -/
lemma logout_dead {cmd : LogoutCommand} (cookie : nonEmpty cmd.ssoSessionId = some sid)
    (found : (ins 1).fault = none) (deleted : (ins 2).fault = none) :
    ((Logout.logout D tenantId cmd).run (exec D) ins s).2.CookieDead D sid := by
  have w : (Logout.logout D tenantId cmd).wp (exec D) ins s (fun _ s' _ => s'.CookieDead D sid) := by
    cases row : s.presentedSession D sid with
    | none =>
      refine wp_mono (logout_unknown cookie (.inr row)) ?_
      rintro _ _ _ ⟨rfl, -⟩
      intro x mem
      simpa using List.find?_eq_none.mp row x mem
    | some x =>
      refine wp_mono (logout_known cookie found row) ?_
      rintro _ _ _ ⟨rfl, -⟩
      intro y mem
      simp only [Store.endSession, deleted, if_true] at mem
      simpa using (List.mem_filter.mp mem).2
  exact wp_iff_run.mp w

lemma Store.CookieDead.sessionOf (dead : s.CookieDead D sid) : s.sessionOf D sid = none :=
  List.find?_eq_none.mpr fun x mem => by simpa using dead x mem

/-- After a logout whose lookup and deletion do not fail, whatever operations of whatever services follow
one another, as long as none creates a session with the hash of the cookie: every service that the cookie
alone authenticates refuses it and leaves the store as it is, and no authorization request with it gives a
code. -/
theorem logged_out_cookie_refused {cmd : LogoutCommand} (cookie : nonEmpty cmd.ssoSessionId = some sid)
    (found : (ins 1).fault = none) (deleted : (ins 2).fault = none)
    (later : Reaches (exec D) (Op.LeavesDead D sid) ((Logout.logout D tenantId cmd).run (exec D) ins s).2 s')
    (ins' : Nat → Input) :
    (∀ c : SsoCall, (c.serve D sid).run (exec D) ins' s' = (false, s')) ∧
    ∀ tenantId' req, nonEmpty req.ssoSessionId = some sid →
      ((authorize D tenantId' req).run (exec D) ins' s').2.codes = s'.codes := by
  have dead : s'.CookieDead D sid :=
    later.invariant (logout_dead cookie found deleted) fun o leaves i s dead => exec_cookieDead leaves i s dead
  constructor
  · intro c
    refine c.refused fun userId accepts => ?_
    obtain ⟨x, row, -⟩ := accepts.session
    rw [dead.sessionOf] at row
    cases row
  · intro tenantId' req presents
    have use : SsoUse D s' tenantId' req (ins' 2).now _ := wp_iff_run.mp authorize_use
    cases use with
    | aside lost codes => exact codes
    | @resumed sid' x cookie' able rows codes =>
      obtain rfl := Option.some.inj (presents.symm.trans cookie')
      exact absurd (by simpa using List.find?_some able.row)
        (dead x (List.mem_of_find?_eq_some able.row))

end

namespace Sample

/-- The store after a logout with the cookie of the sample session. -/
def loggedOut : Store :=
  ((Logout.logout deploy tenantA ⟨some (sessionId 5), none, none⟩).run (exec deploy) (fun _ => input 0)
    (ssoStore Sample.now)).2

/-- The session of another login, and a request that had found the old session before it ended. -/
def laterOps : List Op :=
  [.db (.ssoSessions (.create { ssoSession Sample.now with sessionHash := deploy.sha256Hex (sessionId 6) })),
    .db (.ssoSessions (.extendIdle (deploy.sha256Hex (sessionId 5)) (Sample.now + 1)))]

/-- The store after some operations. -/
def storeAfter (ops : List Op) : Store := ops.foldl (fun s o => (exec deploy o (input 0) s).2) loggedOut

end Sample

open Sample in
/-- She is signed in again, and the old cookie is refused. -/
theorem logged_out_cookie_refused_sample :
    (storeAfter laterOps).sessionOf deploy (sessionId 6) ≠ none ∧
    (SsoCall.profileGet.serve deploy (sessionId 5)).run (exec deploy) (fun _ => input 1) (storeAfter laterOps) =
      (false, storeAfter laterOps) ∧
    ((authorize deploy tenantA (agedRequest 60)).run (exec deploy) (fun _ => input 1) (storeAfter laterOps)).2.codes =
      (storeAfter laterOps).codes := by
  have other : deploy.sha256Hex (sessionId 6) ≠ deploy.sha256Hex (sessionId 5) := by decide +kernel
  have later : Reaches (exec deploy) (Op.LeavesDead deploy (sessionId 5)) loggedOut (storeAfter laterOps) := by
    refine (Reaches.refl.step _ (input 0) ?_).step _ (input 0) ?_
    · rintro _ ⟨⟩
      exact other
    · rintro _ ⟨⟩
  obtain ⟨refused, silent⟩ := logged_out_cookie_refused rfl rfl rfl later fun _ => input 1
  exact ⟨by decide +kernel, refused .profileGet, silent tenantA (agedRequest 60) rfl⟩

end IdpMvp
