import IdpMvp.Sample
import IdpMvp.Service.Logout

/-!
# What a logout leaves

`logout` decides the redirect after it has ended the session of the cookie. It decides it as registered, and leaves
neither the session nor the codes usable, exactly if the session is known or none is presented, and the statements
on the way do not fail (`logout_completes_iff`): for an unknown session it returns before it looks at the redirect.
-/

namespace IdpMvp

open Program Program.Prog Program.Flow Prog

/-! ## What is promised -/

/-- The clients of a tenant, as `list` returns them. -/
def Store.tenantClients (s : Store) (tenantId : TenantId) : List Client :=
  (s.clients.filter (·.tenantId = tenantId)).reverse

/-- The URI of the request, if it is registered. -/
def Store.logoutRedirect (s : Store) (tenantId : TenantId) (cmd : LogoutCommand) : Option String :=
  cmd.postLogoutRedirectUri.filter (Logout.registers (s.tenantClients tenantId) cmd.clientIdHint)

/-- The session of a cookie, valid or not. -/
def Store.presentedSession (D : Deploy) (s : Store) (sid : String) : Option SsoSession :=
  s.ssoSessions.find? (·.sessionHash = D.sha256Hex sid)

/-- The session of a cookie is there and valid. -/
def Store.SessionUsable (D : Deploy) (s : Store) (sid : String) (now : DateTime) : Prop :=
  ∃ x ∈ s.ssoSessions, x.sessionHash = D.sha256Hex sid ∧ x.isValidAt now = true

/-- The user has a code that can be redeemed. -/
def Store.CodeUsable (s : Store) (userId : Uuid) (now : DateTime) : Prop :=
  ∃ code ∈ s.codes, code.userId = userId ∧ code.usedAt = none ∧ code.expiresAt > now

/-- The redirect is the one that is registered, and neither the session nor a code of its user is usable. -/
structure LogsOut (D : Deploy) (tenantId : TenantId) (cmd : LogoutCommand) (s : Store) (now : DateTime)
    (r : LogoutResult) (s' : Store) : Prop where
  redirect : r.postLogoutRedirectUri = s.logoutRedirect tenantId cmd
  session : ∀ sid, nonEmpty cmd.ssoSessionId = some sid → ¬ s'.SessionUsable D sid now
  codes : ∀ sid x, nonEmpty cmd.ssoSessionId = some sid → s.presentedSession D sid = some x →
    ¬ s'.CodeUsable x.userId now

/-- The clients are looked at. -/
def ListsClients (D : Deploy) (cmd : LogoutCommand) (ins : Nat → Input) (s : Store) : Prop :=
  match nonEmpty cmd.ssoSessionId with
  | none => (ins 1).fault = none
  | some sid => (ins 1).fault = none ∧ s.presentedSession D sid ≠ none ∧ (ins 5).fault = none

/-- Nothing is registered, or the clients are looked at for a URI that is not empty; what is usable is looked up,
and deleted or revoked. -/
structure LogoutCompletes (D : Deploy) (tenantId : TenantId) (cmd : LogoutCommand) (ins : Nat → Input)
    (s : Store) : Prop where
  redirect : s.logoutRedirect tenantId cmd = none ∨
    (cmd.postLogoutRedirectUri ≠ some "" ∧ ListsClients D cmd ins s)
  session : ∀ sid, nonEmpty cmd.ssoSessionId = some sid → s.SessionUsable D sid (ins 0).now →
    (ins 1).fault = none ∧ (ins 2).fault = none
  codes : ∀ sid x, nonEmpty cmd.ssoSessionId = some sid → s.presentedSession D sid = some x →
    s.CodeUsable x.userId (ins 0).now → (ins 1).fault = none ∧ (ins 3).fault = none

/-! ## The branches -/

section
variable {D : Deploy} {tenantId : TenantId} {cmd : LogoutCommand} {ins : Nat → Input} {s : Store}

/-- The clients that a `list` finds. -/
def listedClients (i : Input) (s : Store) (tenantId : TenantId) : List Client :=
  match i.fault with
  | none => s.tenantClients tenantId
  | some _ => []

lemma collect_wp {userId : Option Uuid} {userSub : Option String} :
    (Logout.collect D tenantId cmd userId userSub).wp (exec D) ins s (fun r s' tr => s' = s ∧ tr.length = 1 ∧
      r = Logout.result D tenantId cmd userId userSub (listedClients (ins 0) s tenantId)) := by
  unfold Logout.collect
  simp only [op, call_bind, ret_bind, wp_db, wp_ret, pure_eq]
  constructor
  · intro e fault
    rw [listedClients, fault]
    exact ⟨trivial, rfl, rfl⟩
  · intro quiet
    rw [listedClients, quiet]
    exact ⟨rfl, rfl, rfl⟩

/-- Without a session, no user is logged out. -/
lemma logout_absent (absent : nonEmpty cmd.ssoSessionId = none) :
    (Logout.logout D tenantId cmd).wp (exec D) ins s (fun r s' _ => s' = s ∧
      r = Logout.result D tenantId cmd none none (listedClients (ins 1) s tenantId)) := by
  have nothing : ∀ now, Logout.endSession D cmd.ssoSessionId now = pure (none, none) := by
    intro now
    rw [Logout.endSession, absent]
  unfold Logout.logout
  rw [wp_outcome]
  refine wpE_clock_step ?_
  rw [nothing, wpE_bind, wpE_pure, wpE_lift]
  refine wp_mono collect_wp ?_
  rintro r s' tr ⟨rfl, -, rfl⟩
  exact ⟨rfl, rfl⟩

/-- What is found of a session. -/
lemma findSession_wp {sid : String} {E : LogoutResult → Store → Prop} {α : Type} {Q : α → Store → Prop}
    {k : SsoSession → ServiceFlow LogoutResult α}
    (unknown : (ins 0).fault ≠ none ∨ s.presentedSession D sid = none → E Logout.unknownSession s)
    (known : ∀ x, (ins 0).fault = none → s.presentedSession D sid = some x →
      wpE (exec D) (k x) (fun n => ins (n + 1)) s (fun a s' _ => Q a s') (fun e s' _ => E e s')) :
    wpE (exec D) (do
      let row ← orLeave (db (.ssoSessions (.findByHash (D.sha256Hex sid)))) (fun _ => Logout.unknownSession)
      let session ← found row Logout.unknownSession
      k session) ins s (fun a s' _ => Q a s') (fun e s' _ => E e s') := by
  refine wpE_db_split (fun e fault => unknown (.inl (by rw [fault]; nofun))) ?_ ?_
  · rintro e s₁ - executed
    cases executed
  · rintro row s₁ quiet executed
    obtain ⟨rfl, rfl⟩ : s.presentedSession D sid = row ∧ s = s₁ := by
      cases executed
      exact ⟨rfl, rfl⟩
    exact wpE_found_split (fun missing => unknown (.inr missing)) fun x row => known x quiet row

/-- An unknown session ends the logout. -/
lemma logout_unknown {sid : String} (cookie : nonEmpty cmd.ssoSessionId = some sid)
    (unknown : (ins 1).fault ≠ none ∨ s.presentedSession D sid = none) :
    (Logout.logout D tenantId cmd).wp (exec D) ins s (fun r s' _ => s' = s ∧ r = Logout.unknownSession) := by
  unfold Logout.logout Logout.endSession
  rw [cookie, wp_outcome]
  refine wpE_clock_step ?_
  refine wpE_bind_of (R := fun _ _ _ => False) ?_ fun _ _ _ bad => bad.elim
  refine findSession_wp (fun _ => ⟨rfl, rfl⟩) fun x quiet row => ?_
  rcases unknown with fault | missing
  · exact absurd quiet fault
  · rw [missing] at row
    cases row

/-- The store without the sessions of a cookie and with the codes of a user revoked, as far as the two statements
do not fail. -/
def Store.endSession (D : Deploy) (ins : Nat → Input) (s : Store) (sid : String) (userId : Uuid) : Store :=
  { s with
    ssoSessions := if (ins 2).fault = none then s.ssoSessions.filter (·.sessionHash ≠ D.sha256Hex sid)
      else s.ssoSessions
    codes := if (ins 3).fault = none then s.codes.map fun c =>
        if c.userId = userId ∧ c.usedAt = none ∧ c.expiresAt > (ins 0).now then
          { c with usedAt := some (ins 0).now }
        else c
      else s.codes }

lemma exec_endSession {sid : String} {userId : Uuid} :
    (exec D (.db (.codes (.revokeAllActiveForUser userId (ins 0).now))) (ins 3)
      (exec D (.db (.ssoSessions (.delete (D.sha256Hex sid)))) (ins 2) s).2).2 = s.endSession D ins sid userId := by
  cases deletes : (ins 2).fault <;> cases revokes : (ins 3).fault
  all_goals simp only [exec, deletes, revokes, Store.endSession]
  all_goals rfl

/-- The `sub` of a user that is found. -/
def foundSub (D : Deploy) (i : Input) (s : Store) (userId : Uuid) : Option String :=
  match i.fault with
  | none => (s.users.find? (·.id = userId)).map (D.uuidToString ·.sub)
  | some _ => none

lemma findSub_wp {userId : Uuid} :
    (Logout.findSub D userId).wp (exec D) ins s (fun sub s' tr => s' = s ∧ tr.length = 1 ∧
      sub = foundSub D (ins 0) s userId) := by
  unfold Logout.findSub
  simp only [op, call_bind, ret_bind, wp_db, pure_eq]
  constructor
  · intro e fault
    rw [foundSub, fault]
    exact ⟨rfl, rfl, rfl⟩
  · intro quiet
    rw [foundSub, quiet]
    simp only [Stmt.exec, UserStmt.exec]
    cases s.users.find? (·.id = userId) with
    | none => exact ⟨rfl, rfl, rfl⟩
    | some user => exact ⟨rfl, rfl, rfl⟩

/-- A known session ends, and its user is logged out. -/
lemma logout_known {sid : String} {x : SsoSession} (cookie : nonEmpty cmd.ssoSessionId = some sid)
    (quiet : (ins 1).fault = none) (row : s.presentedSession D sid = some x) :
    (Logout.logout D tenantId cmd).wp (exec D) ins s (fun r s' tr => s' = s.endSession D ins sid x.userId ∧
      tr.length = 6 ∧ r = Logout.result D tenantId cmd (some x.userId) (foundSub D (ins 4) s x.userId)
        (listedClients (ins 5) s tenantId)) := by
  unfold Logout.logout Logout.endSession
  rw [cookie, wp_outcome, clockNow, wpE_op]
  refine wpE_bind_of (R := fun ended s' tr => s' = s.endSession D ins sid x.userId ∧ tr.length = 4 ∧
    ended = (some x.userId, foundSub D (ins 4) s x.userId)) ?_ ?_
  · rw [wpE_bind, wpE_orLeave, db, op, wp_db]
    refine ⟨fun e fault => ?_, fun _ => ?_⟩
    · rw [quiet] at fault
      cases fault
    rw [wp_ret]
    change wpE (exec D) (found (s.presentedSession D sid) Logout.unknownSession >>= _) _ _ _ _
    rw [row, wpE_bind, wpE_found]
    refine ⟨?_, by rintro ⟨⟩⟩
    rintro _ ⟨⟩
    rw [db, wpE_op, db, wpE_op, wpE_bind, wpE_lift]
    refine wp_mono findSub_wp ?_
    rintro sub s' tr ⟨rfl, length, rfl⟩
    refine ⟨exec_endSession, ?_, ?_⟩
    · simp [length]
    · have kept : foundSub D (ins 4) (s.endSession D ins sid x.userId) x.userId =
          foundSub D (ins 4) s x.userId := rfl
      rw [← kept, ← exec_endSession]
      rfl
  · rintro ⟨userId, userSub⟩ _ tr ⟨rfl, length, same⟩
    obtain ⟨rfl, rfl⟩ := Prod.mk.inj same
    rw [wpE_lift]
    refine wp_mono collect_wp ?_
    rintro r s' tr' ⟨rfl, length', rfl⟩
    refine ⟨rfl, ?_, ?_⟩
    · simp [length, length']
    · rw [length]
      rfl

/-! ## What the branches leave -/

lemma SessionUsable_endSession {sid : String} {userId : Uuid} {now : DateTime} :
    (s.endSession D ins sid userId).SessionUsable D sid now ↔
      (ins 2).fault ≠ none ∧ s.SessionUsable D sid now := by
  unfold Store.SessionUsable Store.endSession
  by_cases deletes : (ins 2).fault = none
  · simp only [deletes, if_true, ne_eq, not_true_eq_false, false_and, iff_false]
    rintro ⟨x, mem, hash, -⟩
    exact of_decide_eq_true (List.mem_filter.mp mem).2 hash
  · simp [deletes]

lemma CodeUsable_endSession {sid : String} {userId : Uuid} :
    (s.endSession D ins sid userId).CodeUsable userId (ins 0).now ↔
      (ins 3).fault ≠ none ∧ s.CodeUsable userId (ins 0).now := by
  unfold Store.CodeUsable Store.endSession
  by_cases revokes : (ins 3).fault = none
  · simp only [revokes, if_true, ne_eq, not_true_eq_false, false_and, iff_false]
    rintro ⟨code, mem, user, unused, live⟩
    obtain ⟨c, -, rfl⟩ := List.mem_map.mp mem
    by_cases active : c.userId = userId ∧ c.usedAt = none ∧ c.expiresAt > (ins 0).now
    · rw [if_pos active] at unused
      cases unused
    · rw [if_neg active] at user unused live
      exact active ⟨user, unused, live⟩
  · simp [revokes]

/-- The redirect is decided as registered if nothing is registered, or the clients are listed and the URI is not
empty. -/
lemma postLogoutRedirect_listed {i : Input} :
    Logout.postLogoutRedirect (listedClients i s tenantId) cmd.clientIdHint cmd.postLogoutRedirectUri =
        s.logoutRedirect tenantId cmd ↔
      s.logoutRedirect tenantId cmd = none ∨ (cmd.postLogoutRedirectUri ≠ some "" ∧ i.fault = none) := by
  unfold Logout.postLogoutRedirect Store.logoutRedirect
  cases requested : cmd.postLogoutRedirectUri with
  | none => exact iff_of_true rfl (.inl rfl)
  | some uri =>
    by_cases empty : uri = ""
    · have dropped : nonEmpty (some uri) = none := if_pos empty
      rw [dropped, Option.filter_none, empty]
      simp [eq_comm]
    · have kept : nonEmpty (some uri) = some uri := if_neg empty
      rw [kept]
      cases fault : i.fault with
      | none =>
        rw [listedClients, fault]
        exact iff_of_true rfl (.inr ⟨fun same => empty (Option.some.inj same), rfl⟩)
      | some e =>
        have unregistered : Logout.registers (listedClients i s tenantId) cmd.clientIdHint uri = false := by
          rw [listedClients, fault]
          unfold Logout.registers
          cases cmd.clientIdHint <;> rfl
        rw [Option.filter_some, if_neg (by rw [unregistered]; exact Bool.false_ne_true)]
        simp [eq_comm]

/-- The two sides field by field. -/
lemma logsOut_iff {r : LogoutResult} {s' : Store}
    (redirect : r.postLogoutRedirectUri = s.logoutRedirect tenantId cmd ↔ s.logoutRedirect tenantId cmd = none ∨
      (cmd.postLogoutRedirectUri ≠ some "" ∧ ListsClients D cmd ins s))
    (session : ∀ sid, nonEmpty cmd.ssoSessionId = some sid → (¬ s'.SessionUsable D sid (ins 0).now ↔
      (s.SessionUsable D sid (ins 0).now → (ins 1).fault = none ∧ (ins 2).fault = none)))
    (codes : ∀ sid x, nonEmpty cmd.ssoSessionId = some sid → s.presentedSession D sid = some x →
      (¬ s'.CodeUsable x.userId (ins 0).now ↔
        (s.CodeUsable x.userId (ins 0).now → (ins 1).fault = none ∧ (ins 3).fault = none))) :
    LogsOut D tenantId cmd s (ins 0).now r s' ↔ LogoutCompletes D tenantId cmd ins s := by
  constructor
  · rintro ⟨decided, ended, revoked⟩
    exact ⟨redirect.mp decided, fun sid presented => (session sid presented).mp (ended sid presented),
      fun sid x presented row => (codes sid x presented row).mp (revoked sid x presented row)⟩
  · rintro ⟨decided, ended, revoked⟩
    exact ⟨redirect.mpr decided, fun sid presented => (session sid presented).mpr (ended sid presented),
      fun sid x presented row => (codes sid x presented row).mpr (revoked sid x presented row)⟩

lemma logsOut_absent {r : LogoutResult} (absent : nonEmpty cmd.ssoSessionId = none)
    (redirect : r.postLogoutRedirectUri = Logout.postLogoutRedirect (listedClients (ins 1) s tenantId)
      cmd.clientIdHint cmd.postLogoutRedirectUri) :
    LogsOut D tenantId cmd s (ins 0).now r s ↔ LogoutCompletes D tenantId cmd ins s := by
  refine logsOut_iff ?_ ?_ ?_
  · rw [redirect, postLogoutRedirect_listed, ListsClients, absent]
  · intro sid presented
    rw [absent] at presented
    cases presented
  · intro sid x presented
    rw [absent] at presented
    cases presented

lemma logsOut_unknown {sid : String} (cookie : nonEmpty cmd.ssoSessionId = some sid)
    (unknown : (ins 1).fault ≠ none ∨ s.presentedSession D sid = none) :
    LogsOut D tenantId cmd s (ins 0).now Logout.unknownSession s ↔ LogoutCompletes D tenantId cmd ins s := by
  have unlisted : ¬ ListsClients D cmd ins s := by
    rw [ListsClients, cookie]
    rintro ⟨quiet, known, -⟩
    exact unknown.elim (· quiet) known
  have faulty : s.presentedSession D sid ≠ none → (ins 1).fault ≠ none := fun known =>
    unknown.resolve_right known
  refine logsOut_iff ?_ ?_ ?_
  · simp only [unlisted, and_false, or_false, Logout.unknownSession]
    exact eq_comm
  · intro sid' presented
    obtain rfl := Option.some.inj (cookie.symm.trans presented)
    by_cases usable : s.SessionUsable D sid (ins 0).now
    · have known : s.presentedSession D sid ≠ none := by
        obtain ⟨x, mem, hash, -⟩ := usable
        intro missing
        exact List.find?_eq_none.mp missing x mem (decide_eq_true hash)
      exact iff_of_false (not_not_intro usable) fun ends => faulty known (ends usable).1
    · exact iff_of_true usable fun there => absurd there usable
  · intro sid' x presented row
    obtain rfl := Option.some.inj (cookie.symm.trans presented)
    have faulty := faulty (by rw [row]; nofun)
    simp only [faulty, false_and, imp_false]

lemma logsOut_known {sid : String} {x : SsoSession} {r : LogoutResult}
    (cookie : nonEmpty cmd.ssoSessionId = some sid) (quiet : (ins 1).fault = none)
    (row : s.presentedSession D sid = some x)
    (redirect : r.postLogoutRedirectUri = Logout.postLogoutRedirect (listedClients (ins 5) s tenantId)
      cmd.clientIdHint cmd.postLogoutRedirectUri) :
    LogsOut D tenantId cmd s (ins 0).now r (s.endSession D ins sid x.userId) ↔
      LogoutCompletes D tenantId cmd ins s := by
  refine logsOut_iff ?_ ?_ ?_
  · have lists : ListsClients D cmd ins s ↔ (ins 5).fault = none := by
      rw [ListsClients, cookie]
      simp only [quiet, row, true_and, ne_eq, reduceCtorEq, not_false_eq_true]
    rw [redirect, postLogoutRedirect_listed, lists]
  · intro sid' presented
    obtain rfl := Option.some.inj (cookie.symm.trans presented)
    rw [SessionUsable_endSession]
    tauto
  · intro sid' x' presented row'
    obtain rfl := Option.some.inj (cookie.symm.trans presented)
    obtain rfl := Option.some.inj (row.symm.trans row')
    rw [CodeUsable_endSession]
    tauto

end

/-- A logout keeps its promise exactly if nothing was registered or the clients are looked at, and what was usable
is found, deleted and revoked. -/
theorem logout_completes_iff (D : Deploy) (tenantId : TenantId) (cmd : LogoutCommand) (ins : Nat → Input)
    (s : Store) :
    LogsOut D tenantId cmd s (ins 0).now ((Logout.logout D tenantId cmd).run (exec D) ins s).1
        ((Logout.logout D tenantId cmd).run (exec D) ins s).2 ↔
      LogoutCompletes D tenantId cmd ins s := by
  suffices w : (Logout.logout D tenantId cmd).wp (exec D) ins s (fun r s' _ =>
      LogsOut D tenantId cmd s (ins 0).now r s' ↔ LogoutCompletes D tenantId cmd ins s) from wp_iff_run.mp w
  cases cookie : nonEmpty cmd.ssoSessionId with
  | none =>
    refine wp_mono (logout_absent cookie) ?_
    rintro r s' - ⟨rfl, rfl⟩
    exact logsOut_absent cookie rfl
  | some sid =>
    by_cases unknown : (ins 1).fault ≠ none ∨ s.presentedSession D sid = none
    · refine wp_mono (logout_unknown cookie unknown) ?_
      rintro r s' - ⟨rfl, rfl⟩
      exact logsOut_unknown cookie unknown
    · obtain ⟨quiet, known⟩ := not_or.mp unknown
      obtain ⟨x, row⟩ := Option.ne_none_iff_exists'.mp known
      have quiet := not_not.mp quiet
      refine wp_mono (logout_known cookie quiet row) ?_
      rintro r s' - ⟨rfl, -, rfl⟩
      exact logsOut_known cookie quiet row rfl

/-! ## The handler -/

section
variable {D : Deploy} {tenantId : TenantId} {cmd : LogoutCommand} {ins : Nat → Input} {s : Store}

/-- What is found registered among the clients that a `list` finds is registered. -/
lemma postLogoutRedirect_registered {i : Input} {uri : String}
    (found : Logout.postLogoutRedirect (listedClients i s tenantId) cmd.clientIdHint cmd.postLogoutRedirectUri =
      some uri) : s.logoutRedirect tenantId cmd = some uri := by
  obtain ⟨asked, registered⟩ := Option.filter_eq_some_iff.mp found
  rw [Store.logoutRedirect, Option.filter_eq_some_iff]
  refine ⟨(nonEmpty_some asked).1, ?_⟩
  cases fault : i.fault with
  | none => rwa [listedClients, fault] at registered
  | some e =>
    rw [listedClients, fault] at registered
    unfold Logout.registers at registered
    cases hint : cmd.clientIdHint <;> simp [hint] at registered

/-- A logout sends the browser where the request asks to, if that is registered, or nowhere. -/
lemma logout_redirects : (Logout.logout D tenantId cmd).wp (exec D) ins s
    (fun r _ _ => ∀ uri, r.postLogoutRedirectUri = some uri → s.logoutRedirect tenantId cmd = some uri) := by
  cases cookie : nonEmpty cmd.ssoSessionId with
  | none =>
    refine wp_mono (logout_absent cookie) ?_
    rintro r s' - ⟨rfl, rfl⟩ uri found
    exact postLogoutRedirect_registered found
  | some sid =>
    by_cases unknown : (ins 1).fault ≠ none ∨ s.presentedSession D sid = none
    · refine wp_mono (logout_unknown cookie unknown) ?_
      rintro r s' - ⟨rfl, rfl⟩ uri ⟨⟩
    · obtain ⟨quiet, known⟩ := not_or.mp unknown
      obtain ⟨x, row⟩ := Option.ne_none_iff_exists'.mp known
      refine wp_mono (logout_known cookie (not_not.mp quiet) row) ?_
      rintro r s' - ⟨rfl, -, rfl⟩ uri found
      exact postLogoutRedirect_registered found

/-- The handler answers for a redirect that is the registered one of the request, with its `state`. -/
lemma handle_answers (ins : Nat → Input) (s : Store) {params : Logout.LogoutParams} {ssoSessionId : Option String}
    (named : cmd = ⟨ssoSessionId, params.clientId, params.postLogoutRedirectUri⟩) :
    (Logout.handle D tenantId ssoSessionId params).wp (exec D) ins s (fun r _ _ => ∃ uris redirectTo,
      r.1 = Logout.logoutResponse uris redirectTo ∧ ∀ location, redirectTo = some location →
        ∃ uri, s.logoutRedirect tenantId cmd = some uri ∧ location = Logout.withState params.state uri) := by
  subst named
  unfold Logout.handle
  rw [wp_bind]
  refine wp_mono logout_redirects fun result s' tr registered => ?_
  rw [wp_bind]
  refine wp_mono (always.wp (always_true _ _)) fun posts s'' tr' _ => ?_
  refine ⟨_, _, rfl, fun location sent => ?_⟩
  obtain ⟨uri, found, rfl⟩ := Option.map_eq_some_iff.mp sent
  exact ⟨uri, registered uri found, rfl⟩

end

/-- A redirect of the handler leads to the URI that the request asks for, which is registered for a client of the
tenant, with the `state` of the request; and its header holds no line end. -/
theorem handle_redirects {D : Deploy} {tenantId : TenantId} {ssoSessionId : Option String} {params : Logout.LogoutParams}
    {ins : Nat → Input} {s : Store} {location : String}
    (redirects : ((Logout.handle D tenantId ssoSessionId params).run (exec D) ins s).1.1 = .redirect location) :
    (∃ uri, s.logoutRedirect tenantId ⟨ssoSessionId, params.clientId, params.postLogoutRedirectUri⟩ = some uri ∧
      location = Logout.withState params.state uri) ∧ '\r' ∉ location.toList ∧ '\n' ∉ location.toList := by
  obtain ⟨uris, redirectTo, answer, registered⟩ := wp_iff_run.mp (handle_answers ins s rfl)
  rw [redirects] at answer
  unfold Logout.logoutResponse at answer
  split_ifs at answer
  cases target : redirectTo with
  | none =>
    rw [target] at answer
    cases answer
  | some uri =>
    rw [target] at answer
    simp only [Logout.foundResponse] at answer
    split_ifs at answer with header
    obtain rfl := Logout.LogoutResponse.redirect.inj answer
    have plain := List.all_eq_true.mp header
    exact ⟨registered location target, fun mem => absurd (plain _ mem) (by decide),
      fun mem => absurd (plain _ mem) (by decide)⟩

namespace Sample

/-- The store with a client that has registered where to go after a logout. -/
def logoutStore : Store :=
  { store with clients :=
      [{ publicClient tenantA "app" with postLogoutRedirectUris := ["https://app.example.com/bye"] }] }

/-- A logout with the cookie of a session that is not stored any more. -/
def staleLogout : LogoutCommand := ⟨some "stale", some "app", some "https://app.example.com/bye"⟩

end Sample

open Sample in
/-- For an unknown session the registered redirect is dropped. -/
theorem unknown_session_drops_redirect :
    let ran := (Logout.logout deploy tenantA staleLogout).run (exec deploy) (fun _ => input 1) logoutStore
    ran.1.postLogoutRedirectUri = none ∧
      logoutStore.logoutRedirect tenantA staleLogout = some "https://app.example.com/bye" ∧
      ¬ LogsOut deploy tenantA staleLogout logoutStore now ran.1 ran.2 := by
  intro ran
  have dropped : ran.1.postLogoutRedirectUri = none := by decide +kernel
  have registered : logoutStore.logoutRedirect tenantA staleLogout = some "https://app.example.com/bye" := by
    decide +kernel
  refine ⟨dropped, registered, fun out => ?_⟩
  have redirect := out.redirect
  rw [dropped, registered] at redirect
  cases redirect

end IdpMvp
