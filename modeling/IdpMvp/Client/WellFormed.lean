import IdpMvp.Program.Overwrite
import IdpMvp.Sample
import IdpMvp.Service.ClientManagement
import IdpMvp.Service.Consent
import IdpMvp.Service.Footprint
import IdpMvp.Store.Effects
import IdpMvp.Store.Monitors

/-!
# Stored clients are well formed

`register` validates what it stores, `update` only what its command names, and both `update` and `rotate_secret`
write back what they have read. So every stored client is well formed in every run (`clients_well_formed`), and
the redirects to its URIs, and to those of the auth sessions, can be built.
-/

namespace IdpMvp

open Program Program.Prog Program.Flow Prog

/-! ## Well-formed clients -/

/-- An absolute `http` or `https` URL without a fragment or a wildcard. -/
structure ValidRedirectUri (D : Deploy) (uri : String) : Prop where
  noWildcard : '*' ∉ uri.toList
  parses : ∃ url, D.urlParse uri = some url ∧ D.urlScheme url ∈ ["http", "https"] ∧ D.urlFragment url = none

structure Client.WellFormed (D : Deploy) (c : Client) : Prop where
  someUri : c.redirectUris ≠ []
  distinctUris : c.redirectUris.Nodup
  uris : ∀ uri ∈ c.redirectUris, ValidRedirectUri D uri
  distinctScopes : c.scopes.Nodup
  scopes : ∀ scope ∈ c.scopes, (Scope.parse scope).isSome = true
  openId : Scope.openId.asStr ∈ c.scopes
  secret : c.clientSecretHash.isSome = true ↔ c.clientType = .confidential

namespace ClientManagement

variable {D : Deploy}

/-- What the loop of a validation has checked. -/
lemma checkEach_ok {check : String → Except ClientManagementError Unit} {duplicate : String}
    {seen xs : List String} (checked : checkEach check duplicate seen xs = .ok ()) :
    (∀ x ∈ xs, check x = .ok ()) ∧ xs.Nodup ∧ ∀ x ∈ xs, x ∉ seen := by
  induction xs generalizing seen with
  | nil => simp
  | cons x rest ih =>
    unfold checkEach at checked
    cases first : check x with
    | error e =>
      rw [first] at checked
      cases checked
    | ok u =>
      rw [first] at checked
      by_cases again : x ∈ seen
      · replace checked : (if x ∈ seen then .error (.validation (duplicate ++ x))
            else checkEach check duplicate (x :: seen) rest) = Except.ok () := checked
        rw [if_pos again] at checked
        cases checked
      · replace checked : (if x ∈ seen then .error (.validation (duplicate ++ x))
            else checkEach check duplicate (x :: seen) rest) = Except.ok () := checked
        rw [if_neg again] at checked
        obtain ⟨valid, distinct, unseen⟩ := ih checked
        refine ⟨?_, ?_, ?_⟩
        · rintro y mem
          rcases List.mem_cons.mp mem with rfl | mem
          · exact first
          · exact valid y mem
        · exact List.nodup_cons.mpr ⟨fun mem => unseen x mem List.mem_cons_self, distinct⟩
        · rintro y mem
          rcases List.mem_cons.mp mem with rfl | mem
          · exact again
          · exact fun old => unseen y mem (List.mem_cons_of_mem _ old)

lemma validateRedirectUri_ok {uri : String} (checked : validateRedirectUri D uri = .ok ()) :
    ValidRedirectUri D uri := by
  unfold validateRedirectUri at checked
  split_ifs at checked with wildcard
  split at checked
  · cases checked
  · rename_i url parsed
    split_ifs at checked with scheme fragment
    refine ⟨wildcard, url, parsed, scheme, ?_⟩
    simpa using fragment

lemma validateRedirectUris_ok {uris uris' : List String} (checked : validateRedirectUris D uris = .ok uris') :
    uris' ≠ [] ∧ uris'.Nodup ∧ ∀ uri ∈ uris', ValidRedirectUri D uri := by
  unfold validateRedirectUris at checked
  split_ifs at checked with missing
  cases each : checkEach (validateRedirectUri D) "duplicate redirect_uri: " [] uris with
  | error e =>
    rw [each] at checked
    cases checked
  | ok u =>
    rw [each] at checked
    obtain rfl := Except.ok.inj checked
    obtain ⟨valid, distinct, -⟩ := checkEach_ok each
    exact ⟨fun none => missing (by rw [none]; rfl), distinct, fun uri mem => validateRedirectUri_ok (valid uri mem)⟩

lemma validateScopes_ok {scopes scopes' : List String} (checked : validateScopes scopes = .ok scopes') :
    scopes'.Nodup ∧ (∀ scope ∈ scopes', (Scope.parse scope).isSome = true) ∧ Scope.openId.asStr ∈ scopes' := by
  unfold validateScopes at checked
  cases each : checkEach validateScope "duplicate scope: " [] scopes with
  | error e =>
    rw [each] at checked
    split_ifs at checked <;> cases checked
  | ok u =>
    rw [each] at checked
    split_ifs at checked with missing openId
    · obtain rfl := Except.ok.inj checked
      obtain ⟨valid, distinct, -⟩ := checkEach_ok each
      refine ⟨distinct, fun scope mem => ?_, by simpa using openId⟩
      have known := valid scope mem
      unfold validateScope at known
      split_ifs at known with parses
      exact parses
    · cases checked

/-- An update changes no other part of a well-formed client. -/
lemma applyUpdate_wellFormed {cmd : UpdateClientCommand} {row row' : Client}
    (applied : applyUpdate D cmd row = .ok row') (wellFormed : row.WellFormed D) : row'.WellFormed D := by
  obtain ⟨appName, redirectUris, scopes, -, uris, list, rfl⟩ := applyUpdate_ok applied
  have uris' : redirectUris ≠ [] ∧ redirectUris.Nodup ∧ ∀ uri ∈ redirectUris, ValidRedirectUri D uri := by
    cases field : cmd.redirectUris with
    | none =>
      rw [field] at uris
      obtain rfl := Except.ok.inj uris
      exact ⟨wellFormed.someUri, wellFormed.distinctUris, wellFormed.uris⟩
    | some value =>
      rw [field] at uris
      exact validateRedirectUris_ok uris
  have scopes' : scopes.Nodup ∧ (∀ scope ∈ scopes, (Scope.parse scope).isSome = true) ∧
      Scope.openId.asStr ∈ scopes := by
    cases field : cmd.scopes with
    | none =>
      rw [field] at list
      obtain rfl := Except.ok.inj list
      exact ⟨wellFormed.distinctScopes, wellFormed.scopes, wellFormed.openId⟩
    | some value =>
      rw [field] at list
      exact validateScopes_ok list
  exact ⟨uris'.1, uris'.2.1, uris'.2.2, scopes'.1, scopes'.2.1, scopes'.2.2, wellFormed.secret⟩

end ClientManagement

/-! ## Calls -/

/-- Operations that write no client and create no auth session. -/
def Op.BesideClients : Op → Prop
  | .db (.clientAdmin (.create _)) => False
  | .db (.clientAdmin (.update _)) => False
  | .db (.authSessions (.create _)) => False
  | _ => True

/-- The operations of the client management, the one service that creates auth sessions, and anything else. -/
inductive ClientOperation where
  | register (tenantId : TenantId) (cmd : RegisterClientCommand)
  | update (tenantId : TenantId) (clientId : String) (cmd : UpdateClientCommand)
  | rotateSecret (tenantId : TenantId) (clientId : String)
  | authorize (tenantId : TenantId) (req : AuthorizeRequest)
  | beside (program : Service Unit) (uses : program.Uses Op.BesideClients)

inductive ClientAnswer where
  | registered (r : Except ClientManagementError RegisteredClient)
  | updated (r : Except ClientManagementError Client)
  | rotated (r : Except ClientManagementError (Client × String))
  | authorized (outcome : AuthorizeOutcome)
  | beside

def ClientAnswer.isError : ClientAnswer → Bool
  | registered (.error _) | updated (.error _) | rotated (.error _) => true
  | _ => false

def ClientOperation.program (D : Deploy) : ClientOperation → Service ClientAnswer
  | register tenantId cmd => return .registered (← (ClientManagement.register D tenantId cmd).run)
  | update tenantId clientId cmd => return .updated (← (ClientManagement.update D tenantId clientId cmd).run)
  | rotateSecret tenantId clientId => return .rotated (← (ClientManagement.rotateSecret tenantId clientId).run)
  | authorize tenantId req => return .authorized (← IdpMvp.authorize D tenantId req)
  | beside program _ => program >>= fun _ => return .beside

abbrev ClientPool := Program.Config Op.Res Input Store ClientAnswer

def clientPool (D : Deploy) (s : Store) (calls : Nat → ClientOperation) : ClientPool :=
  Config.start s fun t => (calls t).program D

/-! ## What is promised -/

/-- The clients are well formed, and the auth sessions have one of their redirect URIs. -/
structure Store.ClientsWellFormed (D : Deploy) (s : Store) : Prop where
  clients : ∀ c ∈ s.clients, c.WellFormed D
  sessions : ∀ a ∈ s.authSessions, ValidRedirectUri D a.redirectUri

/-- Neither redirect panics on the URI. -/
def Redirects (D : Deploy) (uri : String) : Prop :=
  (∀ code state, (codeRedirect D uri code state).isSome = true) ∧
    ∀ error description state, (errorRedirectWithState D uri error description state).isSome = true

/-- The store is well formed, a call that returns an error has changed no client, and no redirect to a stored URI
panics. -/
structure StaysWellFormed (D : Deploy) (c : ClientPool) : Prop where
  store : c.store.ClientsWellFormed D
  failed : ∀ t a, c.thread t = .ret a → a.isError = true → ∀ e ∈ c.trace, e.tid = t →
    (e.post (exec D)).clients = e.pre.clients
  clientRedirects : ∀ client ∈ c.store.clients, ∀ uri ∈ client.redirectUris, Redirects D uri
  sessionRedirects : ∀ session ∈ c.store.authSessions, Redirects D session.redirectUri

lemma ValidRedirectUri.redirects {D : Deploy} {uri : String} (valid : ValidRedirectUri D uri) : Redirects D uri := by
  obtain ⟨url, parses, -⟩ := valid.parses
  constructor
  · intro code state
    rw [codeRedirect, parses]
    rfl
  · intro error description state
    rw [errorRedirectWithState, parses]
    rfl

/-! ## Where a call is -/

/-- Where the result of a call leads. -/
def wellFormedNext (φ : Rewrite Client) (o : Op) (r : o.Res) : Rewrite Client :=
  match φ, o, r with
  | .idle, .db (.clients (.findByClientId _ _)), .ok (some row) => .read row
  | _, .db (.clientAdmin (.create _)), .ok _ => .written
  | _, .db (.clientAdmin (.update _)), .ok _ => .written
  | φ, _, _ => φ

/-- The calls of a phase: a client is stored well formed, or written back so if the one that was read was. -/
def wellFormedAllows (D : Deploy) (φ : Rewrite Client) : Op → Prop
  | .db (.clientAdmin (.create row)) => φ = .idle ∧ row.WellFormed D
  | .db (.clientAdmin (.update row')) => ∃ row, φ = .read row ∧ (row.WellFormed D → row'.WellFormed D)
  | .db (.authSessions (.create session)) => ∃ row, φ = .read row ∧ session.redirectUri ∈ row.redirectUris
  | _ => True

def wellFormedMonitor (D : Deploy) : Monitor Op.Res (Rewrite Client) where
  init := .idle
  ok := wellFormedAllows D
  next := wellFormedNext

section
variable {D : Deploy}

lemma writeClient_guarded {ε α : Type} {row row' : Client} {f : DomainError → ε} {a : α}
    (kept : row.WellFormed D → row'.WellFormed D) :
    alwaysE (wellFormedMonitor D).oracle
      (orLeave (db (.clientAdmin (.update row'))) f >>= fun _ => (pure a : ServiceFlow ε α)) (some (.read row))
      (fun _ ψ => ψ.isSome = true) (fun _ ψ => ψ = some (.read row)) := by
  refine guard_db_step ⟨row, rfl, kept⟩ (fun _ => rfl) fun _ => ?_
  rfl

/-- Where a call is that has not written. -/
def Unwritten (ψ : Option (Rewrite Client)) : Prop := ∃ φ, ψ = some φ ∧ φ ≠ .written

lemma loadClient_guarded {tenantId : TenantId} {clientId : String} :
    alwaysE (wellFormedMonitor D).oracle (ClientManagement.load tenantId clientId)
      (some .idle) (fun row ψ => ψ = some (.read row)) (fun _ ψ => Unwritten ψ) := by
  have here : Unwritten (some .idle) := ⟨_, rfl, nofun⟩
  unfold ClientManagement.load
  refine guard_db_step trivial (fun _ => here) ?_
  rintro (_ | row)
  · exact here
  · exact rfl

/-- Random tokens and hashes leave the phase. -/
lemma drawSecret_uses : ClientManagement.drawSecret.run.Uses fun o => ∀ q, o ≠ .db q := by
  refine uses_bind (uses_lift (uses_op fun q eq => by cases eq)) fun plain => ?_
  exact uses_bind (uses_orLeave (uses_op fun q eq => by cases eq) _) fun _ => trivial

lemma wellFormedMonitor_outside (φ : Rewrite Client) (o : Op) (outside : ∀ q, o ≠ .db q) :
    (wellFormedMonitor D).ok φ o ∧ ∀ r, (wellFormedMonitor D).next φ o r = φ := by
  cases o with
  | db q => exact absurd rfl (outside q)
  | _ => exact ⟨trivial, fun _ => by cases φ <;> rfl⟩

lemma rotateClient_guarded {tenantId : TenantId} {clientId : String} :
    alwaysE (wellFormedMonitor D).oracle (ClientManagement.rotateSecret tenantId clientId) (some .idle)
      (fun _ ψ => ψ.isSome = true) (fun _ ψ => Unwritten ψ) := by
  unfold ClientManagement.rotateSecret
  refine alwaysE_bind_of loadClient_guarded (fun _ _ left => left) ?_
  rintro row _ rfl
  have read : Unwritten (some (.read row)) := ⟨_, rfl, nofun⟩
  refine ensure_step (fun _ => read) fun confidential => ?_
  refine aside_step drawSecret_uses (wellFormedMonitor_outside _) (fun _ => read) fun secret => ?_
  refine alwaysE_mono (writeClient_guarded fun wellFormed => ?_) (fun _ _ left => left) fun _ _ left => left ▸ read
  exact { wellFormed with secret := iff_of_true rfl (of_decide_eq_true confidential) }

lemma updateClient_guarded {tenantId : TenantId} {clientId : String} {cmd : UpdateClientCommand} :
    alwaysE (wellFormedMonitor D).oracle (ClientManagement.update D tenantId clientId cmd) (some .idle)
      (fun _ ψ => ψ.isSome = true) (fun _ ψ => Unwritten ψ) := by
  unfold ClientManagement.update
  refine alwaysE_bind_of loadClient_guarded (fun _ _ left => left) ?_
  rintro row _ rfl
  have read : Unwritten (some (.read row)) := ⟨_, rfl, nofun⟩
  refine orThrow_step (fun _ _ => read) fun row' applied => ?_
  refine alwaysE_mono (writeClient_guarded ?_) (fun _ _ left => left) fun _ _ left => left ▸ read
  exact ClientManagement.applyUpdate_wellFormed applied

lemma registerClient_guarded {tenantId : TenantId} {cmd : RegisterClientCommand} :
    alwaysE (wellFormedMonitor D).oracle (ClientManagement.register D tenantId cmd) (some .idle)
      (fun _ ψ => ψ.isSome = true) (fun _ ψ => Unwritten ψ) := by
  have here : Unwritten (some .idle) := ⟨_, rfl, nofun⟩
  unfold ClientManagement.register
  refine orThrow_step (fun _ _ => here) fun appName _ => ?_
  refine orThrow_step (fun _ _ => here) fun redirectUris validUris => ?_
  refine orThrow_step (fun _ _ => here) fun scopes validScopes => ?_
  obtain ⟨someUri, distinctUris, uris⟩ := ClientManagement.validateRedirectUris_ok validUris
  obtain ⟨distinctScopes, known, openId⟩ := ClientManagement.validateScopes_ok validScopes
  -- A secret is drawn for a confidential client only.
  have drawn : alwaysE (wellFormedMonitor D).oracle (ClientManagement.initialSecret cmd.clientType) (some .idle)
      (fun secret ψ => ψ = some .idle ∧ (secret.isSome = true ↔ cmd.clientType = .confidential))
      (fun _ ψ => Unwritten ψ) := by
    cases cmd.clientType with
    | publicClient => exact ⟨rfl, iff_of_false nofun nofun⟩
    | confidential =>
      refine aside_step drawSecret_uses (wellFormedMonitor_outside _) (fun _ => here) fun secret => ?_
      exact ⟨rfl, iff_of_true rfl rfl⟩
  refine alwaysE_bind_of drawn (fun _ _ left => left) ?_
  rintro secret _ ⟨rfl, confidential⟩
  refine guard_step trivial fun now => guard_step trivial fun id => guard_step trivial fun clientId => ?_
  refine guard_db_step ⟨rfl, someUri, distinctUris, uris, distinctScopes, known, openId, ?_⟩ (fun _ => here)
    fun _ => rfl
  rw [Option.isSome_map]
  exact confidential

/-! `authorize` creates auth sessions with the redirect URI it has found registered. -/

/-- Operations that write no client, and no auth session but with a redirect URI. -/
def Op.Starts (uri : String) : Op → Prop
  | .db (.clientAdmin (.create _)) => False
  | .db (.clientAdmin (.update _)) => False
  | .db (.authSessions (.create session)) => session.redirectUri = uri
  | _ => True

section
variable {f : AuthorizeFlow}

lemma startSession_starts {authentication : Option (Uuid × DateTime)} {failure : String}
    {answer : String → AuthorizeOutcome} :
    (startSession D f authentication failure answer).Uses (Op.Starts f.redirectUri) := by
  refine ⟨trivial, fun now => ⟨trivial, fun id => ⟨rfl, ?_⟩⟩⟩
  rintro (e | _) <;> trivial

lemma requireLogin_starts {promptNone : Bool} :
    (requireLogin D f promptNone).Uses (Op.Starts f.redirectUri) := by
  unfold requireLogin
  split
  · trivial
  · exact startSession_starts

lemma tryResumeSso_starts {tenantId : TenantId} {sessionId uri : String} :
    (tryResumeSso D tenantId sessionId).Uses (Op.Starts uri) := by
  unfold tryResumeSso
  refine uses_outcome ?_
  refine uses_bind (uses_orLeave (uses_op trivial) _) fun row => uses_bind (uses_found _ _) fun session => ?_
  refine uses_bind (uses_lift (uses_op trivial)) fun now => ?_
  refine uses_bind (uses_ensureOr _ ⟨trivial, ?_⟩) fun _ => ?_
  · rintro (e | _) <;> trivial
  refine uses_bind (uses_orLeave (uses_op trivial) _) fun user => uses_bind (uses_ensure _ _) fun _ => ?_
  refine uses_bind (uses_orLeave (uses_op trivial) _) fun member => uses_bind (uses_ensure _ _) fun _ => ?_
  exact uses_bind (uses_orLeave (uses_op trivial) _) fun _ => trivial

lemma maxAgeExceeded_starts {maxAge : Option UInt64} {authTime : DateTime} {uri : String} :
    (maxAgeExceeded maxAge authTime).Uses (Op.Starts uri) := by
  cases maxAge with
  | none => trivial
  | some maxAge => exact ⟨trivial, fun _ => trivial⟩

lemma resumed_starts {forceConsent promptNone : Bool} {userId : Uuid} {authTime : DateTime} :
    (resumed D f forceConsent promptNone userId authTime).Uses (Op.Starts f.redirectUri) := by
  have ask : (if promptNone then pure (f.errorRedirect D .consentRequired "consent required")
      else startSession D f (some (userId, authTime)) "failed to start consent" .consentRequired).Uses
      (Op.Starts f.redirectUri) := by
    split
    · trivial
    · exact startSession_starts
  cases forceConsent with
  | true => exact ask
  | false =>
    refine Uses.bind (Uses.bind (hasConsent_uses trivial) ?_) fun consented => ?_
    · rintro (e | consented) <;> trivial
    · cases consented with
      | false => exact ask
      | true =>
        have issued : (issueCode D (f.issueCommand userId authTime)).Uses (Op.Starts f.redirectUri) :=
          issueCode_uses trivial trivial fun _ => trivial
        refine Uses.bind issued ?_
        rintro (e | code) <;> trivial

lemma authorizeFlow_starts {req : AuthorizeRequest} :
    (authorizeFlow D f req).Uses (Op.Starts f.redirectUri) := by
  unfold authorizeFlow
  cases nonEmpty req.ssoSessionId with
  | none => exact requireLogin_starts
  | some sessionId =>
    dsimp only
    split
    · exact requireLogin_starts
    · refine Uses.bind tryResumeSso_starts ?_
      rintro (e | _ | ⟨userId, authTime⟩)
      · exact requireLogin_starts
      · exact requireLogin_starts
      · refine Uses.bind maxAgeExceeded_starts fun exceeded => ?_
        cases exceeded with
        | false => exact resumed_starts
        | true =>
          rw [if_pos rfl]
          split
          · trivial
          · exact requireLogin_starts

/-- In the phase of a client that has the redirect URI, these operations are admitted. -/
lemma wellFormedMonitor_starts {row : Client} {uri : String} (registered : uri ∈ row.redirectUris) (o : Op)
    (starts : Op.Starts uri o) :
    (wellFormedMonitor D).ok (.read row) o ∧ ∀ r, (wellFormedMonitor D).next (.read row) o r = .read row := by
  unfold Op.Starts at starts
  split at starts
  · exact starts.elim
  · exact starts.elim
  · exact ⟨⟨row, rfl, starts ▸ registered⟩, fun _ => rfl⟩
  · rename_i notCreate notUpdate notSession
    constructor
    · change wellFormedAllows D _ _
      unfold wellFormedAllows
      split
      · exact absurd rfl (notCreate _)
      · exact absurd rfl (notUpdate _)
      · exact absurd rfl (notSession _)
      · trivial
    · intro r
      change wellFormedNext _ _ _ = _
      unfold wellFormedNext
      split
      · rename_i phase
        cases phase
      · exact absurd rfl (notCreate _)
      · exact absurd rfl (notUpdate _)
      · rfl

end

lemma authorize_guarded {tenantId : TenantId} {req : AuthorizeRequest} :
    always (wellFormedMonitor D).oracle (authorize D tenantId req) (some .idle) (fun _ ψ => ψ.isSome = true) := by
  unfold authorize
  rw [always_outcome]
  refine found_step (fun _ => rfl) fun clientId _ => ?_
  refine guard_db_step trivial (fun _ => rfl) ?_
  rintro (_ | row)
  · rfl
  refine found_step (fun _ => rfl) fun client same => ?_
  obtain rfl := Option.some.inj same
  refine ensure_step (fun _ => rfl) fun active => found_step (fun _ => rfl) fun uri given => ?_
  refine ensure_step (fun _ => rfl) fun registered => orThrow_step (fun _ _ => rfl) fun _ valid => ?_
  have mem : uri ∈ row.redirectUris := by simpa [Client.allowsRedirectUri] using registered
  rw [alwaysE_lift]
  refine always_mono (Uses.always (I := fun ψ => ψ = some (Rewrite.read row)) authorizeFlow_starts ?_ rfl) ?_
  · rintro o starts answer _ rfl
    obtain ⟨allowed, stays⟩ := wellFormedMonitor_starts (D := D) mem o starts
    rw [Monitor.oracle_some allowed, stays]
  · rintro outcome _ rfl
    rfl

/-- Operations beside the clients are admitted in every phase. -/
lemma wellFormedAllows_beside (φ : Rewrite Client) (o : Op) (beside : o.BesideClients) : wellFormedAllows D φ o := by
  unfold Op.BesideClients at beside
  split at beside
  · exact beside.elim
  · exact beside.elim
  · exact beside.elim
  · rename_i notCreate notUpdate notSession
    unfold wellFormedAllows
    split
    · exact absurd rfl (notCreate _)
    · exact absurd rfl (notUpdate _)
    · exact absurd rfl (notSession _)
    · trivial

lemma beside_guarded {program : Service Unit} (uses : program.Uses Op.BesideClients) :
    always (wellFormedMonitor D).oracle program (some .idle) (fun _ ψ => ψ.isSome = true) := by
  refine uses.always (I := fun ψ : Option (Rewrite Client) => ψ.isSome = true) ?_ rfl
  intro o beside answer ψ inside
  obtain ⟨φ, rfl⟩ := Option.isSome_iff_exists.mp inside
  rw [Monitor.oracle_some (wellFormedAllows_beside φ o beside)]
  rfl

section
variable {α : Type}

/-- What a call of the management answers. -/
lemma managed_guarded {p : ServiceFlow ClientManagementError α} {answer : Except ClientManagementError α → ClientAnswer}
    (w : alwaysE (wellFormedMonitor D).oracle p (some .idle) (fun _ ψ => ψ.isSome = true) fun _ ψ => Unwritten ψ)
    (fine : ∀ a, (answer (.ok a)).isError = false) :
    always (wellFormedMonitor D).oracle (p.run >>= fun r => pure (answer r)) (some .idle)
      (Monitor.At fun φ a => a.isError = true → φ ≠ .written) := by
  rw [always_bind]
  refine always_mono w ?_
  rintro (e | a) ψ ends
  · obtain ⟨φ, rfl, unwritten⟩ := ends
    exact ⟨φ, rfl, fun _ => unwritten⟩
  · obtain ⟨φ, rfl⟩ := Option.isSome_iff_exists.mp ends
    exact ⟨φ, rfl, fun bad => by rw [fine a] at bad; cases bad⟩

/-- What another call answers. -/
lemma answered_guarded {p : Service α} {answer : α → ClientAnswer}
    (w : always (wellFormedMonitor D).oracle p (some .idle) fun _ ψ => ψ.isSome = true)
    (fine : ∀ a, (answer a).isError = false) :
    always (wellFormedMonitor D).oracle (p >>= fun a => pure (answer a)) (some .idle)
      (Monitor.At fun φ a => a.isError = true → φ ≠ .written) := by
  rw [always_bind]
  refine always_mono w ?_
  intro a ψ inside
  obtain ⟨φ, rfl⟩ := Option.isSome_iff_exists.mp inside
  exact ⟨φ, rfl, fun bad => by rw [fine a] at bad; cases bad⟩

end

/-- A call that returns an error has not written. -/
lemma ClientOperation.guarded (call : ClientOperation) :
    (call.program D).Guarded (wellFormedMonitor D) .idle (fun φ a => a.isError = true → φ ≠ .written) := by
  refine guarded_of_always ?_
  cases call with
  | register tenantId cmd =>
    have w := @registerClient_guarded D tenantId cmd
    rw [ClientOperation.program]
    -- The program is not to be unfolded.
    generalize ClientManagement.register D tenantId cmd = p at w ⊢
    exact managed_guarded w fun _ => rfl
  | update tenantId clientId cmd => exact managed_guarded updateClient_guarded fun _ => rfl
  | rotateSecret tenantId clientId => exact managed_guarded rotateClient_guarded fun _ => rfl
  | authorize tenantId req => exact answered_guarded authorize_guarded fun _ => rfl
  | beside program uses => exact answered_guarded (beside_guarded uses) fun _ => rfl

end

/-! ## What a call does -/

section
variable {D : Deploy} {φ : Rewrite Client} {o : Op} {i : Input} {s : Store}

/-- A failed statement changes nothing. -/
lemma exec_fault {q : Stmt} {e : DomainError} (fault : i.fault = some e) : exec D (.db q) i s = (.error e, s) := by
  rw [exec, fault]

/-- A call that does not end up in the phase of having written keeps the clients. -/
lemma exec_keepsClients (unwritten : wellFormedNext φ o (exec D o i s).1 ≠ .written) :
    (exec D o i s).2.clients = s.clients := by
  have w := exec_written (D := D) o i s
  generalize stored : (exec D o i s).2 = s' at w
  cases w with
  | clients q eq rows h =>
    subst eq
    change rows = s.clients
    cases fault : i.fault with
    | some e =>
      rw [exec_fault fault] at stored
      exact (congrArg Store.clients stored).symm
    | none =>
      rw [exec, fault] at unwritten
      cases q with
      | list => exact h.symm
      | update row => exact absurd (by cases φ <;> rfl) unwritten
      | create row =>
        simp only [Stmt.exec, ClientAdminStmt.exec] at unwritten h
        split_ifs at unwritten h
        · exact h.symm
        · exact absurd (by cases φ <;> rfl) unwritten
  | _ => rfl

lemma Client.WellFormed.overwrite {c r : Client} (wellFormed : c.WellFormed D) : (c.overwrite r).WellFormed D :=
  ⟨wellFormed.someUri, wellFormed.distinctUris, wellFormed.uris, wellFormed.distinctScopes, wellFormed.scopes,
    wellFormed.openId, wellFormed.secret⟩

/-- What the statements on clients store. -/
lemma exec_clients_wellFormed {q : ClientAdminStmt} (allowed : wellFormedAllows D φ (.db (.clientAdmin q)))
    (read : ∀ row, φ = .read row → row.WellFormed D) (inv : ∀ c ∈ s.clients, c.WellFormed D) :
    ∀ c ∈ (q.exec D s).2.clients, c.WellFormed D := by
  cases q with
  | list => exact inv
  | create row =>
    simp only [ClientAdminStmt.exec]
    split_ifs
    · exact inv
    · intro c mem
      rcases List.mem_append.mp mem with mem | mem
      · exact inv c mem
      · obtain rfl := List.mem_singleton.mp mem
        exact allowed.2
  | update row' =>
    obtain ⟨row, phase, kept⟩ := allowed
    intro c mem
    obtain ⟨r, old, rfl⟩ := List.mem_map.mp mem
    split_ifs
    · exact (kept (read row phase)).overwrite
    · exact inv r old

/-- What the statements on auth sessions store. -/
lemma exec_sessions_valid {q : AuthSessionStmt} (allowed : wellFormedAllows D φ (.db (.authSessions q)))
    (read : ∀ row, φ = .read row → row.WellFormed D)
    (inv : ∀ a ∈ s.authSessions, ValidRedirectUri D a.redirectUri) :
    ∀ a ∈ (q.exec D s).2.authSessions, ValidRedirectUri D a.redirectUri := by
  -- An `UPDATE` keeps the redirect URI.
  have updated : ∀ id userId (f : AuthSession → AuthSession), (∀ a, (f a).redirectUri = a.redirectUri) →
      ∀ a ∈ (s.updateAuthSession D id userId f).2.authSessions, ValidRedirectUri D a.redirectUri := by
    intro id userId f same a mem
    unfold Store.updateAuthSession at mem
    split_ifs at mem
    · exact inv a mem
    · obtain ⟨a₀, old, rfl⟩ := List.mem_map.mp mem
      split_ifs
      · exact same a₀ ▸ inv a₀ old
      · exact inv a₀ old
  cases q with
  | create session =>
    obtain ⟨row, phase, registered⟩ := allowed
    intro a mem
    simp only [AuthSessionStmt.exec] at mem
    split_ifs at mem
    · exact inv a mem
    · exact inv a mem
    · rcases List.mem_append.mp mem with mem | mem
      · exact inv a mem
      · obtain rfl := List.mem_singleton.mp mem
        exact (read row phase).uris _ registered
  | findById => exact inv
  | setAuthenticatedUser => exact updated _ _ _ fun _ => rfl
  | setPasswordVerified => exact updated _ _ _ fun _ => rfl
  | delete => exact fun a mem => inv a (List.mem_of_mem_filter mem)

/-- A call keeps the store well formed. -/
lemma exec_wellFormed (allowed : wellFormedAllows D φ o) (read : ∀ row, φ = .read row → row.WellFormed D)
    (inv : s.ClientsWellFormed D) : (exec D o i s).2.ClientsWellFormed D := by
  have w := exec_written (D := D) o i s
  generalize (exec D o i s).2 = s' at w
  cases w with
  | clients q eq rows h =>
    subst eq h
    exact ⟨exec_clients_wellFormed allowed read inv.clients, inv.sessions⟩
  | authSessions q eq rows h =>
    subst eq h
    exact ⟨inv.clients, exec_sessions_valid allowed read inv.sessions⟩
  | deleteUser id =>
    refine ⟨inv.clients, fun a mem => ?_⟩
    obtain ⟨a₀, old, rfl⟩ := List.mem_map.mp mem
    split_ifs <;> exact inv.sessions a₀ old
  | _ => exact ⟨inv.clients, inv.sessions⟩

/-- A client that a call has read is a stored one. -/
lemma read_of_next {row : Client} (before : φ ≠ .read row)
    (after : wellFormedNext φ o (exec D o i s).1 = .read row) : row ∈ s.clients := by
  generalize result : (exec D o i s).1 = r at after
  unfold wellFormedNext at after
  split at after
  · rename_i row'
    obtain rfl := Rewrite.read.inj after
    cases fault : i.fault with
    | some e =>
      rw [exec_fault fault] at result
      cases result
    | none =>
      rw [exec, fault] at result
      exact List.mem_of_find?_eq_some (Except.ok.inj result)
  · cases after
  · cases after
  · exact absurd after before

end

/-! ## Every step -/

section
variable {D : Deploy} {c : ClientPool} {x : Nat × Input}

abbrev wellFormedPhase (D : Deploy) (c : ClientPool) (t : Nat) : Rewrite Client :=
  Config.phase (exec D) (wellFormedMonitor D) t c.trace

structure WellFormedHistory (D : Deploy) (c : ClientPool) : Prop where
  guarded : Config.Guarded (exec D) (wellFormedMonitor D) (fun _ φ a => a.isError = true → φ ≠ .written) c
  store : c.store.ClientsWellFormed D
  /-- What the calls have read is well formed. -/
  read : ∀ t row, wellFormedPhase D c t = .read row → row.WellFormed D
  /-- A call that has not written has changed no client. -/
  unwritten : ∀ t, wellFormedPhase D c t ≠ .written → ∀ e ∈ c.trace, e.tid = t →
    (e.post (exec D)).clients = e.pre.clients

lemma WellFormedHistory.staysWellFormed (history : WellFormedHistory D c) : StaysWellFormed D c where
  store := history.store
  failed t _ returned failed := history.unwritten t (history.guarded.returned returned failed)
  clientRedirects client mem uri registered := ((history.store.clients client mem).uris uri registered).redirects
  sessionRedirects session mem := (history.store.sessions session mem).redirects

/-- The phase of having written is not left. -/
lemma wellFormedNext_written (o : Op) (r : o.Res) : wellFormedNext .written o r = .written := by
  unfold wellFormedNext
  split <;> first | rfl | contradiction

lemma WellFormedHistory.step (history : WellFormedHistory D c) :
    WellFormedHistory D (Config.step (exec D) c x) := by
  cases e : c.thread x.1 with
  | ret a =>
    rw [Config.step_ret e]
    exact history
  | call o k =>
    have allowed : wellFormedAllows D (wellFormedPhase D c x.1) o := history.guarded.allowed e
    have next : wellFormedPhase D (Config.step (exec D) c x) x.1 =
        wellFormedNext (wellFormedPhase D c x.1) o (exec D o x.2 c.store).1 := Config.phase_step_self e
    refine ⟨history.guarded.step x, ?_, fun t row phase => ?_, fun t phase => ?_⟩
    · rw [Config.step_call e]
      exact exec_wellFormed allowed (history.read x.1) history.store
    · by_cases own : t = x.1
      · subst own
        by_cases before : wellFormedPhase D c x.1 = .read row
        · exact history.read _ row before
        · rw [next] at phase
          exact history.store.clients row (read_of_next before phase)
      · rw [wellFormedPhase, Config.phase_step_ne own] at phase
        exact history.read t row phase
    · rw [Config.step_call e]
      intro d mem own
      rcases List.mem_append.mp mem with mem | mem
      · refine history.unwritten t ?_ d mem own
        by_cases here : t = x.1
        · subst here
          rw [next] at phase
          exact fun before => phase (before ▸ wellFormedNext_written _ _)
        · rw [wellFormedPhase, Config.phase_step_ne here] at phase
          exact phase
      · obtain rfl := List.mem_singleton.mp mem
        obtain rfl : x.1 = t := own
        rw [next] at phase
        exact exec_keepsClients phase

end

/-- In every interleaving of any operations, the clients stay well formed. -/
theorem clients_well_formed {D : Deploy} {s : Store} {calls : Nat → ClientOperation} (start : s.ClientsWellFormed D)
    (sched : List (Nat × Input)) :
    StaysWellFormed D (Config.exec (exec D) (clientPool D s calls) sched) := by
  refine WellFormedHistory.staysWellFormed
    (Config.exec_invariant (I := WellFormedHistory D) (Config.admissible_true _ sched) ?_ ?_)
  · refine ⟨fun t => (calls t).guarded, start, fun t row bad => (by cases bad), fun t phase e mem => ?_⟩
    cases mem
  · exact fun c x history _ => history.step

namespace Sample

def clientRegistration (redirectUris : List String) : RegisterClientCommand :=
  ⟨"App", .publicClient, redirectUris, ["openid", "profile"], none, [], none, none⟩

/-- Call 1 registers a redirect URI twice. -/
def clientRegistrations : Nat → ClientOperation
  | 1 => .register tenantA (clientRegistration ["https://app.example.com/cb", "https://app.example.com/cb"])
  | _ => .register tenantA (clientRegistration ["https://app.example.com/cb"])

end Sample

open Sample in
set_option maxRecDepth 8000 in
/-- Two registrations from an empty store, the second of which is refused. -/
theorem clients_well_formed_sample :
    let c := Config.exec (exec deploy) (clientPool deploy {} clientRegistrations) (List.replicate 4 (0, input 1))
    c.store.clients.length = 1 ∧
      c.thread 1 = .ret (.registered (.error (.validation "duplicate redirect_uri: https://app.example.com/cb"))) ∧
      StaysWellFormed deploy c := by
  intro c
  exact ⟨by decide +kernel, rfl, clients_well_formed ⟨fun _ mem => (by cases mem), fun _ mem => by cases mem⟩ _⟩

end IdpMvp
