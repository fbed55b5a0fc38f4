import IdpMvp.Program.Overwrite
import IdpMvp.Sample
import IdpMvp.Service.ClientManagement
import IdpMvp.Store.Effects
import IdpMvp.Store.Monitors

/-!
# Overlapping changes of a client

`rotate_secret` and `update` read the whole client, change some of its fields and write all of them back. A
rotated secret and the changed fields last (`client_changes_last`) as long as a call that writes has not been
overtaken: the calls that have written the client since it has read it have only set fields that it sets itself.
-/

namespace IdpMvp

open Program Program.Prog Program.Flow

/-! ## Calls -/

inductive ClientChange where
  | rotate
  | update (cmd : UpdateClientCommand)

/-- A change of a client; a rotation also returns the new secret. -/
def ClientChange.flow (D : Deploy) (tenantId : TenantId) (clientId : String) :
    ClientChange → ServiceFlow ClientManagementError (Client × Option String)
  | rotate => do
    let (client, plain) ← ClientManagement.rotateSecret tenantId clientId
    return (client, some plain)
  | update cmd => do
    return (← ClientManagement.update D tenantId clientId cmd, none)

abbrev ClientChangePool := Program.Config Op.Res Input Store (Except ClientManagementError (Client × Option String))

/-- Changes of one client. -/
def clientChangePool (D : Deploy) (tenantId : TenantId) (clientId : String) (s : Store)
    (calls : Nat → ClientChange) : ClientChangePool :=
  Config.start s fun t => ((calls t).flow D tenantId clientId).run

/-! ## Fields -/

/-- The fields of a client that are changed. -/
inductive ClientField where
  | secretHash
  | appName
  | redirectUris
  | scopes
  | status
  | postLogoutRedirectUris
  | frontchannelLogoutUri
  | backchannelLogoutUri
  deriving DecidableEq

namespace ClientField

@[reducible] def Val : ClientField → Type
  | secretHash | frontchannelLogoutUri | backchannelLogoutUri => Option String
  | appName => String
  | redirectUris | scopes | postLogoutRedirectUris => List String
  | status => ClientStatus

def get (c : Client) : (f : ClientField) → f.Val
  | secretHash => c.clientSecretHash
  | appName => c.appName
  | redirectUris => c.redirectUris
  | scopes => c.scopes
  | status => c.clientStatus
  | postLogoutRedirectUris => c.postLogoutRedirectUris
  | frontchannelLogoutUri => c.frontchannelLogoutUri
  | backchannelLogoutUri => c.backchannelLogoutUri

end ClientField

/-- The fields a call sets itself. -/
def ClientChange.sets : ClientChange → ClientField → Bool
  | rotate, f => f = .secretHash
  | update _, .secretHash => false
  | update cmd, .appName => cmd.appName.isSome
  | update cmd, .redirectUris => cmd.redirectUris.isSome
  | update cmd, .scopes => cmd.scopes.isSome
  | update cmd, .status => cmd.status.isSome
  | update cmd, .postLogoutRedirectUris => cmd.postLogoutRedirectUris.isSome
  | update cmd, .frontchannelLogoutUri => cmd.frontchannelLogoutUri.isSome
  | update cmd, .backchannelLogoutUri => cmd.backchannelLogoutUri.isSome

/-- The client as `find_by_client_id` finds it. -/
def Store.findClient (D : Deploy) (s : Store) (tenantId : TenantId) (clientId : String) : Option Client :=
  s.clients.find? fun c => c.tenantId = tenantId ∧ D.coll c.clientId = D.coll clientId

/-- The secret is the client's: it verifies against the stored hash. -/
def Authenticates (D : Deploy) (tenantId : TenantId) (clientId : String) (s : Store) (secret : String) : Prop :=
  ∃ c hash, s.findClient D tenantId clientId = some c ∧ c.clientSecretHash = some hash ∧
    D.verifyPassword secret hash = .ok true

/-! ## What is promised -/

/-- The entry has read the client. -/
def ReadsClient (tenantId : TenantId) (clientId : String) (e : Program.Entry Op Input Store) : Prop :=
  e.op = .db (.clients (.findByClientId tenantId clientId)) ∧ e.input.fault = none

/-- The entry has written a client. -/
def WritesClient (e : Program.Entry Op Input Store) : Prop :=
  ∃ row, e.op = .db (.clientAdmin (.update row)) ∧ e.input.fault = none

/-- Call `t` has read the client before call `u` has. -/
def StartedBefore (tenantId : TenantId) (clientId : String) (trace : List (Program.Entry Op Input Store))
    (t u : Nat) : Prop :=
  ∃ before r after, trace = before ++ r :: after ∧ r.tid = u ∧ ReadsClient tenantId clientId r ∧
    ∃ d ∈ before, d.tid = t ∧ ReadsClient tenantId clientId d

section
variable (D : Deploy) (tenantId : TenantId) (clientId : String) (calls : Nat → ClientChange)

/-- Once a rotation has written, no secret that was valid before is; and a field an update has written is as it
wrote it, unless a call that has started later has set it too. A call that has returned without an error has
written. -/
structure ChangesLast (c : ClientChangePool) : Prop where
  secret : ∀ before e after, c.trace = before ++ e :: after → calls e.tid = .rotate → WritesClient e →
    ∀ d ∈ before ++ [e], ∀ secret, Authenticates D tenantId clientId d.pre secret →
      ¬ Authenticates D tenantId clientId c.store secret
  fields : ∀ before e after, c.trace = before ++ e :: after → ∀ cmd, calls e.tid = .update cmd →
    WritesClient e → ∀ f, (calls e.tid).sets f = true →
      (c.store.findClient D tenantId clientId).map f.get =
          ((e.post (exec D)).findClient D tenantId clientId).map f.get ∨
        ∃ d ∈ after, WritesClient d ∧ (calls d.tid).sets f = true ∧
          StartedBefore tenantId clientId c.trace e.tid d.tid
  returned : ∀ t a, c.thread t = .ret (.ok a) → ∃ e ∈ c.trace, e.tid = t ∧ WritesClient e

/-- A call that writes has not been overtaken: whoever has written the client since it has read it has only set
fields that it sets too, and was there first, unless both are rotations. And the hash of a new secret is not one
that a secret that was valid before verifies against. -/
structure NotOvertaken (c : ClientChangePool) (x : Nat × Input) : Prop where
  covered : ∀ row k, c.thread x.1 = .call (.db (.clientAdmin (.update row))) k → x.2.fault = none →
    ∀ before r after, c.trace = before ++ r :: after → r.tid = x.1 → ReadsClient tenantId clientId r →
      ∀ d ∈ after, WritesClient d → ∀ f, (calls d.tid).sets f = true → (calls x.1).sets f = true ∧
        (f = .secretHash ∨ ∃ r' ∈ before, r'.tid = d.tid ∧ ReadsClient tenantId clientId r')
  fresh : ∀ row k, c.thread x.1 = .call (.db (.clientAdmin (.update row))) k → x.2.fault = none →
    calls x.1 = .rotate → ∀ hash, row.clientSecretHash = some hash →
      ∀ secret, (Authenticates D tenantId clientId c.store secret ∨
        ∃ d ∈ c.trace, Authenticates D tenantId clientId d.pre secret) → D.verifyPassword secret hash ≠ .ok true

end

/-! ## Where a call is -/

/-- Where the result of a call leads. -/
def clientRewriteNext (tenantId : TenantId) (clientId : String) (φ : Rewrite Client) (o : Op) (r : o.Res) :
    Rewrite Client :=
  match φ, o, r with
  | .idle, .db (.clients (.findByClientId t i)), .ok (some row) =>
    if t = tenantId ∧ i = clientId then .read row else .idle
  | .read _, .db (.clientAdmin (.update _)), .ok _ => .written
  | φ, _, _ => φ

/-- The client a call writes back is the one it has read, but for the fields it sets. -/
structure WritesBack (call : ClientChange) (row row' : Client) : Prop where
  id : row'.id = row.id
  tenantId : row'.tenantId = row.tenantId
  kept : ∀ f, call.sets f = false → f.get row' = f.get row

/-- The calls of a phase. -/
def clientRewriteAllows (tenantId : TenantId) (clientId : String) (call : ClientChange) (φ : Rewrite Client) :
    Op → Prop
  | .db (.clients (.findByClientId t i)) => t = tenantId ∧ i = clientId
  | .db (.clientAdmin (.update row')) => ∃ row, φ = .read row ∧ WritesBack call row row'
  | .db _ => False
  | _ => True

def clientRewriteMonitor (tenantId : TenantId) (clientId : String) (call : ClientChange) :
    Monitor Op.Res (Rewrite Client) where
  init := .idle
  ok := clientRewriteAllows tenantId clientId call
  next := clientRewriteNext tenantId clientId

section
variable {D : Deploy} {tenantId : TenantId} {clientId : String} {call : ClientChange}

/-- The last statement of a call. -/
lemma writeBack_guarded {ε α : Type} {row row' : Client} {f : DomainError → ε} {a : α}
    (back : WritesBack call row row') :
    alwaysE (clientRewriteMonitor tenantId clientId call).oracle
      (orLeave (db (.clientAdmin (.update row'))) f >>= fun _ => (pure a : ServiceFlow ε α)) (some (.read row))
      (fun _ ψ => ψ = some .written) (fun _ ψ => ψ.isSome = true) := by
  refine guard_db_step ⟨row, rfl, back⟩ (fun _ => rfl) fun _ => ?_
  rfl

lemma load_guarded :
    alwaysE (clientRewriteMonitor tenantId clientId call).oracle (ClientManagement.load tenantId clientId)
      (some .idle) (fun row ψ => ψ = some (.read row)) (fun _ ψ => ψ.isSome = true) := by
  unfold ClientManagement.load
  refine guard_db_step ⟨rfl, rfl⟩ (fun _ => rfl) ?_
  rintro (_ | row)
  · rfl
  · exact congrArg some (if_pos ⟨rfl, rfl⟩)

lemma rotateSecret_guarded :
    alwaysE (clientRewriteMonitor tenantId clientId .rotate).oracle
      (ClientManagement.rotateSecret tenantId clientId) (some .idle)
      (fun _ ψ => ψ = some .written) (fun _ ψ => ψ.isSome = true) := by
  unfold ClientManagement.rotateSecret
  refine alwaysE_bind_of load_guarded (fun _ _ left => left) ?_
  rintro row _ rfl
  refine ensure_step (fun _ => rfl) fun _ => ?_
  refine aside_step (P := fun o => ∀ q, o ≠ .db q) ?_ ?_ (fun _ => rfl) fun secret => ?_
  · refine uses_bind (uses_lift (uses_op fun q eq => by cases eq)) fun plain => ?_
    exact uses_bind (uses_orLeave (uses_op fun q eq => by cases eq) _) fun _ => trivial
  · intro o outside
    cases o with
    | db q => exact absurd rfl (outside q)
    | _ => exact ⟨trivial, fun _ => rfl⟩
  · exact writeBack_guarded ⟨rfl, rfl, fun f unset => by cases f <;> first | rfl | cases unset⟩

lemma changed_unset {α β : Type} {field : Option α} {old value : β}
    {validate : α → Except ClientManagementError β} (unset : field.isSome = false)
    (changed : ClientManagement.changed field old validate = .ok value) : value = old := by
  rw [Option.isSome_eq_false_iff, Option.isNone_iff_eq_none] at unset
  rw [unset] at changed
  exact (Except.ok.inj changed).symm

lemma getD_unset {α : Type} {field : Option α} {old : α} (unset : field.isSome = false) : field.getD old = old := by
  rw [Option.isSome_eq_false_iff, Option.isNone_iff_eq_none] at unset
  rw [unset, Option.getD_none]

/-- A field that is not in the command is not changed. -/
lemma applyUpdate_back {cmd : UpdateClientCommand} {row row' : Client}
    (applied : ClientManagement.applyUpdate D cmd row = .ok row') : WritesBack (.update cmd) row row' := by
  obtain ⟨appName, redirectUris, scopes, name, uris, list, rfl⟩ := ClientManagement.applyUpdate_ok applied
  refine ⟨rfl, rfl, fun f unset => ?_⟩
  cases f with
  | secretHash => rfl
  | appName => exact changed_unset unset name
  | redirectUris => exact changed_unset unset uris
  | scopes => exact changed_unset unset list
  | status | postLogoutRedirectUris | frontchannelLogoutUri | backchannelLogoutUri =>
    exact getD_unset unset

lemma update_guarded {cmd : UpdateClientCommand} :
    alwaysE (clientRewriteMonitor tenantId clientId (.update cmd)).oracle
      (ClientManagement.update D tenantId clientId cmd) (some .idle)
      (fun _ ψ => ψ = some .written) (fun _ ψ => ψ.isSome = true) := by
  unfold ClientManagement.update
  refine alwaysE_bind_of load_guarded (fun _ _ left => left) ?_
  rintro row _ rfl
  refine orThrow_step (fun _ _ => rfl) fun row' applied => ?_
  exact writeBack_guarded (applyUpdate_back applied)

/-- A call that returns without an error has written. -/
lemma ClientChange.guarded (call : ClientChange) :
    (call.flow D tenantId clientId).run.Guarded (clientRewriteMonitor tenantId clientId call) .idle
      (fun φ r => ∀ a, r = .ok a → φ = .written) := by
  refine guarded_of_alwaysE ?_
  cases call with
  | rotate =>
    refine alwaysE_bind_of rotateSecret_guarded (fun _ _ left => left) ?_
    rintro ⟨client, plain⟩ _ rfl
    exact ⟨_, rfl, rfl⟩
  | update cmd =>
    refine alwaysE_bind_of update_guarded (fun _ _ left => left) ?_
    rintro client _ rfl
    exact ⟨_, rfl, rfl⟩

end

/-! ## What a call does -/

section
variable {D : Deploy} {tenantId : TenantId} {clientId : String}

/-- An `UPDATE` that does not fail. -/
lemma exec_clientUpdate {row : Client} {i : Input} {s : Store} (executed : i.fault = none) :
    (exec D (.db (.clientAdmin (.update row))) i s).2.findClient D tenantId clientId =
      (s.findClient D tenantId clientId).map fun r =>
        if r.id = row.id ∧ r.tenantId = row.tenantId then row.overwrite r else r := by
  rw [exec, executed]
  simp only [Stmt.exec, ClientAdminStmt.exec, Store.findClient, List.find?_map]
  congr 2
  funext r
  simp only [Function.comp]
  split_ifs <;> rfl

/-- Nothing else changes the client. -/
lemma exec_findClient {φ : Rewrite Client} {call : ClientChange} {o : Op} {i : Input} {s : Store}
    (allowed : clientRewriteAllows tenantId clientId call φ o)
    (other : ∀ row, o = .db (.clientAdmin (.update row)) → i.fault ≠ none) :
    (exec D o i s).2.findClient D tenantId clientId = s.findClient D tenantId clientId := by
  have same : (exec D o i s).2.clients = s.clients := by
    by_cases update : ∃ row, o = .db (.clientAdmin (.update row))
    · obtain ⟨row, rfl⟩ := update
      obtain ⟨e, fault⟩ := Option.ne_none_iff_exists'.mp (other row rfl)
      rw [exec, fault]
    · have w := exec_written (D := D) o i s
      generalize (exec D o i s).2 = s' at w
      cases w with
      | clients q eq =>
        subst eq
        cases q with
        | update row => exact absurd ⟨row, rfl⟩ update
        | create => exact allowed.elim
        | list => exact allowed.elim
      | _ => rfl
  rw [Store.findClient, same, Store.findClient]

/-- A call that enters the phase of having read the client has done so. -/
lemma reads_of_next {φ : Rewrite Client} {e : Program.Entry Op Input Store} {row : Client} (before : φ ≠ .read row)
    (after : clientRewriteNext tenantId clientId φ e.op (e.res (exec D)) = .read row) :
    ReadsClient tenantId clientId e ∧ (e.post (exec D)).findClient D tenantId clientId = some row := by
  obtain ⟨⟨o, i, s⟩, t⟩ := e
  change clientRewriteNext tenantId clientId φ o (exec D o i s).1 = .read row at after
  change ReadsClient tenantId clientId ⟨⟨o, i, s⟩, t⟩ ∧ (exec D o i s).2.findClient D tenantId clientId = some row
  generalize result : (exec D o i s).1 = r at after
  unfold clientRewriteNext at after
  split at after
  · rename_i t' i' row'
    split_ifs at after with same
    obtain ⟨rfl, rfl⟩ := same
    obtain rfl := Rewrite.read.inj after
    cases fault : i.fault with
    | some e =>
      rw [exec, fault] at result
      cases result
    | none =>
      rw [exec, fault] at result ⊢
      exact ⟨⟨rfl, fault⟩, Except.ok.inj result⟩
  · cases after
  · exact absurd after before

/-- A call that enters the phase of having written has done so. -/
lemma writes_of_next {φ : Rewrite Client} {e : Program.Entry Op Input Store} (before : φ ≠ .written)
    (after : clientRewriteNext tenantId clientId φ e.op (e.res (exec D)) = .written) : WritesClient e := by
  obtain ⟨⟨o, i, s⟩, t⟩ := e
  change clientRewriteNext tenantId clientId φ o (exec D o i s).1 = .written at after
  generalize result : (exec D o i s).1 = r at after
  unfold clientRewriteNext at after
  split at after
  · split_ifs at after
  · rename_i row row' v
    refine ⟨row', rfl, ?_⟩
    cases fault : i.fault with
    | some e =>
      rw [exec, fault] at result
      cases result
    | none => rfl
  · exact absurd after before

end

/-! ## The invariant -/

section
variable (D : Deploy) (tenantId : TenantId) (clientId : String) (calls : Nat → ClientChange)

/-- The entry has written a field that its call sets. -/
def SetsField (f : ClientField) (e : Program.Entry Op Input Store) : Prop :=
  WritesClient e ∧ (calls e.tid).sets f = true

abbrev clientRewritePhase (c : ClientChangePool) (t : Nat) : Rewrite Client :=
  Config.phase (exec D) (clientRewriteMonitor tenantId clientId (calls t)) t c.trace

structure ClientHistory (c : ClientChangePool) : Prop where
  guarded : Config.GuardedBy (exec D) (fun t => clientRewriteMonitor tenantId clientId (calls t))
    (fun _ φ r => ∀ a, r = .ok a → φ = .written) c
  /-- Only the calls that set a field have changed it. -/
  settled : ∀ f, Config.Settled (exec D) (fun s => (s.findClient D tenantId clientId).map f.get)
    (SetsField calls f) c
  /-- The client is the same row all the time. -/
  row : Config.Settled (exec D) (fun s => (s.findClient D tenantId clientId).map fun r => (r.id, r.tenantId))
    (fun _ => False) c
  /-- Who has written is done, and had read before. -/
  wrote : ∀ before e after, c.trace = before ++ e :: after → WritesClient e →
    clientRewritePhase D tenantId clientId calls c e.tid = .written ∧
      ∃ r ∈ before, r.tid = e.tid ∧ ReadsClient tenantId clientId r
  /-- A rotation leaves none of the secrets that were valid before. -/
  fresh : ∀ before e after, c.trace = before ++ e :: after → calls e.tid = .rotate → WritesClient e →
    ∀ d ∈ before ++ [e], ∀ secret, Authenticates D tenantId clientId d.pre secret →
      ¬ Authenticates D tenantId clientId (e.post (exec D)) secret
  /-- Of two calls that set a field, the one that has written first has started first. -/
  ordered : ∀ before e after, c.trace = before ++ e :: after → ∀ d ∈ after, ∀ f, f ≠ .secretHash →
    SetsField calls f e → SetsField calls f d → StartedBefore tenantId clientId c.trace e.tid d.tid

end

section
variable {D : Deploy} {tenantId : TenantId} {clientId : String} {calls : Nat → ClientChange}
variable {c : ClientChangePool} {x : Nat × Input}

lemma StartedBefore.append {trace : List (Program.Entry Op Input Store)} {t u : Nat}
    (started : StartedBefore tenantId clientId trace t u) (e : Program.Entry Op Input Store) :
    StartedBefore tenantId clientId (trace ++ [e]) t u := by
  obtain ⟨before, r, after, rfl, rest⟩ := started
  exact ⟨before, r, after ++ [e], by simp, rest⟩

/-- Whether a secret is the client's depends on the hash alone. -/
lemma Authenticates.of_same {s s' : Store} {secret : String}
    (valid : Authenticates D tenantId clientId s secret)
    (same : (s'.findClient D tenantId clientId).map (ClientField.secretHash.get) =
      (s.findClient D tenantId clientId).map (ClientField.secretHash.get)) :
    Authenticates D tenantId clientId s' secret := by
  obtain ⟨r, hash, row, stored, verified⟩ := valid
  rw [row, Option.map_some, Option.map_eq_some_iff] at same
  obtain ⟨r', row', hash'⟩ := same
  exact ⟨r', hash, row', hash'.trans stored, verified⟩

lemma ClientHistory.changesLast (history : ClientHistory D tenantId clientId calls c) :
    ChangesLast D tenantId clientId calls c where
  secret before e after split rotates writes d mem secret valid now := by
    obtain ⟨before', e', after', split', later, ⟨writes', sets'⟩, value⟩ :=
      (history.settled .secretHash).last split ⟨writes, by rw [rotates]; rfl⟩
    have rotates' : calls e'.tid = .rotate := by
      cases call : calls e'.tid with
      | rotate => rfl
      | update cmd =>
        rw [call] at sets'
        cases sets'
    exact history.fresh before' e' after' split' rotates' writes' d (later.subset mem) secret valid
      (now.of_same value.symm)
  fields before e after split cmd update writes f sets := by
    by_cases later : ∃ d ∈ after, SetsField calls f d
    · obtain ⟨d, mem, setsIt⟩ := later
      have notSecret : f ≠ .secretHash := by
        rintro rfl
        rw [update] at sets
        cases sets
      exact .inr ⟨d, mem, setsIt.1, setsIt.2,
        history.ordered before e after split d mem f notSecret ⟨writes, sets⟩ setsIt⟩
    · exact .inl (history.settled f before e after split fun d mem setsIt => later ⟨d, mem, setsIt⟩)
  returned t a returned := by
    have done := history.guarded.returned returned a rfl
    obtain ⟨earlier, e, after, split, own, before, entered⟩ :=
      Config.phase_entered (P := (· = Rewrite.written)) (fun bad => by cases bad) done
    exact ⟨e, split ▸ List.mem_append_right _ List.mem_cons_self, own, writes_of_next before entered⟩

end

/-! ## Every step -/

section
variable {D : Deploy} {tenantId : TenantId} {clientId : String} {calls : Nat → ClientChange}
variable {c : ClientChangePool} {x : Nat × Input} {o : Op}
  {k : o.Res → Service (Except ClientManagementError (Client × Option String))}

/-- The entry of the next call. -/
abbrev clientEntry (c : ClientChangePool) (x : Nat × Input) (o : Op) : Program.Entry Op Input Store :=
  ⟨⟨o, x.2, c.store⟩, x.1⟩

lemma get_overwrite (f : ClientField) (row r : Client) : f.get (row.overwrite r) = f.get row := by
  cases f <;> rfl

/-- What is known of a call that writes: it has read the client, in the place of the trace where it entered its
phase. -/
lemma ClientHistory.writer (history : ClientHistory D tenantId clientId calls c)
    (e : c.thread x.1 = .call o k) (writes : WritesClient (clientEntry c x o)) :
    ∃ row row', o = .db (.clientAdmin (.update row')) ∧ x.2.fault = none ∧ WritesBack (calls x.1) row row' ∧
      clientRewritePhase D tenantId clientId calls c x.1 = .read row ∧
      ∃ before r after, c.trace = before ++ r :: after ∧ r.tid = x.1 ∧ ReadsClient tenantId clientId r ∧
        (r.post (exec D)).findClient D tenantId clientId = some row := by
  obtain ⟨row', rfl, executed⟩ := writes
  obtain ⟨row, phase, back⟩ := history.guarded.allowed e
  obtain ⟨before, r, after, split, own, earlier, entered⟩ :=
    Config.phase_entered (P := (· = Rewrite.read row)) (fun bad => by cases bad) phase
  exact ⟨row, row', rfl, executed, back, phase, before, r, after, split, own, reads_of_next earlier entered⟩

/-- The client is the same row since any entry. -/
lemma ClientHistory.sameRow (history : ClientHistory D tenantId clientId calls c)
    {before after : List (Program.Entry Op Input Store)} {r : Program.Entry Op Input Store} {row : Client}
    (split : c.trace = before ++ r :: after)
    (found : (r.post (exec D)).findClient D tenantId clientId = some row) :
    ∃ r₀, c.store.findClient D tenantId clientId = some r₀ ∧ r₀.id = row.id ∧ r₀.tenantId = row.tenantId := by
  have same := history.row before r after split fun _ _ bad => bad
  simp only [found, Option.map_some, Option.map_eq_some_iff] at same
  obtain ⟨r₀, stored, ids⟩ := same
  exact ⟨r₀, stored, congrArg Prod.fst ids, congrArg Prod.snd ids⟩

/-- A call that does not set a field keeps it. -/
lemma ClientHistory.kept (history : ClientHistory D tenantId clientId calls c)
    (apart : NotOvertaken D tenantId clientId calls c x) (e : c.thread x.1 = .call o k) (f : ClientField)
    (unset : ¬ SetsField calls f (clientEntry c x o)) :
    ((exec D o x.2 c.store).2.findClient D tenantId clientId).map f.get =
      (c.store.findClient D tenantId clientId).map f.get := by
  by_cases writes : WritesClient (clientEntry c x o)
  · obtain ⟨row, row', rfl, executed, back, -, before, r, after, split, own, reads, found⟩ :=
      history.writer e writes
    have notSet : (calls x.1).sets f = false := Bool.eq_false_iff.mpr fun sets => unset ⟨writes, sets⟩
    -- Nobody has set the field since the reading.
    have since : ∀ d ∈ after, ¬ SetsField calls f d := by
      intro d mem sets
      have covers := apart.covered row' k e executed before r after split own reads d mem sets.1 f sets.2
      rw [notSet] at covers
      cases covers.1
    have value := history.settled f before r after split since
    simp only [found, Option.map_some, Option.map_eq_some_iff] at value
    obtain ⟨r₀, stored, same⟩ := value
    rw [exec_clientUpdate executed, stored, Option.map_some, Option.map_some, Option.map_some]
    split_ifs
    · rw [get_overwrite, back.kept f notSet, same]
    · rfl
  · rw [exec_findClient (history.guarded.allowed e) fun row eq executed => writes ⟨row, eq, executed⟩]

/-- A rotation that writes leaves none of the secrets that were valid before. -/
lemma ClientHistory.rotated (history : ClientHistory D tenantId clientId calls c)
    (apart : NotOvertaken D tenantId clientId calls c x) (e : c.thread x.1 = .call o k)
    (rotates : calls x.1 = .rotate) (writes : WritesClient (clientEntry c x o)) {secret : String}
    (valid : Authenticates D tenantId clientId c.store secret ∨
      ∃ d ∈ c.trace, Authenticates D tenantId clientId d.pre secret) :
    ¬ Authenticates D tenantId clientId (exec D o x.2 c.store).2 secret := by
  obtain ⟨row, row', rfl, executed, back, -, before, r, after, split, -, -, found⟩ := history.writer e writes
  obtain ⟨r₀, stored, id, tenant⟩ := history.sameRow split found
  rintro ⟨r', hash, there, hashed, verified⟩
  rw [exec_clientUpdate executed, stored, Option.map_some, Option.some.injEq,
    if_pos ⟨id.trans back.id.symm, tenant.trans back.tenantId.symm⟩] at there
  subst there
  exact apart.fresh row' k e executed rotates hash hashed secret valid verified

/-- A call that writes and sets a field has started after those that have set it before. -/
lemma ClientHistory.startsLater (history : ClientHistory D tenantId clientId calls c)
    (apart : NotOvertaken D tenantId clientId calls c x) (e : c.thread x.1 = .call o k) {f : ClientField}
    (notSecret : f ≠ .secretHash) (sets : SetsField calls f (clientEntry c x o)) {d : Program.Entry Op Input Store}
    {earlier rest : List (Program.Entry Op Input Store)} (made : c.trace = earlier ++ d :: rest)
    (sets' : SetsField calls f d) : StartedBefore tenantId clientId c.trace d.tid x.1 := by
  obtain ⟨row, row', rfl, executed, -, -, before, r, after, split, own, reads, -⟩ := history.writer e sets.1
  refine ⟨before, r, after, split, own, reads, ?_⟩
  have place : d ∈ before ++ r :: after := split ▸ made ▸ List.mem_append_right _ List.mem_cons_self
  rcases List.mem_append.mp place with first | later
  · obtain ⟨b, a, rfl⟩ := List.append_of_mem first
    obtain ⟨-, r', mem, own', reads'⟩ := history.wrote b d (a ++ r :: after) (by simpa using split) sets'.1
    exact ⟨r', List.mem_append_left _ mem, own', reads'⟩
  · rcases List.mem_cons.mp later with rfl | later
    · obtain ⟨row₁, write, -⟩ := sets'.1
      rw [reads.1] at write
      cases write
    · have covers := apart.covered row' k e executed before r after split own reads d later sets'.1 f sets'.2
      exact covers.2.resolve_left notSecret

lemma ClientHistory.step (history : ClientHistory D tenantId clientId calls c)
    (apart : NotOvertaken D tenantId clientId calls c x) :
    ClientHistory D tenantId clientId calls (Config.step (exec D) c x) := by
  cases e : c.thread x.1 with
  | ret a =>
    rw [Config.step_ret e]
    exact history
  | call o k =>
    have trace' : (Config.step (exec D) c x).trace = c.trace ++ [clientEntry c x o] := by rw [Config.step_call e]
    have next : clientRewritePhase D tenantId clientId calls (Config.step (exec D) c x) x.1 =
        clientRewriteNext tenantId clientId (clientRewritePhase D tenantId clientId calls c x.1) o
          (exec D o x.2 c.store).1 := Config.phase_step_self e
    refine ⟨history.guarded.step x, fun f => ?_, ?_, ?_, ?_, ?_⟩
    · refine (history.settled f).step fun o' k' e' unset => ?_
      exact history.kept apart e' f unset
    · refine history.row.step fun o' k' e' _ => ?_
      by_cases writes : WritesClient (clientEntry c x o')
      · obtain ⟨row', rfl, executed⟩ := writes
        simp only [exec_clientUpdate executed, Option.map_map]
        congr 1
        funext r
        simp only [Function.comp]
        split_ifs <;> rfl
      · exact congrArg (Option.map _) (exec_findClient (history.guarded.allowed e') fun row eq executed =>
          writes ⟨row, eq, executed⟩)
    · -- Who has written is done.
      rw [trace']
      intro before d after split writes
      obtain ⟨rfl, rfl⟩ | ⟨rest, rfl, earlier⟩ := snoc_split split
      · obtain ⟨row, row', rfl, executed, -, phase, before, r, after, split, own, reads, -⟩ :=
          history.writer e writes
        refine ⟨?_, r, split ▸ List.mem_append_right _ List.mem_cons_self, own, reads⟩
        rw [phase, exec, executed] at next
        exact next
      · obtain ⟨done, read⟩ := history.wrote before d rest earlier writes
        refine ⟨?_, read⟩
        by_cases own : d.tid = x.1
        · rw [own] at done ⊢
          rw [done] at next
          exact next
        · exact (Config.phase_step_ne own).trans done
    · rw [trace']
      intro before d after split rotates writes d' mem secret valid
      obtain ⟨rfl, rfl⟩ | ⟨rest, rfl, earlier⟩ := snoc_split split
      · refine history.rotated apart e rotates writes ?_
        rcases List.mem_append.mp mem with mem | mem
        · exact .inr ⟨d', mem, valid⟩
        · obtain rfl := List.mem_singleton.mp mem
          exact .inl valid
      · exact history.fresh before d rest earlier rotates writes d' mem secret valid
    · rw [trace']
      intro before d after split d' mem f notSecret sets sets'
      obtain ⟨rfl, rfl⟩ | ⟨rest, rfl, earlier⟩ := snoc_split split
      · obtain rfl : after = [] := by simpa using split
        cases mem
      · rcases List.mem_append.mp mem with mem | mem
        · exact (history.ordered before d rest earlier d' mem f notSecret sets sets').append _
        · obtain rfl := List.mem_singleton.mp mem
          exact (history.startsLater apart e notSecret sets' earlier sets).append _

end

/-- In every interleaving of changes of a client in which no call that writes has been overtaken, rotated
secrets and changed fields last. -/
theorem client_changes_last {D : Deploy} {tenantId : TenantId} {clientId : String} {s : Store}
    {calls : Nat → ClientChange} {sched : List (Nat × Input)}
    (apart : Config.Admissible (exec D) (NotOvertaken D tenantId clientId calls)
      (clientChangePool D tenantId clientId s calls) sched) :
    ChangesLast D tenantId clientId calls
      (Config.exec (exec D) (clientChangePool D tenantId clientId s calls) sched) := by
  refine ClientHistory.changesLast
    (Config.exec_invariant (I := ClientHistory D tenantId clientId calls) apart ?_ ?_)
  · refine ⟨fun t => (calls t).guarded, fun f => Config.settled_start _ _, Config.settled_start _ _, ?_, ?_, ?_⟩
    all_goals
      intro before e after split
      cases before <;> cases split
  · intro c x history apart
    exact history.step apart

/-! ## A rotation that is overtaken -/

namespace Sample

/-- The deployment with a password hash that shows its password. -/
def clientDeploy : Deploy :=
  { deploy with
    hashPassword := fun _ password => .ok ("argon2:" ++ password)
    verifyPassword := fun password hash => .ok (hash = "argon2:" ++ password) }

/-- A confidential client whose secret is `old`. -/
def confidentialClient : Client :=
  { publicClient tenantA "service" with
    clientSecretHash := some "argon2:old"
    clientType := .confidential
    tokenEndpointAuthMethod := .clientSecretBasic }

def clientStore : Store := { store with clients := [confidentialClient] }

def nameChange : UpdateClientCommand := ⟨some "Renamed", none, none, none, none, none, none⟩

/-- Call 0 renames the client, the others rotate its secret. -/
def clientChanges : Nat → ClientChange
  | 0 => .update nameChange
  | _ => .rotate

def clientChangeStart : ClientChangePool := clientChangePool clientDeploy tenantA "service" clientStore clientChanges

/-- The rotation runs between the reading and the writing of the other call. -/
def overtaken : List (Nat × Input) := (0, input 1) :: List.replicate 4 (1, input 1) ++ [(0, input 1)]

/-- The stored hash is that of the old secret. -/
def holdsOld (s : Store) : Bool :=
  (s.findClient clientDeploy tenantA "service").map (ClientField.secretHash.get) = some (some "argon2:old")

lemma holdsOld_iff {s : Store} {secret : String} (old : holdsOld s = true) :
    Authenticates clientDeploy tenantA "service" s secret ↔
      clientDeploy.verifyPassword secret "argon2:old" = .ok true := by
  have stored := of_decide_eq_true old
  rw [Option.map_eq_some_iff] at stored
  obtain ⟨c, row, hashed⟩ := stored
  constructor
  · rintro ⟨c', hash, row', hashed', verified⟩
    cases row.symm.trans row'
    cases hashed.symm.trans hashed'
    exact verified
  · intro verified
    exact ⟨c, _, row, hashed, verified⟩

/-- The hash the next call is about to write. -/
def nextHash : Service (Except ClientManagementError (Client × Option String)) → Option String
  | .call (.db (.clientAdmin (.update row))) _ => row.clientSecretHash
  | _ => none

def isUpdate : Op → Bool
  | .db (.clientAdmin (.update _)) => true
  | _ => false

/-- Nothing is written yet, and the old hash is not written again. -/
def firstWrite (c : ClientChangePool) (x : Nat × Input) : Bool :=
  nextHash (c.thread x.1) ≠ some "argon2:old" ∧ holdsOld c.store = true ∧
    ∀ e ∈ c.trace, holdsOld e.pre = true ∧ isUpdate e.op = false

lemma firstWrite_apart (c : ClientChangePool) (x : Nat × Input) (first : firstWrite c x = true) :
    NotOvertaken clientDeploy tenantA "service" clientChanges c x := by
  obtain ⟨new, old, entries⟩ := of_decide_eq_true first
  refine ⟨fun row k _ _ before r after split _ _ d mem writes => ?_, fun row k e _ _ hash stored secret valid => ?_⟩
  · obtain ⟨row', op, -⟩ := writes
    have made : d ∈ c.trace := split ▸ List.mem_append_right _ (List.mem_cons_of_mem _ mem)
    have unwritten := (entries d made).2
    rw [op] at unwritten
    cases unwritten
  · have validOld : clientDeploy.verifyPassword secret "argon2:old" = .ok true := by
      rcases valid with now | ⟨d, made, then'⟩
      · exact (holdsOld_iff old).mp now
      · exact (holdsOld_iff (entries d made).1).mp then'
    intro verified
    have same := (of_decide_eq_true (Except.ok.inj validOld)).trans
      (of_decide_eq_true (Except.ok.inj verified)).symm
    rw [e] at new
    exact new (stored.trans (congrArg some same.symm))

end Sample

open Sample in
set_option maxRecDepth 4000 in
/-- The secret that was rotated away is valid again. -/
theorem overtaken_rotation_restores_old_secret :
    let c := Config.exec (exec clientDeploy) clientChangeStart overtaken
    Authenticates clientDeploy tenantA "service" c.store "old" ∧
      ¬ ChangesLast clientDeploy tenantA "service" clientChanges c := by
  intro c
  have valid : clientDeploy.verifyPassword "old" "argon2:old" = .ok true := rfl
  have again : Authenticates clientDeploy tenantA "service" c.store "old" :=
    (holdsOld_iff (by decide +kernel)).mpr valid
  refine ⟨again, fun lasts => ?_⟩
  have rotated : ∃ a, c.thread 1 = .ret (.ok a) := ⟨_, rfl⟩
  obtain ⟨a, rotated⟩ := rotated
  obtain ⟨e, made, own, writes⟩ := lasts.returned 1 a rotated
  obtain ⟨before, after, split⟩ := List.append_of_mem made
  have old : ∀ e ∈ c.trace, e.tid = 1 → holdsOld e.pre = true := by decide +kernel
  refine lasts.secret before e after split (by rw [own]; rfl) writes e (by simp) "old" ?_ again
  exact (holdsOld_iff (old e made own)).mpr valid

namespace Sample

def rotationTurn : List (Nat × Input) := List.replicate 4 (1, input 1)

def updateTurn : List (Nat × Input) := List.replicate 2 (0, input 1)

/-- Call 0 makes its step, and since it has begun nobody has written. -/
def updatesAlone (c : ClientChangePool) (x : Nat × Input) : Bool :=
  x.1 = 0 ∧ (c.trace.dropWhile (·.tid ≠ 0)).all fun e => !isUpdate e.op

lemma mem_since {t : Nat} {r d : Program.Entry Op Input Store} {before after : List (Program.Entry Op Input Store)}
    (own : r.tid = t) (mem : d ∈ after) : d ∈ (before ++ r :: after).dropWhile (·.tid ≠ t) := by
  induction before with
  | nil =>
    rw [List.nil_append, List.dropWhile_cons_of_neg (by simp [own])]
    exact List.mem_cons_of_mem _ mem
  | cons e before ih =>
    by_cases begun : e.tid = t
    · rw [List.cons_append, List.dropWhile_cons_of_neg (by simp [begun])]
      exact List.mem_cons_of_mem _ (List.mem_append_right _ (List.mem_cons_of_mem _ mem))
    · rwa [List.cons_append, List.dropWhile_cons_of_pos (by simp [begun])]

lemma updatesAlone_apart (c : ClientChangePool) (x : Nat × Input) (alone : updatesAlone c x = true) :
    NotOvertaken clientDeploy tenantA "service" clientChanges c x := by
  obtain ⟨zero, unwritten⟩ := of_decide_eq_true alone
  refine ⟨fun row k _ _ before r after split own _ d mem writes => ?_, fun row k _ _ rotates => ?_⟩
  · obtain ⟨row', op, -⟩ := writes
    rw [split] at unwritten
    have none := List.all_eq_true.mp unwritten d (mem_since (own.trans zero) mem)
    rw [op] at none
    cases none
  · rw [zero] at rotates
    cases rotates

end Sample

open Sample in
set_option maxRecDepth 4000 in
/-- A rotation, and an update after it. -/
theorem client_changes_last_sample :
    let c := Config.exec (exec clientDeploy) clientChangeStart (rotationTurn ++ updateTurn)
    (∃ a, c.thread 1 = .ret (.ok a)) ∧ (∃ a, c.thread 0 = .ret (.ok a)) ∧
      ChangesLast clientDeploy tenantA "service" clientChanges c := by
  intro c
  have apart : Config.Admissible (exec clientDeploy) (NotOvertaken clientDeploy tenantA "service" clientChanges)
      clientChangeStart (rotationTurn ++ updateTurn) :=
    (Config.admissible_of_passes firstWrite_apart (by decide +kernel)).append
      (Config.admissible_of_passes updatesAlone_apart (by decide +kernel))
  exact ⟨⟨_, rfl⟩, ⟨_, rfl⟩, client_changes_last apart⟩

end IdpMvp
