import IdpMvp.Account.Links

/-!
# Asking for a password reset

What `request_reset` answers is settled by the rate limiter and the mail settings before any account is
looked at. So it is a function of what has nothing to do with accounts, and two runs that differ in
accounts only cannot be told apart by their answers.
-/

namespace IdpMvp

open Program Program.Prog Program.Flow Prog

variable {D : Deploy} {s : Store} {ins : Nat → Input}

/-! ## The answer -/

/-- A mail server is configured: host and sender are set, and the password can be read. -/
def canSend (D : Deploy) (settings : List SystemSetting) : Bool :=
  (settingValue settings "smtp.host").getD "" ≠ "" && (settingValue settings "smtp.from_address").getD "" ≠ "" &&
    (smtpPassword D settings).toOption.isSome

/-- What `request_reset` answers when it starts at `now`, if loading the settings fails with `fault`. -/
def requestAnswer (D : Deploy) (s : Store) (ipAddress : Option String) (now : DateTime)
    (fault : Option DomainError) : RequestResetOutcome :=
  if (s.limit D .passwordReset (ipAddress.getD "unknown") now).1 then
    if fault.isNone && canSend D s.systemSettings then .accepted else .unavailable
  else .rateLimited

/-- The answers depend on nothing else. -/
structure SameService (s s' : Store) : Prop where
  settings : s'.systemSettings = s.systemSettings
  attempts : s'.otherAttempts = s.otherAttempts

lemma SameService.refl (s : Store) : SameService s s := ⟨rfl, rfl⟩

lemma SameService.symm {s₁ s₂ : Store} (h : SameService s₁ s₂) : SameService s₂ s₁ :=
  ⟨h.settings.symm, h.attempts.symm⟩

lemma SameService.trans {s₁ s₂ s₃ : Store} (h : SameService s₁ s₂) (h' : SameService s₂ s₃) :
    SameService s₁ s₃ :=
  ⟨h'.settings.trans h.settings, h'.attempts.trans h.attempts⟩

/-- What comes after the settings are loaded: the account is looked up, a token stored and sent. -/
def Op.OnAccounts : Op → Prop
  | .clock | .randomToken _ | .sendMail _ _ | .db (.users (.findByEmail _ _)) | .db (.passwordResetTokens _) => True
  | _ => False

lemma Op.OnAccounts.same {o : Op} (h : o.OnAccounts) (i : Input) (s : Store) :
    SameService s (exec D o i s).2 := by
  cases o with
  | clock | randomToken => exact .refl s
  | sendMail address link =>
    simp only [exec]
    split <;> exact .refl s
  | db q =>
    cases f : i.fault with
    | some e =>
      simp only [exec, f]
      exact .refl s
    | none =>
      simp only [exec, f]
      cases q with
      | users q =>
        cases q with
        | findByEmail => exact .refl s
        | _ => cases h
      | passwordResetTokens q =>
        rw [Stmt.exec, q.exec_store]
        exact ⟨rfl, rfl⟩
      | _ => cases h
  | _ => cases h

lemma issueLink_onAccounts {userId : Uuid} :
    (issueLink D .passwordReset userId).run.Uses Op.OnAccounts := by
  refine uses_bind (uses_lift (uses_op trivial)) fun now => ?_
  refine uses_bind (uses_orLeave (uses_op trivial) _) fun _ => ?_
  refine uses_bind (uses_lift (uses_op trivial)) fun token => ?_
  exact uses_bind (uses_orLeave (uses_op trivial) _) fun _ => trivial

/-- The settings decide whether there is a server; nothing is written. -/
lemma smtpServer_wp :
    wpE (exec D) (smtpServer D) ins s
      (fun server s' _ => s' = s ∧ server.isSome = ((ins 0).fault.isNone && canSend D s.systemSettings))
      (fun _ s' _ => s' = s ∧ ((ins 0).fault.isNone && canSend D s.systemSettings) = false) := by
  unfold smtpServer
  rw [wpE_bind, wpE_orLeave, db, Prog.op, wp_db]
  refine ⟨fun e fault => ⟨rfl, by simp [fault]⟩, fun quiet => ?_⟩
  simp only [Stmt.exec, SystemSettingStmt.exec, wp_ret, quiet, Option.isNone_none, Bool.true_and]
  split
  · rename_i unset
    refine ⟨rfl, ?_⟩
    simp only [canSend]
    rcases (Bool.or_eq_true _ _).mp unset with host | sender
    · simp [of_decide_eq_true host]
    · simp [of_decide_eq_true sender]
  · rename_i set
    simp only [Bool.or_eq_true, decide_eq_true_eq, not_or] at set
    refine wpE_orThrow_split (fun e failed => ⟨rfl, ?_⟩) fun password read => ⟨rfl, ?_⟩
    · simp [canSend, failed, Except.toOption]
    · simp [canSend, read, set, Except.toOption]

lemma issueLink_same {userId : Uuid} :
    always (exec D) (issueLink D .passwordReset userId).run s (fun _ s' => SameService s s') :=
  issueLink_onAccounts.always (I := fun s' => SameService s s')
    (fun _ on i _ same => same.trans (on.same i _)) (.refl s)

/-- In every execution, `request_reset` answers what the rate limiter and the settings decide, and leaves
both as every other execution does. -/
lemma requestReset_wp {tenantId : TenantId} {email : String} {ipAddress : Option String} :
    (requestReset D tenantId email ipAddress).wp (exec D) ins s (fun r s' _ =>
      r = requestAnswer D s ipAddress (ins 0).now (ins 2).fault ∧
      SameService (s.limit D .passwordReset (ipAddress.getD "unknown") (ins 0).now).2 s') := by
  unfold requestReset
  rw [wp_outcome]
  refine wpE_clock_step ?_
  rw [wpE_op]
  simp only [exec, requestAnswer]
  have settings : (s.limit D .passwordReset (ipAddress.getD "unknown") (ins 0).now).2.systemSettings =
      s.systemSettings := by
    simp only [Store.limit]
    split <;> rfl
  rw [← settings]
  generalize s.limit D .passwordReset (ipAddress.getD "unknown") (ins 0).now = limited
  obtain ⟨allowed, s₁⟩ := limited
  refine wpE_ensure_split (fun refused => ⟨by rw [refused]; rfl, .refl _⟩) fun allowed => ?_
  rw [allowed, if_pos rfl, wpE_bind, wpE_orLeave]
  refine wp_mono smtpServer_wp ?_
  rintro (e | server) _ tr ⟨rfl, sends⟩
  · exact ⟨by rw [sends]; rfl, .refl _⟩
  rw [← sends]
  refine wpE_ensure_split (fun none => ⟨by rw [none]; rfl, .refl _⟩) fun some => ?_
  rw [some, if_pos rfl]
  -- From here on the answer is settled, whatever happens.
  refine alwaysE.wpE ?_
  refine read_step (fun _ => rfl) (fun _ => ⟨rfl, .refl _⟩) fun _ => ?_
  refine found_step (fun _ => ⟨rfl, .refl _⟩) fun user _ => ?_
  rw [alwaysE_bind, alwaysE_orLeave]
  refine always_mono issueLink_same fun r s' same => ⟨fun token _ => ?_, fun _ _ => ⟨rfl, same⟩⟩
  refine lift_step fun i => ?_
  have sending : (Op.sendMail user.email (linkUrl D .passwordReset tenantId token)).OnAccounts := trivial
  exact ⟨rfl, same.trans (sending.same i s')⟩

/-! ## Sequences of requests -/

/-- A request for a link, from a network address. -/
structure ResetRequest where
  tenantId : TenantId
  email : String
  ipAddress : Option String

/-- The answers to a sequence of requests, each on its own inputs. -/
def resetAnswers (D : Deploy) : List ResetRequest → (Nat → Nat → Input) → Store → List RequestResetOutcome
  | [], _, _ => []
  | q :: rest, ins, s =>
    let (answer, s') := (requestReset D q.tenantId q.email q.ipAddress).run (exec D) (ins 0) s
    answer :: resetAnswers D rest (fun n => ins (n + 1)) s'

/-- The stores differ in users and their reset tokens only. -/
def DifferInAccounts (s s' : Store) : Prop :=
  ∃ users tokens, s' = { s with users := users, passwordResetTokens := tokens }

/-- The limiter sees the same times, and the settings can be loaded or not alike. Draws, the look-up of the
account, the storage of the token and the delivery of the mail may go otherwise. -/
def AlikeOutside (ins ins' : Nat → Input) : Prop :=
  (ins' 0).now = (ins 0).now ∧ (ins' 2).fault = (ins 2).fault

lemma SameService.limit {s s' : Store} (same : SameService s s') (key : String) (now : DateTime) :
    (s'.limit D .passwordReset key now).1 = (s.limit D .passwordReset key now).1 ∧
      SameService (s.limit D .passwordReset key now).2 (s'.limit D .passwordReset key now).2 := by
  simp only [Store.limit, same.attempts]
  split
  · exact ⟨rfl, same.settings, rfl⟩
  · exact ⟨rfl, same.settings, rfl⟩

/-- One request from each of two states that agree outside accounts. -/
lemma requestReset_alike {s s' : Store} {ins ins' : Nat → Input} (same : SameService s s')
    (alike : AlikeOutside ins ins') (q : ResetRequest) :
    let p := requestReset D q.tenantId q.email q.ipAddress
    (p.run (exec D) ins' s').1 = (p.run (exec D) ins s).1 ∧
      SameService (p.run (exec D) ins s).2 (p.run (exec D) ins' s').2 := by
  intro p
  have spec : p.wp (exec D) ins s _ := requestReset_wp
  have spec' : p.wp (exec D) ins' s' _ := requestReset_wp
  obtain ⟨answer, left⟩ := wp_iff_run.mp spec
  obtain ⟨answer', left'⟩ := wp_iff_run.mp spec'
  obtain ⟨allowed, limited⟩ := same.limit (D := D) (q.ipAddress.getD "unknown") (ins 0).now
  rw [alike.1] at answer' left'
  refine ⟨?_, left.symm.trans (limited.trans left')⟩
  rw [answer, answer', requestAnswer, requestAnswer, allowed, same.settings, alike.2]

/-- Two stores that differ in accounts only answer every sequence of requests alike, whatever becomes of
the accounts, tokens and mails in either run. -/
theorem requests_reveal_no_account {s s' : Store} (differ : DifferInAccounts s s')
    (requests : List ResetRequest) {ins ins' : Nat → Nat → Input}
    (alike : ∀ n, AlikeOutside (ins n) (ins' n)) :
    resetAnswers D requests ins' s' = resetAnswers D requests ins s := by
  have answers : ∀ s s', SameService s s' → resetAnswers D requests ins' s' = resetAnswers D requests ins s := by
    clear differ
    induction requests generalizing ins ins' with
    | nil => exact fun _ _ _ => rfl
    | cons q rest ih =>
      intro s s' same
      obtain ⟨answer, left⟩ := requestReset_alike (D := D) same (alike 0) q
      simp only [resetAnswers]
      rw [answer, ih (fun n => alike (n + 1)) _ _ left]
  obtain ⟨users, tokens, rfl⟩ := differ
  exact answers _ _ ⟨rfl, rfl⟩

namespace Sample

/-- Everything fails once the settings are loaded. -/
def failing (n : Nat) : Input :=
  if n < 3 then input 0 else { input 0 with fault := some (.repository "connection lost") }

/-- The store without users. -/
def userless : Store := { mailStore with users := [], passwordResetTokens := [] }

def resetRequest : ResetRequest := ⟨tenantA, alice.email, none⟩

end Sample

open Sample in
set_option maxRecDepth 8000 in
/-- Six requests for alice, five of which the limiter allows, are answered alike where there is an alice and
where there is none. -/
theorem requests_reveal_no_account_sample :
    resetAnswers deploy (List.replicate 6 resetRequest) (fun _ => failing) userless =
      resetAnswers deploy (List.replicate 6 resetRequest) (fun _ _ => input 0) mailStore ∧
    resetAnswers deploy (List.replicate 6 resetRequest) (fun _ _ => input 0) mailStore =
      List.replicate 5 .accepted ++ [.rateLimited] :=
  ⟨requests_reveal_no_account ⟨[], [], rfl⟩ _ fun _ => ⟨rfl, rfl⟩, by decide +kernel⟩

end IdpMvp
