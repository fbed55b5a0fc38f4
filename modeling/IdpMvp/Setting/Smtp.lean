import IdpMvp.Key.Bootstrap
import IdpMvp.Setting.Starting

/-!
# The mail server's settings

`update_smtp` writes up to six rows one after another. Where all are written they read back as what was given, the
password through its encryption; where one fails, those before it stay.
-/

namespace IdpMvp

open Program Program.Prog Program.Flow Prog SystemSettings

/-- The keys of the mail server's settings. -/
def smtpKeys : List String :=
  ["smtp.host", "smtp.port", "smtp.username", "smtp.from_address", "smtp.use_tls", "smtp.password"]

/-- The collation of the table tells these keys apart. -/
def SmtpKeysApart (D : Deploy) : Prop :=
  ∀ k ∈ smtpKeys, ∀ k' ∈ smtpKeys, D.coll k = D.coll k' → k = k'

/-- A row that has one of these keys but for the collation has that key. -/
def SmtpNamed (D : Deploy) (rows : List SystemSetting) : Prop :=
  ∀ row ∈ rows, ∀ k ∈ smtpKeys, D.coll row.key = D.coll k → row.key = k

/-- A call of `update_smtp`. -/
def saveSmtp (D : Deploy) (cmd : UpdateSmtpCommand) (ins : Nat → Input) (s : Store) :
    Except DomainError SmtpSettingsView × Store :=
  (updateSmtp cmd).run.run (exec D) ins s

/-! ## The steps of a call -/

/-- A step: the row it writes if it writes one, and whether it fails. -/
structure SmtpStep where
  writes : Option SystemSetting
  fails : Bool

/-- The rows that every call writes. -/
def plainRows (cmd : UpdateSmtpCommand) : List SystemSetting := [
  ⟨"smtp.host", cmd.host, false⟩,
  ⟨"smtp.port", portText cmd.port, false⟩,
  ⟨"smtp.username", cmd.username, false⟩,
  ⟨"smtp.from_address", cmd.fromAddress, false⟩,
  ⟨"smtp.use_tls", if cmd.useTls then "true" else "false", false⟩]

/-- The writing of some rows, on a stream of inputs, before other steps. -/
def writeSteps : List SystemSetting → (Nat → Input) → ((Nat → Input) → List SmtpStep) → List SmtpStep
  | [], ins, next => next ins
  | x :: xs, ins, next => ⟨some x, (ins 0).fault.isSome⟩ :: writeSteps xs (fun n => ins (n + 1)) next

/-- The loading of the settings. -/
def loadStep (ins : Nat → Input) : List SmtpStep := [⟨none, (ins 0).fault.isSome⟩]

/-- The steps after the plain rows. -/
def passwordSteps (D : Deploy) (password : Option String) (ins : Nat → Input) : List SmtpStep :=
  match password with
  | none => loadStep ins
  | some password =>
    if password = "" then writeSteps [⟨"smtp.password", "", true⟩] ins loadStep
    else
      match D.encrypt ((ins 0).bytes gcmNonceLen) (asBytes password) with
      | .error _ => [⟨none, true⟩]
      | .ok stored => writeSteps [⟨"smtp.password", stored, true⟩] (fun n => ins (n + 1)) loadStep

/-- The steps of a call. -/
def smtpSteps (D : Deploy) (cmd : UpdateSmtpCommand) (ins : Nat → Input) : List SmtpStep :=
  writeSteps (plainRows cmd) ins (passwordSteps D cmd.password)

/-- The rows written before the first step that fails. -/
def madeRows (steps : List SmtpStep) : List SystemSetting := (steps.takeWhile (!·.fails)).filterMap (·.writes)

/-- The table after some rows have been written. -/
def upsertAll (D : Deploy) (xs rows : List SystemSetting) : List SystemSetting :=
  xs.foldl (fun rows x => upsertRows D x rows) rows

/-- An execution that takes some steps: it fails where one does, and leaves what was written before. -/
def Takes {α : Type} (D : Deploy) (steps : List SmtpStep) (s : Store) (ended : Except DomainError α × Store) : Prop :=
  ended.2 = { s with systemSettings := upsertAll D (madeRows steps) s.systemSettings } ∧
    ((∃ e, ended.1 = .error e) ↔ ∃ step ∈ steps, step.fails = true)

section
variable {D : Deploy} {s : Store} {ins : Nat → Input} {α : Type}

lemma Takes.failed {w : Option SystemSetting} {steps : List SmtpStep} (e : DomainError) :
    Takes D (⟨w, true⟩ :: steps) s ((.error e : Except DomainError α), s) := by
  refine ⟨?_, iff_of_true ⟨e, rfl⟩ ⟨_, List.mem_cons_self, rfl⟩⟩
  simp [madeRows, upsertAll]

lemma Takes.write {x : SystemSetting} {steps : List SmtpStep} {ended : Except DomainError α × Store}
    (takes : Takes D steps { s with systemSettings := upsertRows D x s.systemSettings } ended) :
    Takes D (⟨some x, false⟩ :: steps) s ended := by
  refine ⟨?_, takes.2.trans ?_⟩
  · rw [takes.1]
    simp [madeRows, upsertAll]
  · simp

/-- The execution of a write and what follows it. -/
lemma run_upsert (x : SystemSetting) (next : ServiceFlow DomainError α) :
    ((orLeave (db (.systemSettings (.upsert x))) id : ServiceFlow DomainError Unit) >>= fun _ => next).run.run
      (exec D) ins s =
    match (ins 0).fault with
    | some e => (.error e, s)
    | none => next.run.run (exec D) (fun n => ins (n + 1))
        { s with systemSettings := upsertRows D x s.systemSettings } := by
  have called : ((orLeave (db (.systemSettings (.upsert x))) id : ServiceFlow DomainError Unit) >>=
      fun _ => next).run = .call (.db (.systemSettings (.upsert x))) fun r =>
        match r with
        | .error e => .ret (.error e)
        | .ok _ => next.run :=
    congrArg (Prog.call _) (funext fun r => by cases r <;> rfl)
  rw [called]
  cases fault : (ins 0).fault with
  | some e => simp [run, exec, fault]
  | none => simp [run, exec, fault, Stmt.exec, exec_upsert]

/-- The execution of some writes and what follows them. -/
lemma takes_writes (xs : List SystemSetting) {k : ServiceFlow DomainError α}
    {next : (Nat → Input) → List SmtpStep}
    (after : ∀ ins s, Takes D (next ins) s (k.run.run (exec D) ins s)) (ins : Nat → Input) (s : Store) :
    Takes D (writeSteps xs ins next) s
      ((xs.foldr (fun x p => (orLeave (db (.systemSettings (.upsert x))) id :
        ServiceFlow DomainError Unit) >>= fun _ => p) k).run.run (exec D) ins s) := by
  induction xs generalizing ins s with
  | nil => exact after ins s
  | cons x xs ih =>
    rw [List.foldr_cons, run_upsert, writeSteps]
    cases fault : (ins 0).fault with
    | some e => exact .failed e
    | none => exact (ih _ _).write

lemma run_getSmtp (ins : Nat → Input) (s : Store) : getSmtp.run.run (exec D) ins s =
    match (ins 0).fault with
    | some e => (.error e, s)
    | none => (.ok (smtpView s.systemSettings), s) := by
  have called : getSmtp.run = .call (.db (.systemSettings .loadAll)) fun r =>
      match r with
      | .error e => .ret (.error e)
      | .ok settings => .ret (.ok (smtpView settings)) :=
    congrArg (Prog.call _) (funext fun r => by cases r <;> rfl)
  rw [called]
  cases fault : (ins 0).fault with
  | some e => simp [run, exec, fault]
  | none => simp [run, exec, fault, Stmt.exec, SystemSettingStmt.exec]

lemma takes_load (ins : Nat → Input) (s : Store) :
    Takes D (loadStep ins) s (getSmtp.run.run (exec D) ins s) := by
  rw [run_getSmtp, loadStep]
  cases fault : (ins 0).fault with
  | some e => exact .failed e
  | none =>
    refine ⟨by simp [madeRows, upsertAll], iff_of_false ?_ (by simp)⟩
    rintro ⟨e, ⟨⟩⟩

/-- The execution of an encryption and what follows it. -/
lemma run_encrypt (plain : Bytes) (f : String → DomainError) (k : String → ServiceFlow DomainError α) :
    ((orLeave (encrypt plain) f : ServiceFlow DomainError String) >>= k).run.run (exec D) ins s =
      match D.encrypt ((ins 0).bytes gcmNonceLen) plain with
      | .error e => (.error (f e), s)
      | .ok stored => (k stored).run.run (exec D) (fun n => ins (n + 1)) s := by
  have called : ((orLeave (encrypt plain) f : ServiceFlow DomainError String) >>= k).run =
      .call (.encrypt plain) fun r =>
        match r with
        | .error e => .ret (.error (f e))
        | .ok stored => (k stored).run :=
    congrArg (Prog.call _) (funext fun r => by cases r <;> rfl)
  rw [called]
  cases encrypted : D.encrypt ((ins 0).bytes gcmNonceLen) plain with
  | error e => simp [run, exec, encrypted]
  | ok stored => simp [run, exec, encrypted]

lemma takes_password (password : Option String) (ins : Nat → Input) (s : Store) :
    Takes D (passwordSteps D password ins) s
      ((updatePassword password >>= fun _ => getSmtp).run.run (exec D) ins s) := by
  cases password with
  | none => exact takes_load ins s
  | some password =>
    by_cases cleared : password = ""
    · subst cleared
      exact takes_writes [⟨"smtp.password", "", true⟩] takes_load ins s
    · have written : (updatePassword (some password) >>= fun _ => getSmtp) =
          (orLeave (encrypt (asBytes password)) fun e => .repository ("smtp password encrypt: " ++ e)) >>=
            fun stored => (orLeave (db (.systemSettings (.upsert ⟨"smtp.password", stored, true⟩))) id :
              ServiceFlow DomainError Unit) >>= fun _ => getSmtp := by
        rw [updatePassword, storedPassword, if_neg cleared]
        exact congrArg (Prog.call (Op.encrypt (asBytes password))) (funext fun r => by cases r <;> rfl)
      rw [written, run_encrypt]
      simp only [passwordSteps, if_neg cleared]
      cases D.encrypt ((ins 0).bytes gcmNonceLen) (asBytes password) with
      | error e => exact .failed _
      | ok stored => exact takes_writes [⟨"smtp.password", stored, true⟩] takes_load _ s

/-- A call takes its steps. -/
theorem saveSmtp_takes (cmd : UpdateSmtpCommand) (ins : Nat → Input) (s : Store) :
    Takes D (smtpSteps D cmd ins) s (saveSmtp D cmd ins s) :=
  takes_writes (plainRows cmd) (takes_password cmd.password) ins s

end

/-! ## Numbers as text -/

/-- The digits of a number that is not too large. -/
lemma parseUnsignedDigits_digits {max n : Nat} {cs : List Char} (digits : ∀ c ∈ cs, c.isDigit = true)
    (le : Nat.ofDigitChars 10 cs n ≤ max) : parseUnsignedDigits max n cs = .ok (Nat.ofDigitChars 10 cs n) := by
  induction cs generalizing n with
  | nil => rfl
  | cons c cs ih =>
    have head := digits c List.mem_cons_self
    rw [Nat.ofDigitChars_cons, Nat.mul_comm] at le ⊢
    have grows : n * 10 + (c.toNat - '0'.toNat) ≤ max := by
      rw [Nat.ofDigitChars_eq_ofDigitChars_zero] at le
      calc n * 10 + (c.toNat - '0'.toNat)
        _ ≤ 10 ^ cs.length * (n * 10 + (c.toNat - '0'.toNat)) := Nat.le_mul_of_pos_left _ (Nat.pow_pos (by decide))
        _ ≤ 10 ^ cs.length * (n * 10 + (c.toNat - '0'.toNat)) + Nat.ofDigitChars 10 cs 0 := Nat.le_add_right _ _
        _ ≤ max := le
    rw [parseUnsignedDigits, if_pos head]
    dsimp only
    rw [if_neg (Nat.not_lt.mpr grows)]
    exact ih (fun c mem => digits c (List.mem_cons_of_mem _ mem)) le

/-- A number is read back from its text. -/
lemma parseUnsigned_toString {max n : Nat} (le : n ≤ max) : parseUnsigned max (toString n) = .ok n := by
  have text : (toString n).toList = Nat.toDigits 10 n := Nat.toList_repr
  have digits : ∀ c ∈ Nat.toDigits 10 n, c.isDigit = true :=
    fun c mem => Nat.isDigit_of_mem_toDigits (by decide) (by decide) mem
  have value : Nat.ofDigitChars 10 (Nat.toDigits 10 n) 0 = n := Nat.ofDigitChars_ten_toDigits
  have read : parseUnsignedDigits max 0 (Nat.toDigits 10 n) = .ok (Nat.ofDigitChars 10 (Nat.toDigits 10 n) 0) :=
    parseUnsignedDigits_digits digits (value.trans_le le)
  rw [value] at read
  rw [parseUnsigned, text]
  split
  · rename_i empty
    exact absurd empty Nat.toDigits_ne_nil
  · rename_i plus
    rw [plus] at digits
    exact absurd (digits '+' List.mem_cons_self) (by decide)
  · rename_i plus
    rw [plus] at digits
    exact absurd (digits '+' List.mem_cons_self) (by decide)
  · exact read

/-- And a port from its row, none from an empty one. -/
lemma parsePort_portText (port : Option UInt16) : parsePort (portText port) = port := by
  cases port with
  | none => rfl
  | some p =>
    have small : p.toNat ≤ 65535 := Nat.le_of_lt_succ p.toNat_lt
    have text : portText (some p) = toString p.toNat := rfl
    rw [parsePort, text, parseUnsigned_toString small]
    simp [Except.toOption]

/-! ## The values of the table -/

section
variable {D : Deploy} {rows xs : List SystemSetting} {x : SystemSetting} {k : String}

/-- A value is the one that all rows of its key have. -/
lemma settingValue_some {value : String} (there : ∃ row ∈ rows, row.key = k)
    (one : ∀ row ∈ rows, row.key = k → row.value = value) : settingValue rows k = some value := by
  rw [settingValue]
  cases found : rows.find? (·.key = k) with
  | none =>
    obtain ⟨row, mem, named⟩ := there
    exact absurd (decide_eq_true named) (List.find?_eq_none.mp found row mem)
  | some row =>
    have named : row.key = k := by simpa using List.find?_some found
    rw [Option.map_some, one row (List.mem_of_find?_eq_some found) named]

lemma settingValue_upsert (named : SmtpNamed D rows) (key : x.key ∈ smtpKeys) :
    settingValue (upsertRows D x rows) x.key = some x.value := by
  refine settingValue_some ?_ ?_
  · unfold upsertRows
    split
    · rename_i there
      obtain ⟨row, mem, same⟩ := List.any_eq_true.mp there
      have same := of_decide_eq_true same
      refine ⟨_, List.mem_map_of_mem mem, ?_⟩
      rw [if_pos same]
      exact named row mem x.key key same
    · exact ⟨x, List.mem_append_right _ (List.mem_singleton.mpr rfl), rfl⟩
  · intro row mem same
    rcases mem_upsertRows mem with ⟨-, other⟩ | ⟨-, -, -, -, value, -⟩ | rfl
    · exact absurd (congrArg D.coll same) other
    · exact value
    · rfl

lemma settingValue_upsert_other (other : D.coll k ≠ D.coll x.key) :
    settingValue (upsertRows D x rows) k = settingValue rows k := by
  unfold upsertRows
  split
  · rw [settingValue, find?_map_same, settingValue]
    intro row mem named
    refine if_neg fun same => other ?_
    rw [← same]
    rcases named with named | named
    · rw [of_decide_eq_true named]
    · rw [if_pos same] at named
      rw [← of_decide_eq_true named]
  · have fresh : ¬x.key = k := fun same => other (congrArg D.coll same.symm)
    rw [settingValue, List.find?_append, List.find?_singleton, decide_eq_false fresh, settingValue]
    simp

lemma SmtpNamed.upsert (apart : SmtpKeysApart D) (named : SmtpNamed D rows) (key : x.key ∈ smtpKeys) :
    SmtpNamed D (upsertRows D x rows) := by
  intro row mem k known same
  rcases mem_upsertRows mem with ⟨old, -⟩ | ⟨old, there, kept, -⟩ | rfl
  · exact named row old k known same
  · rw [← kept] at same ⊢
    exact named old there k known same
  · exact apart _ key k known same

lemma SmtpNamed.upsertAll (apart : SmtpKeysApart D) (named : SmtpNamed D rows) (keys : ∀ x ∈ xs, x.key ∈ smtpKeys) :
    SmtpNamed D (upsertAll D xs rows) := by
  induction xs generalizing rows with
  | nil => exact named
  | cons x xs ih =>
    exact ih (named.upsert apart (keys x List.mem_cons_self)) fun y mem => keys y (List.mem_cons_of_mem _ mem)

/-- A value after some rows have been written is that of the written row, if there is one. -/
lemma settingValue_upsertAll (apart : SmtpKeysApart D) (named : SmtpNamed D rows) (keys : ∀ x ∈ xs, x.key ∈ smtpKeys)
    (distinct : (xs.map (·.key)).Nodup) (known : k ∈ smtpKeys) :
    settingValue (upsertAll D xs rows) k = (settingValue xs k).or (settingValue rows k) := by
  induction xs generalizing rows with
  | nil => rfl
  | cons x xs ih =>
    have key := keys x List.mem_cons_self
    have keys : ∀ y ∈ xs, y.key ∈ smtpKeys := fun y mem => keys y (List.mem_cons_of_mem _ mem)
    rw [List.map_cons, List.nodup_cons] at distinct
    have later := ih (named.upsert apart key) keys distinct.2
    rw [IdpMvp.upsertAll, List.foldl_cons]
    rw [IdpMvp.upsertAll] at later
    rw [later]
    by_cases same : x.key = k
    · subst same
      have absent : settingValue xs x.key = none := by
        rw [settingValue, Option.map_eq_none_iff, List.find?_eq_none]
        intro y mem named
        exact distinct.1 (List.mem_map.mpr ⟨y, mem, of_decide_eq_true named⟩)
      rw [absent, settingValue_upsert named key]
      simp [settingValue]
    · rw [settingValue_upsert_other fun coll => same (apart k known x.key key coll).symm]
      simp [settingValue, same]

end

/-! ## The rows of a call -/

/-- The rows that a call writes if no step fails. -/
def callRows (D : Deploy) (cmd : UpdateSmtpCommand) (ins : Nat → Input) : List SystemSetting :=
  (smtpSteps D cmd ins).filterMap (·.writes)

section
variable {D : Deploy} {cmd : UpdateSmtpCommand} {ins : Nat → Input} {s : Store}

lemma writeSteps_rows (xs : List SystemSetting) (ins : Nat → Input) (next : (Nat → Input) → List SmtpStep) :
    (writeSteps xs ins next).filterMap (·.writes) =
      xs ++ (next fun n => ins (n + xs.length)).filterMap (·.writes) := by
  induction xs generalizing ins with
  | nil => rfl
  | cons x xs ih =>
    have shifted : (fun n => ins (n + xs.length + 1)) = fun n => ins (n + (x :: xs).length) := rfl
    rw [writeSteps, List.filterMap_cons, ih, shifted]
    rfl

lemma passwordSteps_keys (password : Option String) (ins : Nat → Input) :
    (((passwordSteps D password ins).filterMap (·.writes)).map (·.key)).Sublist ["smtp.password"] := by
  unfold passwordSteps
  split
  · exact List.nil_sublist _
  · split_ifs with cleared
    · exact .refl _
    · split
      · exact List.nil_sublist _
      · exact .refl _

/-- A call writes each key once at most. -/
lemma callRows_keys : ((callRows D cmd ins).map (·.key)).Sublist smtpKeys := by
  rw [callRows, smtpSteps, writeSteps_rows, List.map_append]
  exact (List.Sublist.refl (["smtp.host", "smtp.port", "smtp.username", "smtp.from_address", "smtp.use_tls"])).append
    (passwordSteps_keys _ _)

lemma madeRows_sublist : (madeRows (smtpSteps D cmd ins)).Sublist (callRows D cmd ins) :=
  (List.takeWhile_sublist _).filterMap _

lemma smtpKeys_nodup : smtpKeys.Nodup := by decide

lemma madeRows_keys : ((madeRows (smtpSteps D cmd ins)).map (·.key)).Sublist smtpKeys :=
  (madeRows_sublist.map _).trans callRows_keys

/-- What a row says after a call. -/
lemma saveSmtp_value (apart : SmtpKeysApart D) (named : SmtpNamed D s.systemSettings) {k : String}
    (known : k ∈ smtpKeys) :
    settingValue (saveSmtp D cmd ins s).2.systemSettings k =
      (settingValue (madeRows (smtpSteps D cmd ins)) k).or (settingValue s.systemSettings k) := by
  rw [(saveSmtp_takes cmd ins s).1]
  refine settingValue_upsertAll apart named ?_ (smtpKeys_nodup.sublist madeRows_keys) known
  exact fun x mem => madeRows_keys.subset (List.mem_map_of_mem mem)

/-- A row that is there is what its key says, where the keys are distinct. -/
lemma settingValue_mem {rows : List SystemSetting} {x : SystemSetting} (distinct : (rows.map (·.key)).Nodup)
    (mem : x ∈ rows) : settingValue rows x.key = some x.value := by
  refine settingValue_some ⟨x, mem, rfl⟩ fun row there same => ?_
  rw [List.inj_on_of_nodup_map distinct there mem same]

lemma settingValue_none_or (rows : List SystemSetting) (k : String) :
    settingValue rows k = none ∨ ∃ x ∈ rows, x.key = k ∧ settingValue rows k = some x.value := by
  rw [settingValue]
  cases found : rows.find? (·.key = k) with
  | none => exact .inl rfl
  | some x =>
    have named : x.key = k := by simpa using List.find?_some found
    exact .inr ⟨x, List.mem_of_find?_eq_some found, named, rfl⟩

/-- A call that fails leaves every setting as it was, exactly if none of its steps fails or what it writes before the
first one that does is there already. -/
theorem updateSmtp_atomic_iff (apart : SmtpKeysApart D) (named : SmtpNamed D s.systemSettings) :
    ((∃ e, (saveSmtp D cmd ins s).1 = .error e) → ∀ k ∈ smtpKeys,
      settingValue (saveSmtp D cmd ins s).2.systemSettings k = settingValue s.systemSettings k) ↔
    (∀ step ∈ smtpSteps D cmd ins, step.fails = false) ∨
      ∀ x ∈ madeRows (smtpSteps D cmd ins), settingValue s.systemSettings x.key = some x.value := by
  have distinct : ((madeRows (smtpSteps D cmd ins)).map (·.key)).Nodup := smtpKeys_nodup.sublist madeRows_keys
  have fails := (saveSmtp_takes (D := D) cmd ins s).2
  constructor
  · intro atomic
    by_cases failed : ∃ step ∈ smtpSteps D cmd ins, step.fails = true
    · refine .inr fun x mem => ?_
      have known : x.key ∈ smtpKeys := madeRows_keys.subset (List.mem_map_of_mem mem)
      have kept := atomic (fails.mpr failed) x.key known
      rw [saveSmtp_value apart named known, settingValue_mem distinct mem] at kept
      exact kept.symm
    · refine .inl fun step mem => ?_
      rw [← Bool.not_eq_true]
      exact fun fails => failed ⟨step, mem, fails⟩
  · rintro (passes | there) error k known
    · obtain ⟨step, mem, failing⟩ := fails.mp error
      rw [passes step mem] at failing
      cases failing
    · rw [saveSmtp_value apart named known]
      rcases settingValue_none_or (madeRows (smtpSteps D cmd ins)) k with absent | ⟨x, mem, rfl, value⟩
      · rw [absent, Option.none_or]
      · rw [value, there x mem, Option.some_or]

end

namespace Sample

/-- A mail server without TLS. -/
def oldServer : List SystemSetting := [
  ⟨"smtp.host", "old.example.com", false⟩,
  ⟨"smtp.port", "587", false⟩,
  ⟨"smtp.username", "idp", false⟩,
  ⟨"smtp.from_address", "idp@example.com", false⟩,
  ⟨"smtp.use_tls", "false", false⟩,
  ⟨"smtp.password", stored 0 (asBytes "RSA"), true⟩]

def oldServerStore : Store := { store with systemSettings := oldServer }

/-- A move to another one with TLS and a password of its own. -/
def newServer : UpdateSmtpCommand where
  host := "new.example.com"
  port := some 465
  username := "idp"
  password := some "EC"
  fromAddress := "idp@example.com"
  useTls := true

/-- The second statement fails. -/
def secondFails (n : Nat) : Input :=
  if n = 1 then { input 0 with fault := some (.repository "connection lost") } else input 0

set_option maxRecDepth 8000 in
/-- The new server is stored, and mail goes there with the old password and without TLS. -/
theorem newServer_half_saved :
    ¬((∃ e, (saveSmtp deploy newServer secondFails oldServerStore).1 = .error e) → ∀ k ∈ smtpKeys,
      settingValue (saveSmtp deploy newServer secondFails oldServerStore).2.systemSettings k =
        settingValue oldServerStore.systemSettings k) ∧
    ((SystemSettings.smtpServer deploy).run.run (exec deploy) (fun _ => input 0)
      (saveSmtp deploy newServer secondFails oldServerStore).2).1 =
        .ok (some ⟨"new.example.com", some 587, "idp", "RSA", "idp@example.com", false⟩) := by
  refine ⟨fun atomic => ?_, by decide +kernel⟩
  have failed : (saveSmtp deploy newServer secondFails oldServerStore).1 = .error (.repository "connection lost") := by
    decide +kernel
  have kept := atomic ⟨_, failed⟩ "smtp.host" (by decide)
  revert kept
  decide +kernel

lemma smtpKeysApart : SmtpKeysApart deploy := by
  unfold SmtpKeysApart
  decide +kernel

lemma oldServer_named : SmtpNamed deploy oldServerStore.systemSettings := by
  unfold SmtpNamed
  decide +kernel

theorem newServer_atomic :
    ((∃ e, (saveSmtp deploy newServer secondFails oldServerStore).1 = .error e) → ∀ k ∈ smtpKeys,
      settingValue (saveSmtp deploy newServer secondFails oldServerStore).2.systemSettings k =
        settingValue oldServerStore.systemSettings k) ↔
    (∀ step ∈ smtpSteps deploy newServer secondFails, step.fails = false) ∨
      ∀ x ∈ madeRows (smtpSteps deploy newServer secondFails),
        settingValue oldServerStore.systemSettings x.key = some x.value :=
  updateSmtp_atomic_iff smtpKeysApart oldServer_named

end Sample

/-! ## Calls that succeed one after another -/

/-- A call with its inputs. -/
structure SmtpCall where
  cmd : UpdateSmtpCommand
  ins : Nat → Input

/-- Calls that all succeed, the latest first. -/
inductive SmtpRun (D : Deploy) (s₀ : Store) : List SmtpCall → Store → Prop where
  | nil : SmtpRun D s₀ [] s₀
  | call {calls : List SmtpCall} {s s' : Store} {view : SmtpSettingsView} (run : SmtpRun D s₀ calls s) (c : SmtpCall)
      (saved : saveSmtp D c.cmd c.ins s = (.ok view, s')) : SmtpRun D s₀ (c :: calls) s'

/-- The password of the last call that carried one. -/
def lastPassword (calls : List SmtpCall) : Option String := calls.findSome? (·.cmd.password)

/-- The text that a call stores for its password: nothing for an empty one, else the encryption under the nonce drawn
after the plain rows. -/
def passwordText (D : Deploy) (c : SmtpCall) : Option String :=
  c.cmd.password.bind fun password =>
    if password = "" then some "" else (D.encrypt ((c.ins 5).bytes gcmNonceLen) (asBytes password)).toOption

/-- The text of the last call that stored one. -/
def lastText (D : Deploy) (calls : List SmtpCall) : Option String := calls.findSome? (passwordText D)

def passwordRow (text : String) : SystemSetting := ⟨"smtp.password", text, true⟩

@[simp] lemma passwordRow_key (text : String) : (passwordRow text).key = "smtp.password" := rfl

/-- A text that is stored for a password. -/
def StoredFor (D : Deploy) (password text : String) : Prop :=
  if password = "" then text = ""
  else ∃ i : Input, D.encrypt (i.bytes gcmNonceLen) (asBytes password) = .ok text

section
variable {D : Deploy} {s s₀ s' : Store} {calls : List SmtpCall} {c : SmtpCall} {view : SmtpSettingsView}

lemma passwordSteps_rows (password : Option String) (ins : Nat → Input) :
    (passwordSteps D password ins).filterMap (·.writes) =
      ((password.bind fun password => if password = "" then some ""
        else (D.encrypt ((ins 0).bytes gcmNonceLen) (asBytes password)).toOption).map passwordRow).toList := by
  cases password with
  | none => rfl
  | some password =>
    rw [Option.bind_some, passwordSteps]
    by_cases cleared : password = ""
    · rw [if_pos cleared, if_pos cleared]
      rfl
    · rw [if_neg cleared, if_neg cleared]
      cases D.encrypt ((ins 0).bytes gcmNonceLen) (asBytes password) <;> rfl

lemma callRows_eq (c : SmtpCall) :
    callRows D c.cmd c.ins = plainRows c.cmd ++ ((passwordText D c).map passwordRow).toList := by
  rw [callRows, smtpSteps, writeSteps_rows, passwordSteps_rows]
  rfl

/-- A call that succeeds writes all its rows. -/
lemma saveSmtp_ok (saved : saveSmtp D c.cmd c.ins s = (.ok view, s')) :
    s' = { s with systemSettings := upsertAll D (callRows D c.cmd c.ins) s.systemSettings } ∧
      ∀ step ∈ smtpSteps D c.cmd c.ins, step.fails = false := by
  have takes := saveSmtp_takes (D := D) c.cmd c.ins s
  rw [saved] at takes
  have passes : ∀ step ∈ smtpSteps D c.cmd c.ins, step.fails = false := by
    intro step mem
    rw [← Bool.not_eq_true]
    intro fails
    obtain ⟨e, ⟨⟩⟩ := takes.2.mpr ⟨step, mem, fails⟩
  have all : madeRows (smtpSteps D c.cmd c.ins) = callRows D c.cmd c.ins := by
    rw [madeRows, callRows, List.takeWhile_eq_self_iff.mpr]
    intro step mem
    rw [passes step mem]
    rfl
  exact ⟨all ▸ takes.1, passes⟩

/-- A password that cannot be encrypted fails. -/
lemma passwordSteps_fails {password e : String} {ins : Nat → Input} (given : password ≠ "")
    (refused : D.encrypt ((ins 0).bytes gcmNonceLen) (asBytes password) = .error e) :
    ⟨none, true⟩ ∈ passwordSteps D (some password) ins := by
  simp only [passwordSteps, if_neg given, refused]
  exact List.mem_singleton_self _

lemma writeSteps_later {xs : List SystemSetting} {ins : Nat → Input} {next : (Nat → Input) → List SmtpStep}
    {step : SmtpStep} (mem : step ∈ next fun n => ins (n + xs.length)) : step ∈ writeSteps xs ins next := by
  induction xs generalizing ins with
  | nil => exact mem
  | cons x xs ih => exact List.mem_cons_of_mem _ (ih mem)

/-- And has stored a text for its password, if it carried one. -/
lemma saveSmtp_password (saved : saveSmtp D c.cmd c.ins s = (.ok view, s')) :
    Option.Rel (StoredFor D) c.cmd.password (passwordText D c) := by
  have passes := (saveSmtp_ok saved).2
  rw [passwordText]
  cases carried : c.cmd.password with
  | none => exact .none
  | some password =>
    rw [Option.bind_some]
    by_cases cleared : password = ""
    · rw [if_pos cleared]
      exact .some (by rw [StoredFor, if_pos cleared])
    · rw [if_neg cleared]
      cases encrypted : D.encrypt ((c.ins 5).bytes gcmNonceLen) (asBytes password) with
      | error e =>
        have failing : (⟨none, true⟩ : SmtpStep) ∈ smtpSteps D c.cmd c.ins := by
          refine writeSteps_later ?_
          rw [carried]
          exact passwordSteps_fails cleared encrypted
        cases passes _ failing
      | ok text =>
        refine .some ?_
        rw [StoredFor, if_neg cleared]
        exact ⟨_, encrypted⟩

lemma SmtpRun.named (apart : SmtpKeysApart D) (named : SmtpNamed D s₀.systemSettings) (run : SmtpRun D s₀ calls s) :
    SmtpNamed D s.systemSettings := by
  induction run with
  | nil => exact named
  | call run c saved ih =>
    rw [(saveSmtp_ok saved).1]
    exact ih.upsertAll apart fun x mem => callRows_keys.subset (List.mem_map_of_mem mem)

/-- A setting after a call that succeeds is what it wrote, or else what it was. -/
lemma saveSmtp_ok_value (apart : SmtpKeysApart D) (named : SmtpNamed D s.systemSettings)
    (saved : saveSmtp D c.cmd c.ins s = (.ok view, s')) {k : String} (known : k ∈ smtpKeys) :
    settingValue s'.systemSettings k =
      (settingValue (callRows D c.cmd c.ins) k).or (settingValue s.systemSettings k) := by
  rw [(saveSmtp_ok saved).1]
  refine settingValue_upsertAll apart named ?_ (smtpKeys_nodup.sublist callRows_keys) known
  exact fun x mem => callRows_keys.subset (List.mem_map_of_mem mem)

/-- The plain settings are those of the last call. -/
lemma SmtpRun.plain (apart : SmtpKeysApart D) (named : SmtpNamed D s₀.systemSettings) (run : SmtpRun D s₀ (c :: calls) s)
    {x : SystemSetting} (mem : x ∈ plainRows c.cmd) : settingValue s.systemSettings x.key = some x.value := by
  cases run with
  | call run _ saved =>
    have written : x ∈ callRows D c.cmd c.ins := by
      rw [callRows_eq]
      exact List.mem_append_left _ mem
    have known : x.key ∈ smtpKeys := callRows_keys.subset (List.mem_map_of_mem written)
    rw [saveSmtp_ok_value apart (run.named apart named) saved known,
      settingValue_mem (smtpKeys_nodup.sublist callRows_keys) written, Option.some_or]

lemma lastText_cons (c : SmtpCall) (calls : List SmtpCall) :
    lastText D (c :: calls) = (passwordText D c).or (lastText D calls) := by
  rw [lastText, List.findSome?_cons, lastText]
  cases passwordText D c <;> rfl

/-- The password's row has the last text stored, or else what it had. -/
lemma SmtpRun.text (apart : SmtpKeysApart D) (named : SmtpNamed D s₀.systemSettings) (run : SmtpRun D s₀ calls s) :
    settingValue s.systemSettings "smtp.password" =
      (lastText D calls).or (settingValue s₀.systemSettings "smtp.password") := by
  induction run with
  | nil => rfl
  | @call calls s s' view run c saved ih =>
    have own : settingValue (callRows D c.cmd c.ins) "smtp.password" = passwordText D c := by
      rw [callRows_eq]
      cases passwordText D c <;> rfl
    rw [saveSmtp_ok_value apart (run.named apart named) saved (by decide), ih, lastText_cons, own, Option.or_assoc]

/-- The last text stored stands for the last password. -/
lemma SmtpRun.stored (run : SmtpRun D s₀ calls s) : Option.Rel (StoredFor D) (lastPassword calls) (lastText D calls) := by
  induction run with
  | nil => exact .none
  | @call calls s s' view run c saved ih =>
    have kept := saveSmtp_password saved
    rw [lastPassword, lastText, List.findSome?_cons, List.findSome?_cons]
    generalize c.cmd.password = password, passwordText D c = text at kept ⊢
    cases kept with
    | none => exact ih
    | some stored => exact .some stored

end

/-! ## What is read back -/

/-- Whether a password is set, after calls that carried this one last. -/
def keptSet (s₀ : Store) : Option String → Bool
  | some password => password ≠ ""
  | none => (smtpView s₀.systemSettings).passwordSet

/-- The password that is read, after calls that carried this one last. -/
def keptPassword (D : Deploy) (s₀ : Store) : Option String → DbResult String
  | some password => .ok password
  | none => smtpPassword D s₀.systemSettings

/-- What `get_smtp` says after a call. -/
def viewOf (cmd : UpdateSmtpCommand) (passwordSet : Bool) : SmtpSettingsView where
  host := cmd.host
  port := cmd.port
  username := cmd.username
  passwordSet := passwordSet
  fromAddress := cmd.fromAddress
  useTls := cmd.useTls

/-- What `smtp_server` says after a call. -/
def connectionOf (cmd : UpdateSmtpCommand) (password : String) : SmtpConnection where
  host := cmd.host
  port := cmd.port
  username := cmd.username
  password := password
  fromAddress := cmd.fromAddress
  useTls := cmd.useTls

/-- What the loaded settings say to `smtp_server`. -/
def loadedConnection (D : Deploy) (settings : List SystemSetting) : DbResult (Option SmtpConnection) :=
  let view := smtpView settings
  if view.host = "" ∨ view.fromAddress = "" then .ok none
  else (smtpPassword D settings).map fun password =>
    some ⟨view.host, view.port, view.username, password, view.fromAddress, view.useTls⟩

section
variable {D : Deploy} {s s₀ : Store} {ins : Nat → Input} {calls : List SmtpCall} {c : SmtpCall}

/-- A text stands for no password exactly if there is none. -/
lemma StoredFor.empty_iff (own : D.DecryptsOwn) {password text : String}
    (stored : StoredFor D password text) : text = "" ↔ password = "" := by
  by_cases cleared : password = ""
  · rw [StoredFor, if_pos cleared] at stored
    exact iff_of_true stored cleared
  · rw [StoredFor, if_neg cleared] at stored
    obtain ⟨i, encrypted⟩ := stored
    refine iff_of_false ?_ cleared
    rintro rfl
    exact own.rejects_empty _ (own.decrypt (i.length_bytes _) encrypted)

/-- And is read as the password it stands for. -/
lemma StoredFor.reads (own : D.DecryptsOwn) {password text : String}
    (stored : StoredFor D password text) {settings : List SystemSetting}
    (there : settingValue settings "smtp.password" = some text) : smtpPassword D settings = .ok password := by
  have empty := stored.empty_iff own
  rw [smtpPassword, there]
  by_cases cleared : password = ""
  · rw [cleared, empty.mpr cleared]
    rfl
  · rw [StoredFor, if_neg cleared] at stored
    obtain ⟨i, encrypted⟩ := stored
    have given : nonEmpty (some text) = some text := by
      simp [nonEmpty, mt empty.mp cleared]
    rw [given]
    dsimp only
    rw [own.decrypt (i.length_bytes _) encrypted]
    dsimp only
    rw [fromUtf8_asBytes]

lemma SmtpRun.password (apart : SmtpKeysApart D) (own : D.DecryptsOwn)
    (named : SmtpNamed D s₀.systemSettings) (run : SmtpRun D s₀ calls s) :
    smtpPassword D s.systemSettings = keptPassword D s₀ (lastPassword calls) ∧
      (settingValue s.systemSettings "smtp.password").any (· ≠ "") = keptSet s₀ (lastPassword calls) := by
  have there := run.text apart named
  have stored := run.stored
  generalize lastPassword calls = password, lastText D calls = text at there stored ⊢
  cases stored with
  | none =>
    rw [Option.none_or] at there
    rw [smtpPassword, there]
    exact ⟨rfl, rfl⟩
  | @some password text stored =>
    rw [Option.some_or] at there
    refine ⟨stored.reads own there, ?_⟩
    rw [there]
    simp [keptSet, stored.empty_iff own]

/-- The settings after a call, as they are shown. -/
lemma SmtpRun.view (apart : SmtpKeysApart D) (own : D.DecryptsOwn)
    (named : SmtpNamed D s₀.systemSettings) (run : SmtpRun D s₀ (c :: calls) s) :
    smtpView s.systemSettings = viewOf c.cmd (keptSet s₀ (lastPassword (c :: calls))) := by
  have host := run.plain apart named (x := ⟨"smtp.host", c.cmd.host, false⟩) (by simp [plainRows])
  have port := run.plain apart named (x := ⟨"smtp.port", portText c.cmd.port, false⟩) (by simp [plainRows])
  have username := run.plain apart named (x := ⟨"smtp.username", c.cmd.username, false⟩) (by simp [plainRows])
  have sender := run.plain apart named (x := ⟨"smtp.from_address", c.cmd.fromAddress, false⟩) (by simp [plainRows])
  have tls := run.plain apart named (x := ⟨"smtp.use_tls", if c.cmd.useTls then "true" else "false", false⟩)
    (by simp [plainRows])
  rw [smtpView, smtpPort, smtpUseTls, host, port, username, sender, tls,
    (run.password apart own named).2, Option.bind_some, parsePort_portText]
  cases tls : c.cmd.useTls <;> simp [viewOf, tls]

lemma smtpConnection_wp (quiet : (ins 0).fault = none) :
    wpE (exec D) (SystemSettings.smtpServer D) ins s
      (fun server s' _ => s' = s ∧ loadedConnection D s.systemSettings = .ok server)
      (fun e s' _ => s' = s ∧ loadedConnection D s.systemSettings = .error e) := by
  unfold SystemSettings.smtpServer
  rw [wpE_bind, wpE_orLeave, db, Prog.op, wp_db]
  refine ⟨fun e fault => absurd fault (by simp [quiet]), fun _ => ?_⟩
  simp only [Stmt.exec, SystemSettingStmt.exec, wp_ret]
  split
  · rename_i unset
    have unset : (smtpView s.systemSettings).host = "" ∨ (smtpView s.systemSettings).fromAddress = "" := by
      simpa [smtpView] using unset
    exact ⟨rfl, if_pos unset⟩
  · rename_i set
    have set : ¬((smtpView s.systemSettings).host = "" ∨ (smtpView s.systemSettings).fromAddress = "") := by
      simpa [smtpView] using set
    refine wpE_orThrow_split (fun e failed => ⟨rfl, ?_⟩) fun password read => ⟨rfl, ?_⟩
    · exact (if_neg set).trans (by rw [failed]; rfl)
    · exact (if_neg set).trans (by rw [read]; rfl)

/-- What `smtp_server` makes of the settings. -/
lemma run_smtpServer (ins : Nat → Input) (s : Store) (quiet : (ins 0).fault = none) :
    (SystemSettings.smtpServer D).run.run (exec D) ins s = (loadedConnection D s.systemSettings, s) := by
  have w := wp_iff_run.mp (smtpConnection_wp (D := D) (s := s) quiet)
  generalize (SystemSettings.smtpServer D).run.run (exec D) ins s = ended at w ⊢
  obtain ⟨r, s'⟩ := ended
  cases r with
  | error e =>
    obtain ⟨rfl, loaded⟩ := w
    rw [loaded]
  | ok server =>
    obtain ⟨rfl, loaded⟩ := w
    rw [loaded]

end

/-! ## Two runs that differ in their passwords -/

/-- Two calls that differ in a password that is not empty, if at all. -/
structure SmtpCall.Alike (c c' : SmtpCall) : Prop where
  fields : { c.cmd with password := none } = { c'.cmd with password := none }
  kind : c.cmd.password.map (· = "") = c'.cmd.password.map (· = "")

/-- Two rows that are the same, or rows of the password with these two texts. -/
def SameBut (text text' : Option String) (row row' : SystemSetting) : Prop :=
  row' = row ∨ row.key = "smtp.password" ∧ text = some row.value ∧ ∃ t, text' = some t ∧ row' = { row with value := t }

section
variable {D : Deploy} {s s' s₀ : Store} {calls calls' : List SmtpCall} {c c' : SmtpCall}
  {rows rows' : List SystemSetting} {text text' : Option String}

lemma SameBut.key {row row' : SystemSetting} (same : SameBut text text' row row') : row'.key = row.key := by
  rcases same with rfl | ⟨-, -, t, -, rfl⟩ <;> rfl

lemma SmtpCall.Alike.plainRows (alike : c.Alike c') : plainRows c'.cmd = plainRows c.cmd := by
  have same : IdpMvp.plainRows { c'.cmd with password := none } = IdpMvp.plainRows { c.cmd with password := none } := by
    rw [alike.fields]
  exact same

/-- Tables with the same keys take the same branch. -/
lemma any_of_same (coll : String → Bool) (same : List.Forall₂ (SameBut text text') rows rows') :
    (rows'.any fun r => coll r.key) = rows.any fun r => coll r.key := by
  induction same with
  | nil => rfl
  | cons head _ ih => rw [List.any_cons, List.any_cons, ih, head.key]

lemma upsertRows_there {x : SystemSetting} (there : (rows.any fun r => D.coll r.key = D.coll x.key) = true) :
    upsertRows D x rows = rows.map fun r =>
      if D.coll r.key = D.coll x.key then { r with value := x.value, isSecret := x.isSecret } else r :=
  if_pos there

lemma upsertRows_absent {x : SystemSetting} (absent : (rows.any fun r => D.coll r.key = D.coll x.key) = false) :
    upsertRows D x rows = rows ++ [x] :=
  if_neg (ne_true_of_eq_false absent)

/-- The writing of one row of another key. -/
lemma SameBut.upsert {x : SystemSetting} (named : SmtpNamed D rows) (key : x.key ∈ smtpKeys)
    (plain : x.key ≠ "smtp.password") (same : List.Forall₂ (SameBut text text') rows rows') :
    List.Forall₂ (SameBut text text') (upsertRows D x rows) (upsertRows D x rows') := by
  unfold upsertRows
  rw [any_of_same (fun k => decide (D.coll k = D.coll x.key)) same]
  split
  · rw [List.forall₂_map_left_iff, List.forall₂_map_right_iff]
    refine ((List.forall₂_and_left _ _).mpr ⟨named, same⟩).imp fun row row' ⟨known, alike⟩ => ?_
    rw [alike.key]
    by_cases coll : D.coll row.key = D.coll x.key
    · rw [if_pos coll, if_pos coll]
      rcases alike with rfl | ⟨password, -⟩
      · exact .inl rfl
      · rw [known x.key key coll] at password
        exact absurd password plain
    · rw [if_neg coll, if_neg coll]
      exact alike
  · exact List.rel_append same (.cons (.inl rfl) .nil)

/-- The writing of the password's row, by each run with its own text. -/
lemma SameBut.upsert_password (t t' : String) (named : SmtpNamed D rows)
    (same : List.Forall₂ (SameBut text text') rows rows') :
    List.Forall₂ (SameBut (some t) (some t')) (upsertRows D (passwordRow t) rows)
      (upsertRows D (passwordRow t') rows') := by
  have known : "smtp.password" ∈ smtpKeys := by decide
  have other := any_of_same (fun k => decide (D.coll k = D.coll "smtp.password")) same
  cases there : rows.any fun r => decide (D.coll r.key = D.coll "smtp.password") with
  | true =>
    rw [there] at other
    rw [upsertRows_there (x := passwordRow t) there, upsertRows_there (x := passwordRow t') other,
      List.forall₂_map_left_iff, List.forall₂_map_right_iff]
    refine ((List.forall₂_and_left _ _).mpr ⟨named, same⟩).imp fun row row' ⟨named, alike⟩ => ?_
    rw [alike.key, passwordRow_key, passwordRow_key]
    by_cases coll : D.coll row.key = D.coll "smtp.password"
    · have password := named _ known coll
      rw [if_pos coll, if_pos coll]
      refine .inr ⟨password, rfl, t', rfl, ?_⟩
      rcases alike with rfl | ⟨-, -, t, -, rfl⟩ <;> rfl
    · rw [if_neg coll, if_neg coll]
      rcases alike with rfl | ⟨password, -⟩
      · exact .inl rfl
      · exact absurd (congrArg D.coll password) coll
  | false =>
    rw [there] at other
    have absent := List.any_eq_false.mp there
    rw [upsertRows_absent (x := passwordRow t) there, upsertRows_absent (x := passwordRow t') other]
    refine List.rel_append ?_ (.cons (.inr ⟨rfl, rfl, t', rfl, rfl⟩) .nil)
    refine ((List.forall₂_and_left _ _).mpr ⟨absent, same⟩).imp fun row row' ⟨absent, alike⟩ => ?_
    rcases alike with rfl | ⟨password, -⟩
    · exact .inl rfl
    · exact absurd (decide_eq_true (congrArg D.coll password)) absent

lemma SameBut.upsertAll {xs : List SystemSetting} (apart : SmtpKeysApart D) (named : SmtpNamed D rows)
    (keys : ∀ x ∈ xs, x.key ∈ smtpKeys ∧ x.key ≠ "smtp.password")
    (same : List.Forall₂ (SameBut text text') rows rows') :
    List.Forall₂ (SameBut text text') (upsertAll D xs rows) (upsertAll D xs rows') := by
  induction xs generalizing rows rows' with
  | nil => exact same
  | cons x xs ih =>
    obtain ⟨key, plain⟩ := keys x List.mem_cons_self
    exact ih (named.upsert apart key) (fun y mem => keys y (List.mem_cons_of_mem _ mem))
      (SameBut.upsert named key plain same)

lemma plainRows_keys (cmd : UpdateSmtpCommand) : ∀ x ∈ plainRows cmd, x.key ∈ smtpKeys ∧ x.key ≠ "smtp.password" := by
  intro x mem
  have key : x.key ∈ ["smtp.host", "smtp.port", "smtp.username", "smtp.from_address", "smtp.use_tls"] :=
    List.mem_map_of_mem mem
  revert key
  generalize x.key = k
  revert k
  decide

/-- Calls that both succeed store a text both or neither. -/
lemma SmtpCall.Alike.stores (alike : c.Alike c') (kept : Option.Rel (StoredFor D) c.cmd.password (passwordText D c))
    (kept' : Option.Rel (StoredFor D) c'.cmd.password (passwordText D c')) :
    passwordText D c = none ∧ passwordText D c' = none ∨
      ∃ t t', passwordText D c = some t ∧ passwordText D c' = some t' := by
  have kind := alike.kind
  generalize c.cmd.password = password, passwordText D c = text at kept kind ⊢
  generalize c'.cmd.password = password', passwordText D c' = text' at kept' kind ⊢
  cases kept with
  | none =>
    cases kept' with
    | none => exact .inl ⟨rfl, rfl⟩
    | some stored' => cases kind
  | some stored =>
    cases kept' with
    | none => cases kind
    | some stored' => exact .inr ⟨_, _, rfl, rfl⟩

/-- The tables after alike calls are the same but for the password's text. -/
lemma SmtpRun.same (apart : SmtpKeysApart D) (named : SmtpNamed D s₀.systemSettings)
    (alike : List.Forall₂ SmtpCall.Alike calls calls') (run : SmtpRun D s₀ calls s) (run' : SmtpRun D s₀ calls' s') :
    List.Forall₂ (SameBut (lastText D calls) (lastText D calls')) s.systemSettings s'.systemSettings := by
  induction alike generalizing s s' with
  | nil =>
    cases run
    cases run'
    exact List.forall₂_same.mpr fun row _ => .inl rfl
  | @cons c c' calls calls' head alike ih =>
    cases run with
    | call run _ saved =>
      cases run' with
      | call run' _ saved' =>
        have plain := SameBut.upsertAll apart (run.named apart named) (plainRows_keys c.cmd) (ih run run')
        have named := (run.named apart named).upsertAll apart fun x mem => (plainRows_keys c.cmd x mem).1
        rw [(saveSmtp_ok saved).1, (saveSmtp_ok saved').1, callRows_eq, callRows_eq, head.plainRows, lastText_cons,
          lastText_cons]
        rcases head.stores (saveSmtp_password saved) (saveSmtp_password saved') with ⟨none, none'⟩ | ⟨t, t', text, text'⟩
        · rw [none, none']
          simpa [upsertAll] using plain
        · rw [text, text']
          have both := SameBut.upsert_password t t' named plain
          simpa [upsertAll] using both

/-- A password is set after alike calls in both runs or in neither. -/
lemma keptSet_alike (alike : List.Forall₂ SmtpCall.Alike calls calls') :
    keptSet s₀ (lastPassword calls') = keptSet s₀ (lastPassword calls) := by
  induction alike with
  | nil => rfl
  | @cons c c' calls calls' head alike ih =>
    have kind := head.kind
    rw [lastPassword, lastPassword, List.findSome?_cons, List.findSome?_cons]
    generalize c.cmd.password = password, c'.cmd.password = password' at kind ⊢
    cases password with
    | none =>
      cases password' with
      | none => exact ih
      | some password' => cases kind
    | some password =>
      cases password' with
      | none => cases kind
      | some password' =>
        have kind : (password = "") = (password' = "") := by simpa using kind
        simp [keptSet, kind]

lemma viewOf_alike (alike : c.Alike c') (set : Bool) : viewOf c'.cmd set = viewOf c.cmd set := by
  have same : viewOf { c'.cmd with password := none } set = viewOf { c.cmd with password := none } set := by
    rw [alike.fields]
  exact same

lemma SmtpRun.view_alike (apart : SmtpKeysApart D) (own : D.DecryptsOwn)
    (named : SmtpNamed D s₀.systemSettings) (alike : List.Forall₂ SmtpCall.Alike calls calls')
    (run : SmtpRun D s₀ calls s) (run' : SmtpRun D s₀ calls' s') :
    smtpView s'.systemSettings = smtpView s.systemSettings := by
  have set : keptSet s₀ (lastPassword calls') = keptSet s₀ (lastPassword calls) := keptSet_alike alike
  cases alike with
  | nil =>
    cases run
    cases run'
    rfl
  | cons head alike => rw [run.view apart own named, run'.view apart own named, set, viewOf_alike head]

/-- What the calls of `update_smtp` have given is what `get_smtp` and `smtp_server` say, and with other passwords all
but the stored texts of these would be the same. -/
theorem smtp_settings_round_trip (apart : SmtpKeysApart D) (own : D.DecryptsOwn)
    (named : SmtpNamed D s₀.systemSettings) :
    (∀ c calls s, SmtpRun D s₀ (c :: calls) s → ∀ ins : Nat → Input, (ins 0).fault = none →
      getSmtp.run.run (exec D) ins s = (.ok (viewOf c.cmd (keptSet s₀ (lastPassword (c :: calls)))), s) ∧
      (SystemSettings.smtpServer D).run.run (exec D) ins s =
        (if c.cmd.host = "" ∨ c.cmd.fromAddress = "" then .ok none
          else (keptPassword D s₀ (lastPassword (c :: calls))).map fun password => some (connectionOf c.cmd password),
          s)) ∧
    ∀ calls calls' s s', List.Forall₂ SmtpCall.Alike calls calls' → SmtpRun D s₀ calls s → SmtpRun D s₀ calls' s' →
      (∀ ins, (getSmtp.run.run (exec D) ins s').1 = (getSmtp.run.run (exec D) ins s).1) ∧
      List.Forall₂ (SameBut (lastText D calls) (lastText D calls')) s.systemSettings s'.systemSettings := by
  refine ⟨fun c calls s run ins quiet => ⟨?_, ?_⟩, fun calls calls' s s' alike run run' => ⟨fun ins => ?_, ?_⟩⟩
  · rw [run_getSmtp, quiet, run.view apart own named]
  · rw [run_smtpServer ins s quiet, loadedConnection, run.view apart own named,
      (run.password apart own named).1]
    rfl
  · rw [run_getSmtp, run_getSmtp, run.view_alike apart own named alike run']
    cases (ins 0).fault <;> rfl
  · exact run.same apart named alike run'

end

namespace Sample

/-- The store after calls, the latest first. -/
def smtpStore : List SmtpCall → Store
  | [] => oldServerStore
  | c :: calls => (saveSmtp deploy c.cmd c.ins (smtpStore calls)).2

/-- Every call succeeds. -/
def allSaved : List SmtpCall → Bool
  | [] => true
  | c :: calls => (saveSmtp deploy c.cmd c.ins (smtpStore calls)).1.isOk && allSaved calls

lemma smtpStore_run {calls : List SmtpCall} (saved : allSaved calls = true) :
    SmtpRun deploy oldServerStore calls (smtpStore calls) := by
  induction calls with
  | nil => exact .nil
  | cons c calls ih =>
    obtain ⟨last, before⟩ := Bool.and_eq_true_iff.mp saved
    cases made : (saveSmtp deploy c.cmd c.ins (smtpStore calls)).1 with
    | error e =>
      rw [made] at last
      cases last
    | ok view =>
      have ended : saveSmtp deploy c.cmd c.ins (smtpStore calls) = (.ok view, smtpStore (c :: calls)) := by
        rw [← made, smtpStore]
      exact (ih before).call c ended

/-- The server after the move, under another name. -/
def renamedServer : UpdateSmtpCommand := { newServer with host := "mail.example.com", password := none }

/-- The password is removed, another one set, and the server renamed. -/
def smtpCalls (password : String) : List SmtpCall :=
  [⟨renamedServer, fun _ => input 3⟩, ⟨{ newServer with password := some password }, fun _ => input 2⟩,
    ⟨{ newServer with password := some "" }, fun _ => input 1⟩]

theorem newServer_reads_back :
    getSmtp.run.run (exec deploy) (fun _ => input 0) (smtpStore (smtpCalls "EC")) =
      (.ok (viewOf renamedServer true), smtpStore (smtpCalls "EC")) ∧
    (SystemSettings.smtpServer deploy).run.run (exec deploy) (fun _ => input 0) (smtpStore (smtpCalls "EC")) =
      (.ok (some (connectionOf renamedServer "EC")), smtpStore (smtpCalls "EC")) ∧
    (∀ ins, (getSmtp.run.run (exec deploy) ins (smtpStore (smtpCalls "RSA"))).1 =
      (getSmtp.run.run (exec deploy) ins (smtpStore (smtpCalls "EC"))).1) ∧
    List.Forall₂ (SameBut (some (stored 2 (asBytes "EC"))) (some (stored 2 (asBytes "RSA"))))
      (smtpStore (smtpCalls "EC")).systemSettings (smtpStore (smtpCalls "RSA")).systemSettings := by
  obtain ⟨reads, hides⟩ := smtp_settings_round_trip smtpKeysApart deploy_decryptsOwn oldServer_named
  have run : SmtpRun deploy oldServerStore (smtpCalls "EC") _ := smtpStore_run (by decide +kernel)
  have run' : SmtpRun deploy oldServerStore (smtpCalls "RSA") _ := smtpStore_run (by decide +kernel)
  have alike : List.Forall₂ SmtpCall.Alike (smtpCalls "EC") (smtpCalls "RSA") :=
    .cons ⟨rfl, rfl⟩ (.cons ⟨rfl, by simp⟩ (.cons ⟨rfl, rfl⟩ .nil))
  have set : ¬(renamedServer.host = "" ∨ renamedServer.fromAddress = "") := by decide
  obtain ⟨view, server⟩ := reads _ _ _ run (fun _ => input 0) rfl
  obtain ⟨shown, same⟩ := hides _ _ _ _ alike run run'
  have text : lastText deploy (smtpCalls "EC") = some (stored 2 (asBytes "EC")) := by decide +kernel
  have text' : lastText deploy (smtpCalls "RSA") = some (stored 2 (asBytes "RSA")) := by decide +kernel
  rw [text, text'] at same
  exact ⟨view, server.trans (by rw [if_neg set]; rfl), shown, same⟩

end Sample

end IdpMvp
