import IdpMvp.Setting.Starting

/-!
# The settings report

The report of a configuration says of every key where its value comes from, shows the values that are no secrets, and
hides the others. It calls no unsafe value safe exactly if nobody has written the unsafe value in a disguise: a zero
for `HSTS_MAX_AGE` that is not the text `0`, or a built-in secret set by hand (`settings_report_iff`).
-/

namespace IdpMvp

open Encoding

/-- What the text of a setting means to its field. -/
def SettingDefinition.read (d : SettingDefinition) (text : String) : Option SettingValue :=
  if d.key = "LOG_FORMAT" then some (.format (LogFormat.ofName text))
  else if d.key = "BIND_ADDR" then some (.text text)
  else d.kind.read text

/-- Who supplies the text of a key, and the text. -/
def supplied (env : Env) (db : String → Option String) (d : SettingDefinition) : SettingSource × Option String :=
  match if d.owner = .dbManaged then nonEmpty (db d.key) else none, envLookup env d.key with
  | some v, _ => (.db, some v)
  | none, some v => (.env, some v)
  | none, none => (.builtin, d.defaultValue)

/-- The field has the value that no server should run with. -/
def Config.Unsafe (c : Config) (key : String) : Prop :=
  key = "COOKIE_SECURE" ∧ c.cookieSecure = false ∨ key = "HSTS_MAX_AGE" ∧ c.hstsMaxAge = 0 ∨
    key = "KEY_ENCRYPTION_KEY" ∧ c.keyEncryptionKey = devKeyEncryptionKey ∨
    key = "INTERNAL_SERVICE_TOKEN" ∧ c.internalServiceToken = devInternalServiceToken ∨
    key = "CSRF_SECRET" ∧ c.csrfSecret = devCsrfSecret

/-- Two environments that differ in the values of secrets only. -/
structure SameButSecrets (env env' : Env) : Prop where
  plain : ∀ d ∈ runtimeSettingDefinitions, d.secret = false → envLookup env d.key = envLookup env' d.key
  set : ∀ d ∈ runtimeSettingDefinitions, (envLookup env d.key).isSome = (envLookup env' d.key).isSome

/-- The report says what the configuration is, and no secret: every key has an entry, with a text if the key is
no secret and somebody supplies one. -/
structure ReportFaithful (base64 : Base64) (env : Env) (db : String → Option String) (c : Config) : Prop where
  complete : ∀ d ∈ runtimeSettingDefinitions, ∃ e ∈ c.resolvedSettings, e.key = d.key ∧
    (e.value.isSome = true ↔ d.secret = false ∧ (supplied env db d).2.isSome = true)
  sources : ∀ d ∈ runtimeSettingDefinitions, ∀ e ∈ c.resolvedSettings, e.key = d.key →
    e.source = (supplied env db d).1
  values : ∀ d ∈ runtimeSettingDefinitions, d.secret = false → ∀ e ∈ c.resolvedSettings, e.key = d.key →
    e.value = (supplied env db d).2 ∧ ∀ v, e.value = some v → d.read v = c.field d.key
  secrets : ∀ d ∈ runtimeSettingDefinitions, d.secret = true → ∀ e ∈ c.resolvedSettings, e.key = d.key →
    e.value = none ∧ e.defaultValue = none
  hidden : ∀ env' c', SameButSecrets env env' → Config.fromEnvAndDbSettings base64 env' db = .ok c' →
    c'.resolvedSettings = c.resolvedSettings
  safe : ∀ e ∈ c.resolvedSettings, c.Unsafe e.key → e.status ≠ .safe

/-- No unsafe value is written in a disguise. -/
structure Undisguised (base64 : Base64) (env : Env) : Prop where
  zero : ∀ v, envLookup env "HSTS_MAX_AGE" = some v → parseU64 v = .ok 0 → v = "0"
  keyEncryptionKey : ∀ v, envLookup env "KEY_ENCRYPTION_KEY" = some v →
    decodeSecret32 base64 "KEY_ENCRYPTION_KEY" v ≠ .ok devKeyEncryptionKey
  internalServiceToken : envLookup env "INTERNAL_SERVICE_TOKEN" ≠ some devInternalServiceToken
  csrfSecret : ∀ v, envLookup env "CSRF_SECRET" = some v →
    decodeSecret32 base64 "CSRF_SECRET" v ≠ .ok devCsrfSecret

section
variable {base64 : Base64} {env : Env} {db : String → Option String} {c : Config}

/-! ## Sources and values -/

/-- The entry of a key. -/
lemma entry_of_key {r : ConfigResolver} {d : SettingDefinition} {e : ResolvedSetting}
    (mem : d ∈ runtimeSettingDefinitions) (entry : e ∈ r.resolvedSettings) (named : e.key = d.key) :
    e = r.resolvedSetting d := by
  obtain ⟨d', mem', rfl⟩ := List.mem_map.mp entry
  have found := runtimeSettingDefinition_key d' mem'
  have named : d'.key = d.key := named
  rw [named, runtimeSettingDefinition_key d mem] at found
  rw [Option.some.inj found]

lemma no_builtin : ∀ d ∈ runtimeSettingDefinitions, d.owner ≠ .builtin := by decide +kernel

/-- The resolver asks in the order of the sources. -/
lemma supplied_eq {d : SettingDefinition} (mem : d ∈ runtimeSettingDefinitions) :
    supplied env db d = ((ConfigResolver.mk env db).source d.key,
      ((ConfigResolver.mk env db).optionalString d.key).orElse fun _ => d.defaultValue) := by
  have asked : (ConfigResolver.mk env db).dbValue d.key =
      if d.owner = .dbManaged then nonEmpty (db d.key) else none := by
    rw [ConfigResolver.dbValue, runtimeSettingDefinition_key d mem, Option.any_some]
    by_cases managed : d.owner = .dbManaged
    · rw [decide_eq_true managed, if_pos rfl, if_pos managed]
    · rw [decide_eq_false managed, if_neg Bool.false_ne_true, if_neg managed]
  rw [supplied, ConfigResolver.source, ConfigResolver.optionalString, asked]
  generalize (if d.owner = .dbManaged then nonEmpty (db d.key) else none) = saved
  cases saved <;> cases envLookup env d.key <;> rfl

/-- The entry of a key that is no secret shows its text. -/
lemma shown_value {r : ConfigResolver} {d : SettingDefinition} (plain : d.secret = false) :
    (r.resolvedSetting d).value = (r.optionalString d.key).orElse fun _ => d.defaultValue := by
  rw [ConfigResolver.resolvedSetting, plain]
  rfl

/-- The text of a parsed field is what it was parsed from. -/
lemma read_shown {α : Type} {fromStr : String → Except String α} {r : ConfigResolver} {d : SettingDefinition}
    {key v : String} {default a : α} {value : α → SettingValue}
    (parsed : r.parse fromStr key default = .ok a)
    (means : ∀ text a, fromStr text = .ok a → d.read text = some (value a))
    (fallback : ∀ text, d.defaultValue = some text → fromStr text = .ok default)
    (shown : (r.optionalString key).orElse (fun _ => d.defaultValue) = some v) : d.read v = some (value a) := by
  rw [ConfigResolver.parse] at parsed
  cases given : r.optionalString key with
  | none =>
    rw [given] at parsed shown
    obtain rfl := Except.ok.inj parsed
    exact means v default (fallback v shown)
  | some text =>
    rw [given] at parsed shown
    obtain rfl := Option.some.inj shown
    dsimp only at parsed
    cases read : fromStr text with
    | error e =>
      rw [read] at parsed
      cases parsed
    | ok b =>
      rw [read] at parsed
      obtain rfl := Except.ok.inj parsed
      exact means text b read

lemma string_shown {r : ConfigResolver} {key default v : String}
    (shown : (r.optionalString key).orElse (fun _ => some default) = some v) : r.string key default = v := by
  rw [ConfigResolver.string]
  cases given : r.optionalString key with
  | none =>
    rw [given] at shown
    exact Option.some.inj shown
  | some text =>
    rw [given] at shown
    exact Option.some.inj shown

/-- The keys that are no secrets. -/
lemma plain_cases : ∀ d ∈ runtimeSettingDefinitions, d.secret = false →
    (d.key, d.kind, d.defaultValue) ∈ ([
      ("AUTH_SESSION_TTL_SECS", .unsignedInteger, some "600"),
      ("AUTHORIZATION_CODE_TTL_SECS", .unsignedInteger, some "60"),
      ("SSO_IDLE_TTL_SECS", .unsignedInteger, some "28800"),
      ("SSO_ABSOLUTE_TTL_SECS", .unsignedInteger, some "86400"),
      ("ACCESS_TOKEN_TTL_SECS", .unsignedInteger, some "900"),
      ("ID_TOKEN_TTL_SECS", .unsignedInteger, some "3600"),
      ("REFRESH_TOKEN_TTL_SECS", .unsignedInteger, some "2592000"),
      ("CLOCK_SKEW_SECS", .unsignedInteger, some "60"),
      ("INVITATION_TTL_SECS", .unsignedInteger, some "604800"),
      ("PASSWORD_RESET_TTL_SECS", .unsignedInteger, some "3600"),
      ("EMAIL_VERIFICATION_TTL_SECS", .unsignedInteger, some "86400"),
      ("TENANT_CACHE_TTL_SECS", .unsignedInteger, some "60"),
      ("PERMISSION_CACHE_TTL_SECS", .unsignedInteger, some "60"),
      ("HSTS_MAX_AGE", .unsignedInteger, some "0"),
      ("DB_MAX_CONNECTIONS", .unsignedInteger, some "10"),
      ("KEY_ROTATION_LEAD_DAYS", .unsignedInteger, some "30"),
      ("COOKIE_SECURE", .boolean, none),
      ("TRUST_FORWARDED_HEADERS", .boolean, some "false"),
      ("ISSUER", .text, some "http://localhost:8080"),
      ("BIND_ADDR", .text, some "0.0.0.0:8080"),
      ("LOG_FORMAT", .text, some "json"),
      ("PUBLIC_WEB_BASE_URL", .text, none)] : List (String × SettingKind × Option String)) := by
  decide +kernel

/-- Without a name of its own, a setting is read as its type says. -/
lemma read_kind {d : SettingDefinition} {key : String} {kind : SettingKind} (named : d.key = key) (typed : d.kind = kind)
    (other : key ≠ "LOG_FORMAT" ∧ key ≠ "BIND_ADDR") (text : String) : d.read text = kind.read text := by
  rw [SettingDefinition.read, named, if_neg other.1, if_neg other.2, typed]

/-- The value that is shown is that of the field. -/
lemma ConfigReads.shown (reads : ConfigReads base64 ⟨env, db⟩ c) {d : SettingDefinition}
    (mem : d ∈ runtimeSettingDefinitions) (plain : d.secret = false) {v : String}
    (shown : ((ConfigResolver.mk env db).optionalString d.key).orElse (fun _ => d.defaultValue) = some v) :
    d.read v = c.field d.key := by
  have fallback : ∀ {α : Type} {fromStr : String → Except String α} {text : String} {default : α},
      d.defaultValue = some text → fromStr text = .ok default →
      ∀ t, d.defaultValue = some t → fromStr t = .ok default := by
    intro α fromStr text default one reads t other
    rw [← Option.some.inj (one.symm.trans other)]
    exact reads
  have number : ∀ {key text : String} {n m : Nat}, key ≠ "LOG_FORMAT" ∧ key ≠ "BIND_ADDR" → d.key = key →
      d.kind = .unsignedInteger → d.defaultValue = some text → parseU64 text = .ok m →
      (ConfigResolver.mk env db).parse parseU64 key m = .ok n →
      ((ConfigResolver.mk env db).optionalString key).orElse (fun _ => d.defaultValue) = some v →
      d.read v = some (.number n) := by
    intro key text n m other named kind default reads parsed shown
    exact read_shown parsed (fun text n read => (read_kind named kind other text).trans (read_u64 text n read))
      (fallback default reads) shown
  have small : ∀ {key text : String} {n m : Nat}, key ≠ "LOG_FORMAT" ∧ key ≠ "BIND_ADDR" → d.key = key →
      d.kind = .unsignedInteger → d.defaultValue = some text → parseU32 text = .ok m →
      (ConfigResolver.mk env db).parse parseU32 key m = .ok n →
      ((ConfigResolver.mk env db).optionalString key).orElse (fun _ => d.defaultValue) = some v →
      d.read v = some (.number n) := by
    intro key text n m other named kind default reads parsed shown
    exact read_shown parsed (fun text n read => (read_kind named kind other text).trans (read_u32 text n read))
      (fallback default reads) shown
  have named := plain_cases d mem plain
  simp only [List.mem_cons, List.not_mem_nil, or_false, Prod.mk.injEq] at named
  rcases named with ⟨key, kind, default⟩ | ⟨key, kind, default⟩ | ⟨key, kind, default⟩ | ⟨key, kind, default⟩ | ⟨key, kind, default⟩ | ⟨key, kind, default⟩ | ⟨key, kind, default⟩ | ⟨key, kind, default⟩ | ⟨key, kind, default⟩ | ⟨key, kind, default⟩ | ⟨key, kind, default⟩ | ⟨key, kind, default⟩ | ⟨key, kind, default⟩ | ⟨key, kind, default⟩ | ⟨key, kind, default⟩ | ⟨key, kind, default⟩ | ⟨key, kind, default⟩ | ⟨key, kind, default⟩ | ⟨key, kind, default⟩ | ⟨key, kind, default⟩ | ⟨key, kind, default⟩ | ⟨key, kind, default⟩
  all_goals
    rw [key] at shown ⊢
    have typed := read_kind key kind
  · exact number (by decide) key kind default rfl reads.authSessionTtl shown
  · exact number (by decide) key kind default rfl reads.authorizationCodeTtl shown
  · exact number (by decide) key kind default rfl reads.ssoIdleTtl shown
  · exact number (by decide) key kind default rfl reads.ssoAbsoluteTtl shown
  · exact number (by decide) key kind default rfl reads.accessTokenTtl shown
  · exact number (by decide) key kind default rfl reads.idTokenTtl shown
  · exact number (by decide) key kind default rfl reads.refreshTokenTtl shown
  · exact number (by decide) key kind default rfl reads.clockSkew shown
  · exact number (by decide) key kind default rfl reads.invitationTtl shown
  · exact number (by decide) key kind default rfl reads.passwordResetTtl shown
  · exact number (by decide) key kind default rfl reads.emailVerificationTtl shown
  · exact number (by decide) key kind default rfl reads.tenantCacheTtl shown
  · exact number (by decide) key kind default rfl reads.permissionCacheTtl shown
  · exact number (by decide) key kind default rfl reads.hstsMaxAge shown
  · exact small (by decide) key kind default rfl reads.dbMaxConnections shown
  · exact small (by decide) key kind default rfl reads.keyRotationLeadDays shown
  · change _ = some (SettingValue.flag c.cookieSecure)
    refine read_shown reads.cookieSecure (fun text b read => (typed (by decide) text).trans (read_bool text b read))
      (fun t given => ?_) shown
    cases default.symm.trans given
  · change _ = some (SettingValue.flag c.trustForwardedHeaders)
    exact read_shown reads.trustForwardedHeaders
      (fun text b read => (typed (by decide) text).trans (read_bool text b read)) (fallback default rfl) shown
  · rw [default] at shown
    rw [typed (by decide), SettingKind.read, ← string_shown shown, ← reads.issuer]
    rfl
  · rw [default] at shown
    rw [SettingDefinition.read, key, if_neg (by decide), if_pos rfl, ← string_shown shown, ← reads.bindAddr]
    rfl
  · rw [default] at shown
    rw [SettingDefinition.read, key, if_pos rfl, ← string_shown shown, ← reads.logFormat]
    rfl
  · rw [typed (by decide), SettingKind.read]
    change _ = some (SettingValue.text c.publicWebBaseUrl)
    rw [reads.publicWebBaseUrl, ConfigResolver.publicWebBaseUrl]
    cases given : (ConfigResolver.mk env db).optionalString "PUBLIC_WEB_BASE_URL" with
    | none =>
      rw [given, default] at shown
      cases shown
    | some text =>
      rw [given] at shown
      rw [Option.some.inj shown]

/-! ## Secrets -/

/-- The entries depend on the environment only through the texts of the plain keys and which keys are set. -/
lemma resolvedSettings_same {env' : Env} (same : SameButSecrets env env') :
    (ConfigResolver.mk env' db).resolvedSettings = (ConfigResolver.mk env db).resolvedSettings := by
  refine List.map_congr_left fun d mem => ?_
  have managed : (ConfigResolver.mk env' db).dbValue d.key = (ConfigResolver.mk env db).dbValue d.key := rfl
  have source : (ConfigResolver.mk env' db).source d.key = (ConfigResolver.mk env db).source d.key := by
    rw [ConfigResolver.source, ConfigResolver.source, managed, same.set d mem]
  have dev : (ConfigResolver.mk env' db).developmentSecret d.key =
      (ConfigResolver.mk env db).developmentSecret d.key := by
    have set := same.set d mem
    rw [ConfigResolver.developmentSecret, ConfigResolver.developmentSecret]
    cases h : envLookup env d.key <;> cases h' : envLookup env' d.key <;> simp_all
  have plain : d.secret = false →
      (ConfigResolver.mk env' db).optionalString d.key = (ConfigResolver.mk env db).optionalString d.key := by
    intro plain
    rw [ConfigResolver.optionalString, ConfigResolver.optionalString, managed, same.plain d mem plain]
  have status : (ConfigResolver.mk env' db).safetyStatus d.key d.defaultRisk =
      (ConfigResolver.mk env db).safetyStatus d.key d.defaultRisk := by
    have shown : ∀ d ∈ runtimeSettingDefinitions, d.key = "COOKIE_SECURE" ∨ d.key = "HSTS_MAX_AGE" →
        d.secret = false := by decide +kernel
    rw [ConfigResolver.safetyStatus, ConfigResolver.safetyStatus, dev, source]
    by_cases cookie : d.key = "COOKIE_SECURE"
    · rw [plain (shown d mem (.inl cookie))]
    by_cases hsts : d.key = "HSTS_MAX_AGE"
    · rw [plain (shown d mem (.inr hsts))]
    · rw [if_neg cookie, if_neg hsts, if_neg cookie, if_neg hsts]
  have reason : (ConfigResolver.mk env' db).safetyReason d.key d.defaultRisk =
      (ConfigResolver.mk env db).safetyReason d.key d.defaultRisk := by
    rw [ConfigResolver.safetyReason, ConfigResolver.safetyReason, dev, source, status]
  rw [ConfigResolver.resolvedSetting, ConfigResolver.resolvedSetting, source, status, reason]
  cases secret : d.secret with
  | true => rfl
  | false => rw [plain secret]

/-! ## Unsafe values -/

lemma optionalString_hsts : (ConfigResolver.mk env db).optionalString "HSTS_MAX_AGE" = envLookup env "HSTS_MAX_AGE" := by
  have locked : Locked "HSTS_MAX_AGE" := by decide +kernel
  rw [locked.optionalString, optionalString_env]

/-- The age is read from the environment. -/
lemma ConfigReads.zero_age (reads : ConfigReads base64 ⟨env, db⟩ c) {v : String}
    (given : envLookup env "HSTS_MAX_AGE" = some v) : c.hstsMaxAge = 0 ↔ parseU64 v = .ok 0 := by
  have parsed := reads.hstsMaxAge
  rw [ConfigResolver.parse, optionalString_hsts, given] at parsed
  dsimp only at parsed
  cases read : parseU64 v with
  | error e =>
    rw [read] at parsed
    cases parsed
  | ok n =>
    rw [read] at parsed
    obtain rfl := Except.ok.inj parsed
    rw [Except.ok.injEq]

/-- A secret that is set is the decoded one. -/
lemma loadSecret_set {name v : String} {dev key : Key32} {isDev : Bool} (given : envLookup env name = some v)
    (loaded : loadSecret base64 env name dev = .ok (key, isDev)) : decodeSecret32 base64 name v = .ok key := by
  rw [loadSecret, given] at loaded
  dsimp only at loaded
  cases decoded : decodeSecret32 base64 name v with
  | error e =>
    rw [decoded] at loaded
    cases loaded
  | ok k =>
    rw [decoded] at loaded
    rw [(Prod.mk.inj (Except.ok.inj loaded)).1]

/-- A secret that is not set needs action. -/
lemma status_unset {r : ConfigResolver} {key : String} {risk : DefaultRisk}
    (secret : key ∈ ["KEY_ENCRYPTION_KEY", "INTERNAL_SERVICE_TOKEN", "CSRF_SECRET"])
    (unset : envLookup r.env key = none) : r.safetyStatus key risk = .needsAction := by
  have dev : r.developmentSecret key = true := by
    rw [ConfigResolver.developmentSecret, unset, decide_eq_true secret]
    rfl
  rw [ConfigResolver.safetyStatus, if_pos dev]

/-- A secret that is set is called safe, whatever it is. -/
lemma status_set {key v : String} {risk : DefaultRisk}
    (secret : key ∈ ["KEY_ENCRYPTION_KEY", "INTERNAL_SERVICE_TOKEN", "CSRF_SECRET"])
    (given : envLookup env key = some v) : (ConfigResolver.mk env db).safetyStatus key risk = .safe := by
  have locked : ∀ key ∈ ["KEY_ENCRYPTION_KEY", "INTERNAL_SERVICE_TOKEN", "CSRF_SECRET"],
      Locked key ∧ key ≠ "COOKIE_SECURE" ∧ key ≠ "HSTS_MAX_AGE" := by decide +kernel
  obtain ⟨⟨d, mem, rfl, other⟩, cookie, hsts⟩ := locked key secret
  have dev : (ConfigResolver.mk env db).developmentSecret d.key = false := by
    rw [ConfigResolver.developmentSecret]
    simp [given]
  have source : (ConfigResolver.mk env db).source d.key = .env := by
    rw [ConfigResolver.source, ConfigResolver.dbValue, runtimeSettingDefinition_key d mem, Option.any_some,
      decide_eq_false other, if_neg Bool.false_ne_true, given]
    rfl
  rw [ConfigResolver.safetyStatus, dev, if_neg Bool.false_ne_true, if_neg cookie, if_neg hsts, source]
  exact if_neg (by simp)

lemma developmentSecret_hsts : (ConfigResolver.mk env db).developmentSecret "HSTS_MAX_AGE" = false := by
  rw [ConfigResolver.developmentSecret]
  rfl

lemma status_hsts_unset {risk : DefaultRisk} (unset : envLookup env "HSTS_MAX_AGE" = none) :
    (ConfigResolver.mk env db).safetyStatus "HSTS_MAX_AGE" risk = .needsAction := by
  rw [ConfigResolver.safetyStatus, developmentSecret_hsts, if_neg Bool.false_ne_true, if_neg (by decide), if_pos rfl,
    optionalString_hsts, unset]

/-- An age that is set is called safe unless it is the text `0`. -/
lemma status_hsts {risk : DefaultRisk} {v : String} (given : envLookup env "HSTS_MAX_AGE" = some v) :
    (ConfigResolver.mk env db).safetyStatus "HSTS_MAX_AGE" risk = .safe ↔ v ≠ "0" := by
  rw [ConfigResolver.safetyStatus, developmentSecret_hsts, if_neg Bool.false_ne_true, if_neg (by decide), if_pos rfl,
    optionalString_hsts, given]
  by_cases zero : v = "0" <;> simp [zero]

/-- Cookies that are not secure need action. -/
lemma status_cookie {risk : DefaultRisk} (reads : ConfigReads base64 ⟨env, db⟩ c) (off : c.cookieSecure = false) :
    (ConfigResolver.mk env db).safetyStatus "COOKIE_SECURE" risk = .needsAction := by
  have dev : (ConfigResolver.mk env db).developmentSecret "COOKIE_SECURE" = false := by
    rw [ConfigResolver.developmentSecret]
    rfl
  have parsed := reads.cookieSecure
  rw [ConfigResolver.parse] at parsed
  rw [ConfigResolver.safetyStatus, dev, if_neg Bool.false_ne_true, if_pos rfl]
  cases given : (ConfigResolver.mk env db).optionalString "COOKIE_SECURE" with
  | none => rfl
  | some v =>
    rw [given, off] at parsed
    -- Only one text is read as `false`.
    have read : v = "false" := by
      unfold parseBool at parsed
      dsimp only at parsed
      split_ifs at parsed with yes no
      · cases Except.ok.inj parsed
      · exact no
      · cases parsed
    rw [read]
    exact if_pos (by decide +kernel)

/-- The status of an unsafe field, if nothing is disguised. -/
lemma status_unsafe (reads : ConfigReads base64 ⟨env, db⟩ c) (plain : Undisguised base64 env) {key : String}
    {risk : DefaultRisk} (bad : c.Unsafe key) : (ConfigResolver.mk env db).safetyStatus key risk ≠ .safe := by
  rcases bad with ⟨rfl, off⟩ | ⟨rfl, zero⟩ | ⟨rfl, dev⟩ | ⟨rfl, dev⟩ | ⟨rfl, dev⟩
  · rw [status_cookie reads off]
    nofun
  · cases given : envLookup env "HSTS_MAX_AGE" with
    | none =>
      rw [status_hsts_unset given]
      nofun
    | some v =>
      rw [Ne, status_hsts given, not_not]
      exact plain.zero v given ((reads.zero_age given).mp zero)
  · cases given : envLookup env "KEY_ENCRYPTION_KEY" with
    | none =>
      rw [status_unset (by decide) given]
      nofun
    | some v => exact absurd (dev ▸ loadSecret_set given reads.keyEncryptionKey) (plain.keyEncryptionKey v given)
  · cases given : envLookup env "INTERNAL_SERVICE_TOKEN" with
    | none =>
      rw [status_unset (by decide) given]
      nofun
    | some v =>
      have token := reads.internalServiceToken
      rw [loadInternalServiceToken, given, dev] at token
      rw [(Prod.mk.inj token).1] at given
      exact absurd given plain.internalServiceToken
  · cases given : envLookup env "CSRF_SECRET" with
    | none =>
      rw [status_unset (by decide) given]
      nofun
    | some v => exact absurd (dev ▸ loadSecret_set given reads.csrfSecret) (plain.csrfSecret v given)

/-- The status of a key in a report that calls nothing unsafe safe. -/
lemma ReportFaithful.status (faithful : ReportFaithful base64 env db c) (reads : ConfigReads base64 ⟨env, db⟩ c)
    {key : String} (known : ∃ d ∈ runtimeSettingDefinitions, d.key = key) (bad : c.Unsafe key) :
    ∃ risk, (ConfigResolver.mk env db).safetyStatus key risk ≠ .safe := by
  obtain ⟨d, mem, rfl⟩ := known
  have entry : (ConfigResolver.mk env db).resolvedSetting d ∈ c.resolvedSettings := by
    rw [reads.resolvedSettings]
    exact List.mem_map_of_mem mem
  exact ⟨d.defaultRisk, faithful.safe _ entry bad⟩

lemma ReportFaithful.undisguised (faithful : ReportFaithful base64 env db c) (reads : ConfigReads base64 ⟨env, db⟩ c) :
    Undisguised base64 env where
  zero v given read := by
    have bad : c.Unsafe "HSTS_MAX_AGE" := .inr (.inl ⟨rfl, (reads.zero_age given).mpr read⟩)
    obtain ⟨risk, status⟩ := faithful.status reads (by decide +kernel) bad
    rw [Ne, status_hsts given, not_not] at status
    exact status
  keyEncryptionKey v given decoded := by
    have dev : c.keyEncryptionKey = devKeyEncryptionKey :=
      Except.ok.inj ((loadSecret_set given reads.keyEncryptionKey).symm.trans decoded)
    have bad : c.Unsafe "KEY_ENCRYPTION_KEY" := .inr (.inr (.inl ⟨rfl, dev⟩))
    obtain ⟨risk, status⟩ := faithful.status reads (by decide +kernel) bad
    exact status (status_set (by decide) given)
  internalServiceToken given := by
    have token := reads.internalServiceToken
    rw [loadInternalServiceToken, given] at token
    have bad : c.Unsafe "INTERNAL_SERVICE_TOKEN" := .inr (.inr (.inr (.inl ⟨rfl, (Prod.mk.inj token).1.symm⟩)))
    obtain ⟨risk, status⟩ := faithful.status reads (by decide +kernel) bad
    exact status (status_set (by decide) given)
  csrfSecret v given decoded := by
    have dev : c.csrfSecret = devCsrfSecret :=
      Except.ok.inj ((loadSecret_set given reads.csrfSecret).symm.trans decoded)
    have bad : c.Unsafe "CSRF_SECRET" := .inr (.inr (.inr (.inr ⟨rfl, dev⟩)))
    obtain ⟨risk, status⟩ := faithful.status reads (by decide +kernel) bad
    exact status (status_set (by decide) given)

end

/-- The report of a configuration is faithful exactly if no unsafe value is disguised. -/
theorem settings_report_iff {base64 : Base64} {env : Env} {db : String → Option String} {c : Config}
    (resolved : Config.fromEnvAndDbSettings base64 env db = .ok c) :
    ReportFaithful base64 env db c ↔ Undisguised base64 env := by
  have reads := fromEnvAndDbSettings_ok.mp resolved
  refine ⟨fun faithful => faithful.undisguised reads, fun plain => ?_⟩
  have entries := reads.resolvedSettings
  refine ⟨fun d mem => ?_, fun d mem e there named => ?_, fun d mem isPlain e there named => ?_,
    fun d mem secret e there named => ?_, fun env' c' same resolved' => ?_, fun e there bad => ?_⟩
  · refine ⟨(ConfigResolver.mk env db).resolvedSetting d, entries ▸ List.mem_map_of_mem mem, rfl, ?_⟩
    cases secret : d.secret with
    | true => simp [ConfigResolver.resolvedSetting, secret]
    | false => rw [shown_value secret, supplied_eq mem, and_iff_right rfl]
  · rw [entries] at there
    obtain rfl := entry_of_key mem there named
    rw [supplied_eq mem]
    exact if_neg (no_builtin d mem)
  · rw [entries] at there
    obtain rfl := entry_of_key mem there named
    rw [shown_value isPlain, supplied_eq mem]
    exact ⟨rfl, fun v shown => reads.shown mem isPlain shown⟩
  · rw [entries] at there
    obtain rfl := entry_of_key mem there named
    rw [ConfigResolver.resolvedSetting, secret]
    exact ⟨rfl, rfl⟩
  · rw [(fromEnvAndDbSettings_ok.mp resolved').resolvedSettings, entries, resolvedSettings_same same]
  · rw [entries] at there
    obtain ⟨d, mem, rfl⟩ := List.mem_map.mp there
    exact status_unsafe reads plain bad

namespace Sample

/-- The base64 of 32 zero bytes. -/
def zeroKey : String := "AAAAAAAAAAAAAAAAAAAAAAAAAAAAAAAAAAAAAAAAAAA="

def publicEnv : Env := fun key =>
  if key = "ISSUER" then some "https://id.example.com/"
  else if key = "HSTS_MAX_AGE" then some "31536000"
  else if key = "KEY_ENCRYPTION_KEY" ∨ key = "CSRF_SECRET" then some zeroKey
  else if key = "INTERNAL_SERVICE_TOKEN" then some "web to api"
  else none

def savedTtl (key : String) : Option String := if key = "ACCESS_TOKEN_TTL_SECS" then some "1200" else none

/-- The age is zero, in two digits. -/
def zeroAgeEnv : Env := fun key => if key = "HSTS_MAX_AGE" then some "00" else none

end Sample

open Sample in
/-- The report of a server whose secrets, issuer and age are set, with one saved setting, is faithful. -/
theorem settings_report_sample :
    ∃ c, Config.fromEnvAndDbSettings Base64.standard publicEnv savedTtl = .ok c ∧
      ReportFaithful Base64.standard publicEnv savedTtl c := by
  have starts : (Config.fromEnvAndDbSettings Base64.standard publicEnv savedTtl).isOk = true := by decide +kernel
  have plain : Undisguised Base64.standard publicEnv := by
    constructor
    · intro v given zero
      obtain rfl := Option.some.inj ((show envLookup publicEnv "HSTS_MAX_AGE" = some "31536000" by
        decide +kernel).symm.trans given)
      exact absurd zero (by decide +kernel)
    · intro v given
      obtain rfl := Option.some.inj ((show envLookup publicEnv "KEY_ENCRYPTION_KEY" = some zeroKey by
        decide +kernel).symm.trans given)
      decide +kernel
    · decide +kernel
    · intro v given
      obtain rfl := Option.some.inj ((show envLookup publicEnv "CSRF_SECRET" = some zeroKey by
        decide +kernel).symm.trans given)
      decide +kernel
  cases resolved : Config.fromEnvAndDbSettings Base64.standard publicEnv savedTtl with
  | error e =>
    rw [resolved] at starts
    cases starts
  | ok c => exact ⟨c, rfl, (settings_report_iff resolved).mpr plain⟩

open Sample in
/-- The report calls an age of zero safe. -/
theorem zero_age_reported_safe :
    ∃ c, Config.fromEnv Base64.standard zeroAgeEnv = .ok c ∧ c.hstsMaxAge = 0 ∧
      (c.resolvedSettings.find? (·.key = "HSTS_MAX_AGE")).map (·.status) = some .safe ∧
      ¬ ReportFaithful Base64.standard zeroAgeEnv (fun _ => none) c := by
  obtain ⟨c, resolved⟩ : ∃ c, Config.fromEnv Base64.standard zeroAgeEnv = .ok c := ⟨_, rfl⟩
  have reads := fromEnvAndDbSettings_ok.mp resolved
  have given : envLookup zeroAgeEnv "HSTS_MAX_AGE" = some "00" := by decide +kernel
  have zero := (reads.zero_age given).mpr (by decide +kernel)
  have shown : ((ConfigResolver.mk zeroAgeEnv fun _ => none).resolvedSettings.find? (·.key = "HSTS_MAX_AGE")).map
      (·.status) = some .safe := by decide +kernel
  refine ⟨c, resolved, zero, reads.resolvedSettings ▸ shown, fun faithful => ?_⟩
  obtain ⟨risk, status⟩ := faithful.status reads (by decide +kernel) (.inr (.inl ⟨rfl, zero⟩))
  exact status ((status_hsts given).mpr (by decide))

end IdpMvp
