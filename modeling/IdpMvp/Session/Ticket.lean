import IdpMvp.Key.Bootstrap
import IdpMvp.Service.DirectLogin
import IdpMvp.Token.Revocation

/-!
# The tickets of the portal

The MFA ticket of the portal and the CSRF tokens of both servers are MACs under one key. What they authenticate is told
apart by its first characters, and the text of a ticket by its colons, so whoever presents a ticket that is accepted has
one that was signed for just this tenant, user and expiry, however its number is spelled.
-/

namespace IdpMvp

/-! ## What is authenticated under the key -/

/-- `consent_csrf_token`. -/
def Deploy.consentCsrfToken (D : Deploy) (authSessionId : String) : String :=
  hexEncode (D.hmacSha256 D.csrfSecret ("consent-csrf:" ++ authSessionId))

/-- `admin_csrf_token` of `web`. -/
def Deploy.adminCsrfToken (D : Deploy) (csrfId : String) : String :=
  hexEncode (D.hmacSha256 D.csrfSecret ("admin-csrf:" ++ csrfId))

/-- `console_csrf_token` of `web`. -/
def Deploy.consoleCsrfToken (D : Deploy) (ssoSessionId : String) : String :=
  hexEncode (D.hmacSha256 D.csrfSecret ("console-csrf:" ++ ssoSessionId))

/-- `portal_csrf_token` of `web`. -/
def Deploy.portalCsrfToken (D : Deploy) (csrfId : String) : String :=
  hexEncode (D.hmacSha256 D.csrfSecret ("portal-csrf:" ++ csrfId))

/-- A MAC that one of the servers computes. -/
inductive MacQuery where
  | ticket (tenant user : Uuid) (exp : Int)
  | loginCsrf (authSessionId : String)
  | consentCsrf (authSessionId : String)
  | adminCsrf (csrfId : String)
  | consoleCsrf (ssoSessionId : String)
  | portalCsrf (csrfId : String)

/-- What is authenticated. -/
def MacQuery.message (D : Deploy) : MacQuery → String
  | .ticket tenant user exp => ticketMessage (D.uuidToString tenant) (D.uuidToString user) exp
  | .loginCsrf authSessionId => "csrf:" ++ authSessionId
  | .consentCsrf authSessionId => "consent-csrf:" ++ authSessionId
  | .adminCsrf csrfId => "admin-csrf:" ++ csrfId
  | .consoleCsrf ssoSessionId => "console-csrf:" ++ ssoSessionId
  | .portalCsrf csrfId => "portal-csrf:" ++ csrfId

/-- What is handed out. -/
def MacQuery.answer (D : Deploy) : MacQuery → String
  | .ticket tenant user exp => signTicket D tenant user exp
  | .loginCsrf authSessionId => D.loginCsrfToken authSessionId
  | .consentCsrf authSessionId => D.consentCsrfToken authSessionId
  | .adminCsrf csrfId => D.adminCsrfToken csrfId
  | .consoleCsrf ssoSessionId => D.consoleCsrfToken ssoSessionId
  | .portalCsrf csrfId => D.portalCsrfToken csrfId

/-- What stands before the MAC. -/
def MacQuery.lead (D : Deploy) : MacQuery → String
  | .ticket tenant user exp => D.uuidToString tenant ++ "." ++ D.uuidToString user ++ "." ++ toString exp ++ "."
  | _ => ""

/-- The servers share the key. -/
def Deploy.SharesSecret (D : Deploy) : Prop := D.ticketSecret = D.csrfSecret

def MacQuery.tag (D : Deploy) (q : MacQuery) : Bytes := D.hmacSha256 D.ticketSecret (q.message D)

/-- With the shared key all of them are tags of their messages. -/
lemma MacQuery.answer_eq {D : Deploy} (shares : D.SharesSecret) (q : MacQuery) :
    q.answer D = q.lead D ++ hexEncode (q.tag D) := by
  unfold tag
  rw [shares]
  cases q with
  | ticket tenant user exp => rw [answer, signTicket, shares]; rfl
  | _ => exact String.empty_append.symm

/-- The tag that a ticket carries. -/
def ticketTag (D : Deploy) (ticket : String) : Option Bytes :=
  match splitN 4 '.' ticket.toList with
  | [_, _, _, sig] => D.hexDecode (String.ofList sig)
  | _ => none

/-- An ideal MAC: the tag that somebody presents is one only of messages that it was computed on. -/
def IdealMac (D : Deploy) (log : List MacQuery) (ticket : String) : Prop :=
  ∀ tag message, ticketTag D ticket = some tag → D.hmacSha256 D.ticketSecret message = tag →
    ∃ q ∈ log, q.message D = message

/-- The text of a UUID has hexadecimal digits and hyphens. -/
structure UuidText (D : Deploy) : Prop extends UuidLaws D where
  chars : ∀ u, ∀ c ∈ (D.uuidToString u).toList, c = '-' ∨ c ∈ hexDigits

/-- A part of a ticket that is signed for an expiry, after the parts for a tenant and a user. -/
structure SignedFor (D : Deploy) (log : List MacQuery) (tenant user : Uuid) (exp : Int) (sig : List Char) : Prop where
  signed : .ticket tenant user exp ∈ log
  tag : D.hexDecode (String.ofList sig) = some ((MacQuery.ticket tenant user exp).tag D)

/-! ## Integers as text -/

/-- The integer that a text of `to_string` denotes. -/
def intValue : List Char → Int
  | '-' :: digits => -Nat.ofDigitChars 10 digits 0
  | digits => Nat.ofDigitChars 10 digits 0

lemma repr_digits (n : Nat) : ∀ c ∈ (Nat.repr n).toList, c.isDigit = true := by
  rw [Nat.toList_repr]
  exact fun c mem => Nat.isDigit_of_mem_toDigits (by decide) (by decide) mem

lemma repr_ne_nil (n : Nat) : (Nat.repr n).toList ≠ [] := by
  rw [Nat.toList_repr]
  exact Nat.toDigits_ne_nil

lemma repr_value (n : Nat) : Nat.ofDigitChars 10 (Nat.repr n).toList 0 = n := by
  rw [Nat.toList_repr]
  exact Nat.ofDigitChars_ten_toDigits

/-- An integer is digits, after a sign if it is negative. -/
lemma int_text (v : Int) :
    (∃ n : Nat, v = n ∧ (toString v).toList = (Nat.repr n).toList) ∨
      ∃ n : Nat, v = -n ∧ (toString v).toList = '-' :: (Nat.repr n).toList := by
  cases v with
  | ofNat n => exact .inl ⟨n, rfl, rfl⟩
  | negSucc n =>
    refine .inr ⟨n + 1, rfl, ?_⟩
    have text : toString (Int.negSucc n) = "-" ++ Nat.repr (n + 1) := rfl
    rw [text, String.toList_append]
    rfl

/-- Digits are no sign. -/
lemma digits_cases {cs : List Char} (digits : ∀ c ∈ cs, c.isDigit = true) :
    (∀ ds, cs ≠ '-' :: ds) ∧ ∀ ds, cs ≠ '+' :: ds := by
  refine ⟨?_, ?_⟩
  · rintro ds rfl
    exact absurd (digits '-' List.mem_cons_self) (by decide)
  · rintro ds rfl
    exact absurd (digits '+' List.mem_cons_self) (by decide)

lemma intValue_text (v : Int) : intValue (toString v).toList = v := by
  rcases int_text v with ⟨n, rfl, text⟩ | ⟨n, rfl, text⟩
  · rw [text]
    have value := repr_value n
    unfold intValue
    split
    · rename_i signed
      exact absurd signed ((digits_cases (repr_digits n)).1 _)
    · rw [value]
  · rw [text, intValue, repr_value]

lemma int_chars (v : Int) : ∀ c ∈ (toString v).toList, c = '-' ∨ c.isDigit = true := by
  intro c mem
  rcases int_text v with ⟨n, -, text⟩ | ⟨n, -, text⟩
  · rw [text] at mem
    exact .inr (repr_digits n c mem)
  · rw [text] at mem
    rcases List.mem_cons.mp mem with rfl | mem
    · exact .inl rfl
    · exact .inr (repr_digits n c mem)

lemma parseDigits_digits {cs : List Char} (digits : ∀ c ∈ cs, c.isDigit = true) :
    parseDigits cs = some (Nat.ofDigitChars 10 cs 0) := by
  have step : ∀ (cs : List Char) (n : Nat), (∀ c ∈ cs, c.isDigit = true) →
      cs.foldl (fun n c => n.bind fun n =>
        if c.isDigit then some (10 * n + (c.toNat - '0'.toNat)) else none) (some n) =
          some (Nat.ofDigitChars 10 cs n) := by
    intro cs
    induction cs with
    | nil => exact fun n _ => rfl
    | cons c cs ih =>
      intro n digits
      rw [List.foldl_cons, Option.bind_some, if_pos (digits c List.mem_cons_self), Nat.ofDigitChars_cons]
      exact ih _ fun c mem => digits c (List.mem_cons_of_mem _ mem)
  cases cs with
  | nil => rfl
  | cons c cs => exact step (c :: cs) 0 digits

/-- What is read from digits behind a minus sign or without one. -/
lemma parseI64_negative {ds : List Char} (digits : ∀ c ∈ ds, c.isDigit = true) (some_digit : ds ≠ [])
    (least : -9223372036854775808 ≤ -(Nat.ofDigitChars 10 ds 0 : Int)) :
    parseI64 ('-' :: ds) = some (-(Nat.ofDigitChars 10 ds 0 : Int)) := by
  have given : ds.isEmpty = false := by simpa using some_digit
  simp only [parseI64, given, parseDigits_digits digits, Option.bind_some, Bool.false_eq_true, if_false, if_true]
  rw [if_pos ⟨least, by omega⟩]

lemma parseI64_unsigned {ds : List Char} (digits : ∀ c ∈ ds, c.isDigit = true) (some_digit : ds ≠ [])
    (most : (Nat.ofDigitChars 10 ds 0 : Int) ≤ 9223372036854775807) :
    parseI64 ds = some (Nat.ofDigitChars 10 ds 0 : Int) := by
  have given : ds.isEmpty = false := by simpa using some_digit
  obtain ⟨minus, plus⟩ := digits_cases digits
  rw [parseI64]
  · simp only [given, parseDigits_digits digits, Option.bind_some, Bool.false_eq_true, if_false]
    rw [if_pos ⟨by omega, most⟩]
  · exact minus
  · exact plus

/-- An integer of 64 bits is read back from its text. -/
lemma parseI64_text {v : Int} (least : -9223372036854775808 ≤ v) (most : v ≤ 9223372036854775807) :
    parseI64 (toString v).toList = some v := by
  rcases int_text v with ⟨n, rfl, text⟩ | ⟨n, rfl, text⟩
  · rw [text, parseI64_unsigned (repr_digits n) (repr_ne_nil n) (by rw [repr_value]; exact most), repr_value]
  · rw [text, parseI64_negative (repr_digits n) (repr_ne_nil n) (by rw [repr_value]; exact least), repr_value]

/-! ## The messages -/

section
variable {D : Deploy} {log : List MacQuery} {tenant user : Uuid} {ticket : String} {nowTs : Int}

lemma UuidText.free (text : UuidText D) (u : Uuid) {c : Char} (other : c ≠ '-' ∧ c ∉ hexDigits) :
    c ∉ (D.uuidToString u).toList := by
  intro mem
  rcases text.chars u c mem with rfl | digit
  · exact other.1 rfl
  · exact other.2 digit

lemma int_free (v : Int) {c : Char} (other : c ≠ '-' ∧ c.isDigit = false) : c ∉ (toString v).toList := by
  intro mem
  rcases int_chars v c mem with rfl | digit
  · exact other.1 rfl
  · rw [other.2] at digit
    cases digit

/-- Two texts that a separator ends first are the same, and so is what follows. -/
lemma split_inj {sep : Char} {a b x y : List Char} (free : sep ∉ a) (free' : sep ∉ b)
    (same : a ++ sep :: x = b ++ sep :: y) : a = b ∧ x = y := by
  have parts : splitN 2 sep (a ++ sep :: x) = [a, x] := splitN_append free 0
  rw [same, splitN_append free' 0] at parts
  obtain ⟨head, rest⟩ := List.cons_eq_cons.mp parts
  exact ⟨head.symm, (List.cons_eq_cons.mp rest).1.symm⟩

lemma ticketMessage_toList (tenant user : String) (exp : Int) :
    (ticketMessage tenant user exp).toList =
      "portal-mfa:".toList ++ (tenant.toList ++ ':' :: (user.toList ++ ':' :: (toString exp).toList)) := by
  simp [ticketMessage]

/-- What is authenticated tells the tenant, the user and the expiry, where two of the three names are those of UUIDs. -/
lemma ticketMessage_inj {t t' u u' : String} {exp exp' : Int} (free : ':' ∉ t.toList) (free' : ':' ∉ t'.toList)
    (plain : ':' ∉ u'.toList) (same : ticketMessage t u exp = ticketMessage t' u' exp') :
    t = t' ∧ u = u' ∧ exp = exp' := by
  have same := congrArg String.toList same
  rw [ticketMessage_toList, ticketMessage_toList] at same
  obtain ⟨tenant, rest⟩ := split_inj free free' (List.append_cancel_left same)
  have digits : ∀ exp : Int, (toString exp).toList.count ':' = 0 :=
    fun exp => List.count_eq_zero.mpr (int_free exp (by decide))
  have colons := congrArg (List.count ':') rest
  rw [List.count_append, List.count_append, List.count_cons_self, List.count_cons_self, digits, digits,
    List.count_eq_zero.mpr plain] at colons
  have plain' : ':' ∉ u.toList := List.count_eq_zero.mp (by omega)
  obtain ⟨user, exps⟩ := split_inj plain' plain rest
  refine ⟨String.toList_injective tenant, String.toList_injective user, ?_⟩
  rw [← intValue_text exp, exps, intValue_text]

/-- No CSRF token authenticates what a ticket does. -/
lemma MacQuery.message_ticket {q : MacQuery} {t u : String} {exp : Int} (same : q.message D = ticketMessage t u exp) :
    ∃ tenant user exp', q = .ticket tenant user exp' := by
  have lead := congrArg (fun m => m.toList.take 8) same
  cases q with
  | ticket tenant user exp' => exact ⟨tenant, user, exp', rfl⟩
  | _ => simp [message, ticketMessage] at lead

/-! ## Tickets -/

/-- What `verify_ticket` accepts: the parts, and the tag of its own message. -/
lemma verifyTicket_some : verifyTicket D tenant ticket nowTs = some user ↔
    ∃ userStr exp expStr sig,
      splitN 4 '.' ticket.toList = [(D.uuidToString tenant).toList, userStr, expStr, sig] ∧
      parseI64 expStr = some exp ∧ nowTs ≤ exp ∧
      D.hexDecode (String.ofList sig) =
        some (D.hmacSha256 D.ticketSecret (ticketMessage (D.uuidToString tenant) (String.ofList userStr) exp)) ∧
      D.parseUuid (String.ofList userStr) = some user := by
  unfold verifyTicket
  constructor
  · intro accepted
    split at accepted
    · rename_i tenantStr userStr expStr sig parts
      dsimp only at accepted
      split_ifs at accepted with other
      have own : String.ofList tenantStr = D.uuidToString tenant := not_not.mp other
      obtain ⟨exp, read, accepted⟩ := Option.bind_eq_some_iff.mp accepted
      split_ifs at accepted with expired
      obtain ⟨tag, decoded, accepted⟩ := Option.bind_eq_some_iff.mp accepted
      split_ifs at accepted with verified
      refine ⟨userStr, exp, expStr, sig, ?_, read, Int.not_lt.mp expired, ?_, accepted⟩
      · rw [parts, ← own, String.toList_ofList]
      · rw [decoded, ← verified, own]
    · cases accepted
  · rintro ⟨userStr, exp, expStr, sig, parts, read, valid, decoded, named⟩
    rw [parts]
    simp [read, decoded, named, valid]

/-- A ticket is accepted for a user exactly if its parts are the tenant, the user, an expiry that has not passed and
the tag of what was signed for these three. -/
lemma verifyTicket_iff (text : UuidText D) (ideal : IdealMac D log ticket) :
    verifyTicket D tenant ticket nowTs = some user ↔
      ∃ exp expStr sig,
        splitN 4 '.' ticket.toList =
          [(D.uuidToString tenant).toList, (D.uuidToString user).toList, expStr, sig] ∧
        parseI64 expStr = some exp ∧ nowTs ≤ exp ∧ SignedFor D log tenant user exp sig := by
  rw [verifyTicket_some]
  constructor
  · rintro ⟨userStr, exp, expStr, sig, parts, read, valid, decoded, named⟩
    have carried : ticketTag D ticket = some
        (D.hmacSha256 D.ticketSecret (ticketMessage (D.uuidToString tenant) (String.ofList userStr) exp)) := by
      rw [ticketTag, parts]
      exact decoded
    obtain ⟨q, mem, message⟩ := ideal _ _ carried rfl
    obtain ⟨tenant', user', exp', rfl⟩ := MacQuery.message_ticket message
    have colon : (':' : Char) ≠ '-' ∧ ':' ∉ hexDigits := by decide
    obtain ⟨sameTenant, sameUser, rfl⟩ :=
      ticketMessage_inj (text.free tenant colon) (text.free tenant' colon) (text.free user' colon) message.symm
    obtain rfl := text.injective sameTenant
    rw [sameUser, text.parse] at named
    obtain rfl := Option.some.inj named
    refine ⟨exp, expStr, sig, ?_, read, valid, mem, ?_⟩
    · rw [parts, ← sameUser, String.toList_ofList]
    · rw [decoded, sameUser]
      rfl
  · rintro ⟨exp, expStr, sig, parts, read, valid, signed, tag⟩
    refine ⟨_, exp, expStr, sig, parts, read, valid, ?_, ?_⟩
    · rw [String.ofList_toList]
      exact tag
    · rw [String.ofList_toList, text.parse]

/-- A signed ticket has four parts. -/
lemma signTicket_parts (text : UuidText D) (tenant user : Uuid) (exp : Int) :
    splitN 4 '.' (signTicket D tenant user exp).toList =
      [(D.uuidToString tenant).toList, (D.uuidToString user).toList, (toString exp).toList,
        (hexEncode ((MacQuery.ticket tenant user exp).tag D)).toList] := by
  have dot : ('.' : Char) ≠ '-' ∧ '.' ∉ hexDigits := by decide
  have parts : (signTicket D tenant user exp).toList =
      (D.uuidToString tenant).toList ++ '.' :: ((D.uuidToString user).toList ++ '.' :: ((toString exp).toList ++ '.' ::
        (hexEncode ((MacQuery.ticket tenant user exp).tag D)).toList)) := by
    simp [signTicket, MacQuery.tag, MacQuery.message]
  rw [parts, splitN_append (text.free tenant dot), splitN_append (text.free user dot),
    splitN_append (int_free exp (by decide))]
  rfl

/-- A ticket is accepted until it expires. -/
lemma verifyTicket_signTicket (text : UuidText D) (hex : ∀ bytes, D.hexDecode (hexEncode bytes) = some bytes)
    {exp : Int} (least : -9223372036854775808 ≤ exp) (most : exp ≤ 9223372036854775807) (valid : nowTs ≤ exp) :
    verifyTicket D tenant (signTicket D tenant user exp) nowTs = some user := by
  rw [verifyTicket_some]
  refine ⟨_, exp, _, _, signTicket_parts text tenant user exp, parseI64_text least most, valid, ?_, ?_⟩
  · rw [String.ofList_toList, String.ofList_toList, hex]
    rfl
  · rw [String.ofList_toList, text.parse]

/-- Under an ideal MAC the tickets that are accepted are those that were signed, whatever else is authenticated under
the same key for whoever asks. -/
theorem portal_ticket_unforgeable (text : UuidText D) (shares : D.SharesSecret)
    (hex : ∀ bytes, D.hexDecode (hexEncode bytes) = some bytes) :
    (∀ q : MacQuery, ∃ lead, q.answer D = lead ++ hexEncode (D.hmacSha256 D.csrfSecret (q.message D))) ∧
    (∀ log tenant user ticket nowTs, IdealMac D log ticket →
      (verifyTicket D tenant ticket nowTs = some user ↔
        ∃ exp expStr sig,
          splitN 4 '.' ticket.toList =
            [(D.uuidToString tenant).toList, (D.uuidToString user).toList, expStr, sig] ∧
          parseI64 expStr = some exp ∧ nowTs ≤ exp ∧ SignedFor D log tenant user exp sig)) ∧
    ∀ tenant user exp nowTs, -9223372036854775808 ≤ exp → exp ≤ 9223372036854775807 → nowTs ≤ exp →
      verifyTicket D tenant (signTicket D tenant user exp) nowTs = some user := by
  refine ⟨fun q => ⟨q.lead D, ?_⟩, fun log tenant user ticket nowTs ideal => verifyTicket_iff text ideal, ?_⟩
  · rw [q.answer_eq shares, MacQuery.tag, shares]
  · intro tenant user exp nowTs least most valid
    exact verifyTicket_signTicket text hex least most valid

/-! ## One purpose for each token -/

/-- What stands before the first colon of a message. -/
def MacQuery.kind : MacQuery → List Char
  | .ticket _ _ _ => ['p', 'o', 'r', 't', 'a', 'l', '-', 'm', 'f', 'a']
  | .loginCsrf _ => ['c', 's', 'r', 'f']
  | .consentCsrf _ => ['c', 'o', 'n', 's', 'e', 'n', 't', '-', 'c', 's', 'r', 'f']
  | .adminCsrf _ => ['a', 'd', 'm', 'i', 'n', '-', 'c', 's', 'r', 'f']
  | .consoleCsrf _ => ['c', 'o', 'n', 's', 'o', 'l', 'e', '-', 'c', 's', 'r', 'f']
  | .portalCsrf _ => ['p', 'o', 'r', 't', 'a', 'l', '-', 'c', 's', 'r', 'f']

/-- What stands after it. -/
def MacQuery.subject (D : Deploy) : MacQuery → String
  | .ticket tenant user exp => D.uuidToString tenant ++ ":" ++ D.uuidToString user ++ ":" ++ toString exp
  | .loginCsrf id | .consentCsrf id | .adminCsrf id | .consoleCsrf id | .portalCsrf id => id

lemma MacQuery.message_toList (q : MacQuery) :
    (q.message D).toList = q.kind ++ ':' :: (q.subject D).toList := by
  cases q <;> simp [message, ticketMessage, kind, subject]

/-- A message tells what it is for. -/
lemma MacQuery.message_inj (text : UuidText D) {q q' : MacQuery} (same : q.message D = q'.message D) :
    q = q' := by
  have free : ∀ q : MacQuery, ':' ∉ q.kind := by
    intro q
    cases q <;> simp [kind]
  have chars := congrArg String.toList same
  rw [message_toList, message_toList] at chars
  obtain ⟨kinds, subjects⟩ := split_inj (free q) (free q') chars
  have subjects := String.toList_injective subjects
  cases q with
  | ticket tenant user exp =>
    obtain ⟨tenant', user', exp', rfl⟩ := MacQuery.message_ticket same.symm
    have colon : (':' : Char) ≠ '-' ∧ ':' ∉ hexDigits := by decide
    obtain ⟨sameTenant, sameUser, rfl⟩ :=
      ticketMessage_inj (text.free tenant colon) (text.free tenant' colon) (text.free user' colon) same
    rw [text.injective sameTenant, text.injective sameUser]
  | _ id =>
    cases q' with
    | ticket tenant user exp =>
      obtain ⟨_, _, _, eq⟩ := MacQuery.message_ticket same
      cases eq
    | _ id' =>
      simp only [subject] at subjects
      subst subjects
      first
        | rfl
        | simp [kind] at kinds

lemma hexEncode_digits (bytes : Bytes) : ∀ c ∈ (hexEncode bytes).toList, c ∈ hexDigits := by
  have digit : ∀ n, hexChar n ∈ hexDigits := by
    intro n
    have all : ∀ i < 16, hexDigits.getD i '0' ∈ hexDigits := by decide
    exact all _ (Nat.mod_lt _ (by decide))
  intro c mem
  rw [hexEncode, String.toList_ofList] at mem
  obtain ⟨b, -, mem⟩ := List.mem_flatMap.mp mem
  simp only [List.mem_cons, List.not_mem_nil, or_false] at mem
  obtain rfl | rfl := mem <;> exact digit _

/-- A ticket has a dot, a CSRF token has none. -/
lemma MacQuery.dot_mem (shares : D.SharesSecret) (q : MacQuery) :
    '.' ∈ (q.answer D).toList ↔ ∃ tenant user exp, q = .ticket tenant user exp := by
  have plain : ∀ bytes, '.' ∉ (hexEncode bytes).toList :=
    fun bytes mem => absurd (hexEncode_digits bytes _ mem) (by decide)
  rw [answer_eq shares]
  cases q with
  | ticket tenant user exp => exact iff_of_true (by simp [lead]) ⟨tenant, user, exp, rfl⟩
  | _ => exact iff_of_false (by simpa [lead] using plain _) (by rintro ⟨_, _, _, ⟨⟩⟩)

/-- Under the shared key no token is handed out for two purposes: if the MAC does not collide on the two
messages, two equal tokens are of one kind, and of one session, or of one tenant, user and expiry. -/
theorem token_of_one_purpose (text : UuidText D) (shares : D.SharesSecret)
    (hex : ∀ bytes, D.hexDecode (hexEncode bytes) = some bytes) {q q' : MacQuery}
    (apart : q.tag D = q'.tag D → q.message D = q'.message D) (same : q.answer D = q'.answer D) : q = q' := by
  have ticket : ∀ {tenant user exp tenant' user' exp'}, q = .ticket tenant user exp →
      q' = .ticket tenant' user' exp' → q = q' := by
    rintro tenant user exp tenant' user' exp' rfl rfl
    have parts := signTicket_parts text tenant user exp
    rw [show signTicket D tenant user exp = signTicket D tenant' user' exp' from same,
      signTicket_parts text] at parts
    simp only [List.cons.injEq, String.toList_inj] at parts
    obtain ⟨tenants, users, exps, -⟩ := parts
    rw [text.injective tenants, text.injective users, ← intValue_text exp, ← exps, intValue_text]
  by_cases dot : '.' ∈ (q.answer D).toList
  · obtain ⟨tenant, user, exp, eq⟩ := (q.dot_mem shares).mp dot
    obtain ⟨tenant', user', exp', eq'⟩ := (q'.dot_mem shares).mp (same ▸ dot)
    exact ticket eq eq'
  · -- Neither is a ticket, so both are hexadecimal digits of their tags.
    have bare : ∀ q : MacQuery, '.' ∉ (q.answer D).toList → q.answer D = hexEncode (q.tag D) := by
      intro q plain
      cases q with
      | ticket tenant user exp => exact absurd ((MacQuery.dot_mem shares _).mpr ⟨_, _, _, rfl⟩) plain
      | _ => exact (MacQuery.answer_eq shares _).trans String.empty_append
    have tags : hexEncode (q.tag D) = hexEncode (q'.tag D) := by
      rw [← bare q dot, same, bare q' (same ▸ dot)]
    have decoded := congrArg D.hexDecode tags
    rw [hex, hex] at decoded
    exact MacQuery.message_inj text (apart (Option.some.inj decoded))

end

namespace Sample

/-- `hex::decode`, of lowercase digits. -/
def decodeHexChars : List Char → Option Bytes
  | [] => some []
  | [_] => none
  | a :: b :: cs =>
    if a ∈ hexDigits ∧ b ∈ hexDigits then
      (decodeHexChars cs).map fun bytes => UInt8.ofNat (16 * hexDigits.idxOf a + hexDigits.idxOf b) :: bytes
    else none

/-- A deployment whose MAC of a message is the message. -/
def ticketDeploy : Deploy :=
  { deploy with
    hexDecode := fun text => decodeHexChars text.toList
    hmacSha256 := fun _ message => asBytes message }

lemma decodeHexChars_byte (b : UInt8) (cs : List Char) :
    decodeHexChars (hexChar (b.toNat / 16) :: hexChar b.toNat :: cs) = (decodeHexChars cs).map (b :: ·) := by
  have byte : ∀ n < 256, hexChar (n / 16) ∈ hexDigits ∧ hexChar n ∈ hexDigits ∧
      16 * hexDigits.idxOf (hexChar (n / 16)) + hexDigits.idxOf (hexChar n) = n := by
    decide +kernel
  obtain ⟨high, low, value⟩ := byte b.toNat b.toNat_lt
  rw [decodeHexChars, if_pos ⟨high, low⟩, value, UInt8.ofNat_toNat]

lemma ticketDeploy_hex (bytes : Bytes) : ticketDeploy.hexDecode (hexEncode bytes) = some bytes := by
  have decoded : decodeHexChars (hexEncode bytes).toList = some bytes := by
    rw [hexEncode, String.toList_ofList]
    induction bytes with
    | nil => rfl
    | cons b bytes ih =>
      rw [List.flatMap_cons, List.cons_append, List.cons_append, List.nil_append, decodeHexChars_byte, ih]
      rfl
  exact decoded

lemma hexDigitsOf_mem {k n : Nat} {c : Char} (mem : c ∈ hexDigitsOf k n) : c ∈ hexDigits := by
  induction k generalizing n with
  | zero => cases mem
  | succ k ih =>
    rw [hexDigitsOf, List.mem_append, List.mem_singleton] at mem
    obtain mem | rfl := mem
    · exact ih mem
    · have all : ∀ i < 16, hexDigits.getD i '0' ∈ hexDigits := by decide
      exact all _ (Nat.mod_lt _ (by decide))

lemma uuidToString_chars (u : Uuid) {c : Char} (mem : c ∈ (uuidToString u).toList) : c = '-' ∨ c ∈ hexDigits := by
  by_cases hyphen : c = '-'
  · exact .inl hyphen
  · have digit : c ∈ (uuidToString u).toList.filter (· ≠ '-') :=
      List.mem_filter.mpr ⟨mem, decide_eq_true hyphen⟩
    rw [uuidToString_digits] at digit
    exact .inr (hexDigitsOf_mem digit)

lemma ticketDeploy_text : UuidText ticketDeploy where
  parse u := by simp only [ticketDeploy, deploy, parseUuid_uuidToString]
  length := uuidToString_length
  chars u _ := uuidToString_chars u

/-- A ticket of Alice, after a CSRF token for an identifier that looks like it. -/
def ticketLog : List MacQuery := [.loginCsrf "portal-mfa:", .ticket tenantA aliceId 1700000300]

def aliceTicket : String := signTicket ticketDeploy tenantA aliceId 1700000300

lemma aliceTicket_ideal : IdealMac ticketDeploy ticketLog aliceTicket := by
  intro tag message carried same
  have parts := signTicket_parts ticketDeploy_text tenantA aliceId 1700000300
  rw [ticketTag, aliceTicket, parts] at carried
  dsimp only at carried
  rw [String.ofList_toList, ticketDeploy_hex] at carried
  obtain rfl := Option.some.inj carried
  have bytes : asBytes message = asBytes ((MacQuery.ticket tenantA aliceId 1700000300).message ticketDeploy) := same
  have text := fromUtf8_asBytes message
  rw [bytes, fromUtf8_asBytes] at text
  exact ⟨_, List.mem_cons_of_mem _ List.mem_cons_self, Option.some.inj text⟩

theorem aliceTicket_accepted :
    verifyTicket ticketDeploy tenantA aliceTicket 1700000000 = some aliceId ∧
    ∀ user, verifyTicket ticketDeploy tenantA aliceTicket 1700000000 = some user →
      ∃ exp expStr sig, parseI64 expStr = some exp ∧ 1700000000 ≤ exp ∧
        SignedFor ticketDeploy ticketLog tenantA user exp sig := by
  obtain ⟨-, iff, signed⟩ := portal_ticket_unforgeable ticketDeploy_text rfl ticketDeploy_hex
  refine ⟨signed tenantA aliceId 1700000300 1700000000 (by decide) (by decide) (by decide), fun user accepted => ?_⟩
  obtain ⟨exp, expStr, sig, -, read, valid, signed⟩ :=
    (iff ticketLog tenantA user aliceTicket 1700000000 aliceTicket_ideal).mp accepted
  exact ⟨exp, expStr, sig, read, valid, signed⟩

/-- The CSRF token of a login is not that of the consent on the same session. -/
theorem token_of_one_purpose_sample :
    ticketDeploy.loginCsrfToken "s1" ≠ ticketDeploy.consentCsrfToken "s1" := by
  intro same
  have one : MacQuery.loginCsrf "s1" = .consentCsrf "s1" := by
    refine token_of_one_purpose ticketDeploy_text rfl ticketDeploy_hex (fun tags => ?_) same
    have bytes : asBytes _ = asBytes _ := tags
    have texts := congrArg fromUtf8 bytes
    rw [fromUtf8_asBytes, fromUtf8_asBytes] at texts
    exact Option.some.inj texts
  cases one

end Sample

end IdpMvp
