import IdpMvp.Session.Flows

/-!
# The `prompt` parameter

What a request asks for with `prompt` is known to `authorize` only; the auth session does not keep it.
Over whole flows: when `login` and `consent` are honoured for every code of the request.
-/

namespace IdpMvp

open Program

variable {D : Deploy} {s : Store}

/-- The values of the `prompt` parameter, separated by spaces. -/
def AuthorizeRequest.prompts (req : AuthorizeRequest) : List String :=
  ((req.prompt.getD "").toList.splitOn ' ').map String.ofList

/-- The call is on the auth session: by the cookie, by the path or by the challenge. -/
def FlowCall.On (D : Deploy) (s : Store) (a : AuthSession) : FlowCall → Prop
  | login _ cmd _ => (nonEmpty cmd.authSessionId).map D.coll = some (D.coll a.id)
  | mfaVerify _ cmd _ => (nonEmpty cmd.authSessionId).map D.coll = some (D.coll a.id)
  | changePassword _ cmd _ => (nonEmpty cmd.authSessionId).map D.coll = some (D.coll a.id)
  | passkeyComplete _ challengeId _ _ => ∃ challenge,
    s.passkeyChallenges.find? (·.id = challengeId) = some challenge ∧
      challenge.authSessionId.map D.coll = some (D.coll a.id)
  | approve _ authSessionId => D.coll authSessionId = D.coll a.id
  | authorize _ _ | deny _ _ => False

/-- A login that is complete is on its auth session. -/
lemma FlowCall.Authenticates.on {c : FlowCall} {now : DateTime} {a : AuthSession} {user : User}
    (h : c.Authenticates D s now a user) : c.On D s a := by
  cases c with
  | login tenantId cmd ctx =>
    obtain ⟨sessionId, cookie, named⟩ := h.1.session
    simp [FlowCall.On, cookie, named]
  | mfaVerify tenantId cmd ctx =>
    obtain ⟨sessionId, cookie, named, -⟩ := h.session.named
    simp [FlowCall.On, cookie, named]
  | changePassword tenantId cmd ctx =>
    obtain ⟨sessionId, cookie, named, -⟩ := h.1.named
    simp [FlowCall.On, cookie, named]
  | passkeyComplete tenantId challengeId credentialValue ctx =>
    obtain ⟨challenge, stored, verified, -, named⟩ := h.assertion
    exact ⟨challenge, verified.1, named⟩
  | authorize | approve | deny => exact h.elim

/-- The auth sessions a call is on have one id. -/
lemma FlowCall.On.coll_eq {c : FlowCall} {a b : AuthSession} (ha : c.On D s a) (hb : c.On D s b) :
    D.coll a.id = D.coll b.id := by
  cases c with
  | login | mfaVerify | changePassword => exact Option.some.inj (ha.symm.trans hb)
  | passkeyComplete =>
    obtain ⟨challenge, row, ha⟩ := ha
    obtain ⟨challenge', row', hb⟩ := hb
    obtain rfl := Option.some.inj (row.symm.trans row')
    exact Option.some.inj (ha.symm.trans hb)
  | approve => exact ha.symm.trans hb
  | authorize | deny => exact ha.elim

/-! ## The request of an auth session -/

/-- The event has started an auth session with this id. -/
def StartsSession (D : Deploy) (e : Event FlowCall Input Store) (id : String) : Prop :=
  ∃ row, (e.post (FlowCall.run D)).authSessions = e.pre.authSessions ++ [row] ∧ D.coll row.id = D.coll id

/-- The last event that has started an auth session with this id. -/
def RequestOf (D : Deploy) (es : List (Event FlowCall Input Store)) (id : String)
    (e : Event FlowCall Input Store) : Prop :=
  ∃ before after, es = before ++ e :: after ∧ StartsSession D e id ∧
    ∀ e' ∈ after, ¬ StartsSession D e' id

lemma RequestOf.mem {es : List (Event FlowCall Input Store)} {id : String}
    {e : Event FlowCall Input Store} (h : RequestOf D es id e) : e ∈ es := by
  obtain ⟨before, after, rfl, -⟩ := h
  simp

/-- After one more event: it is the request itself, or has nothing to do with the id. -/
lemma RequestOf.snoc {es : List (Event FlowCall Input Store)} {id : String}
    {e last : Event FlowCall Input Store} (h : RequestOf D (es ++ [last]) id e) :
    (e = last ∧ StartsSession D last id) ∨ (RequestOf D es id e ∧ ¬ StartsSession D last id) := by
  obtain ⟨before, after, split, starts, later⟩ := h
  obtain ⟨-, rfl⟩ | ⟨rest, rfl, earlier⟩ := snoc_split split
  · exact .inl ⟨rfl, starts⟩
  · refine .inr ⟨⟨before, rest, earlier, starts, fun e' mem => ?_⟩, ?_⟩
    · exact later e' (List.mem_append_left _ mem)
    · exact later last (List.mem_append_right _ (List.mem_singleton_self _))

/-! ## Codes that honour the prompt -/

/-- A code that an event issues is as the request asks: with `consent` in the prompt it comes from an
approval on the auth session of the request, with `login` the authentication is not earlier than the
request. -/
structure PromptKept (D : Deploy) (before : List (Event FlowCall Input Store))
    (e : Event FlowCall Input Store) (c : AuthorizationCode) : Prop where
  atOnce : ∀ tenantId req, e.call = .authorize tenantId req → "consent" ∉ req.prompts ∧
    ("login" ∈ req.prompts → (e.ins 0).now ≤ c.authTime)
  later : ∀ a ∈ e.pre.authSessions, e.call.On D e.pre a → ∀ e₀ tenantId req,
    RequestOf D before a.id e₀ → e₀.call = .authorize tenantId req →
      ("consent" ∈ req.prompts → ∃ tenantId authSessionId, e.call = .approve tenantId authSessionId) ∧
      ("login" ∈ req.prompts → (e₀.ins 0).now ≤ c.authTime)

/-- The clock does not go back from one call to the next. -/
def ClockForward (es : List (Event FlowCall Input Store)) : Prop :=
  es.Pairwise fun e e' => (e.ins 0).now ≤ (e'.ins 0).now

/-- What the code does not look at does not matter here. A request that asks for `login` resumes no older
SSO session; one that asks for `consent` does so in exactly this word, or resumes no SSO session of a user
with a stored consent; and nobody with a stored consent completes a login on its auth session. -/
structure PromptHandled (D : Deploy) (before : List (Event FlowCall Input Store))
    (e : Event FlowCall Input Store) : Prop where
  login : ∀ tenantId req, e.call = .authorize tenantId req → "login" ∈ req.prompts →
    ∀ userId authTime, e.call.Resumes D e.pre userId authTime → (e.ins 0).now ≤ authTime
  consent : ∀ tenantId req, e.call = .authorize tenantId req → "consent" ∈ req.prompts →
    req.prompt = some "consent" ∨ ∀ userId authTime client, e.call.Resumes D e.pre userId authTime →
      req.client D e.pre tenantId = some client →
      ¬ ConsentCovers D e.pre tenantId userId client.clientId req.scopes
  unconsented : ∀ a user, OnSession D e.pre e.call.tenantId (e.ins 0).now a →
    e.call.Authenticates D e.pre (e.ins 0).now a user → ∀ e₀ tenantId req,
      RequestOf D before a.id e₀ → e₀.call = .authorize tenantId req → "consent" ∈ req.prompts →
      ¬ Consented D e.pre e.call.tenantId user.id a

/-- Every event is handled, after those before it. -/
def AllHandled (D : Deploy) (es : List (Event FlowCall Input Store)) : Prop :=
  ∀ before e after, es = before ++ e :: after → PromptHandled D before e

lemma AllHandled.nil : AllHandled D [] := fun before e after split => by simp at split

lemma AllHandled.snoc {es : List (Event FlowCall Input Store)} {last : Event FlowCall Input Store}
    (h : AllHandled D es) (handled : PromptHandled D es last) : AllHandled D (es ++ [last]) := by
  intro before e after split
  obtain ⟨rfl, rfl⟩ | ⟨rest, -, earlier⟩ := snoc_split split
  · exact handled
  · exact h before e rest earlier

lemma AllHandled.init {es : List (Event FlowCall Input Store)} {last : Event FlowCall Input Store}
    (h : AllHandled D (es ++ [last])) : AllHandled D es ∧ PromptHandled D es last := by
  refine ⟨fun before e after split => h before e (after ++ [last]) ?_, h es last [] rfl⟩
  rw [split, List.append_assoc, List.cons_append]

/-- The authentication on an auth session whose request asks for `login` is not earlier than the
request. -/
structure LoginsFresh (D : Deploy) (es : List (Event FlowCall Input Store)) (s : Store) : Prop where
  keys : s.SessionKeys D
  rows : ∀ b ∈ s.authSessions, ∀ authTime, b.authTime = some authTime → ∀ e tenantId req,
    RequestOf D es b.id e → e.call = .authorize tenantId req → "login" ∈ req.prompts →
    (e.ins 0).now ≤ authTime

section
variable {es : List (Event FlowCall Input Store)} {c : FlowCall} {ins : Nat → Input}

/-- The row of a new auth session has an id of its own. -/
lemma fresh_of_keys {s' : Store} {row b : AuthSession} (keys : s'.SessionKeys D)
    (sessions : s'.authSessions = s.authSessions ++ [row]) (mem : b ∈ s.authSessions) :
    D.coll b.id ≠ D.coll row.id := by
  rw [Store.SessionKeys, sessions, List.map_append, List.nodup_append] at keys
  exact keys.2.2 _ (List.mem_map_of_mem mem) _ (by simp)

lemma LoginsFresh.call (h : LoginsFresh D es s) (handled : PromptHandled D es ⟨c, ins, s⟩)
    (forward : ClockForward (es ++ [⟨c, ins, s⟩])) :
    LoginsFresh D (es ++ [⟨c, ins, s⟩]) (c.run D ins s) := by
  have keys := c.run_keys ins h.keys
  have earlier : ∀ e ∈ es, (e.ins 0).now ≤ (ins 0).now := fun e mem =>
    (List.pairwise_append.mp forward).2.2 e mem _ (List.mem_singleton_self _)
  refine ⟨keys, fun b mem authTime time e tenantId req request call asks => ?_⟩
  -- A row that was there, with the same id and time, is of an earlier request.
  have old : ∀ a ∈ s.authSessions, a.id = b.id → a.authTime = some authTime →
      (e.ins 0).now ≤ authTime := by
    intro a row id time
    obtain ⟨rfl, starts⟩ | ⟨request, -⟩ := request.snoc
    · obtain ⟨new, sessions, same⟩ := starts
      exact absurd (by rw [id, same]) (fresh_of_keys keys sessions row)
    · exact h.rows a row authTime time e tenantId req (id ▸ request) call asks
  cases c.run_step (D := D) ins s with
  | kept sessions codes => exact old b (sessions.subset mem) rfl time
  | @started req' f id startedAt authentication call' valid resumes sessions codes =>
    rw [sessions, List.mem_append, List.mem_singleton] at mem
    rcases mem with mem | rfl
    · exact old b mem rfl time
    · obtain ⟨x, eq, rfl⟩ := Option.map_eq_some_iff.mp time
      obtain ⟨rfl, -⟩ | ⟨-, other⟩ := request.snoc
      · exact handled.login tenantId req call asks x.1 x.2 (resumes x.1 x.2 eq)
      · exact absurd ⟨_, sessions, rfl⟩ other
  | issued call' valid resumes unforced consented sessions codes => exact old b (sessions ▸ mem) rfl time
  | @pending a who session pends sessions codes =>
    rw [sessions] at mem
    rcases mem_map_ite mem with mem | ⟨a', mem', same, rfl⟩
    · exact old b mem rfl time
    · exact old a' mem' rfl time
  | @authenticated a who session authenticates sessions codes =>
    have marked : b ∈ markAuthenticated D a.id who.id (ins 0).now s.authSessions →
        (e.ins 0).now ≤ authTime := by
      intro mem
      rcases mem_map_ite mem with mem | ⟨a', mem', same, rfl⟩
      · exact old b mem rfl time
      · obtain rfl := Option.some.inj time
        rcases List.mem_append.mp request.mem with mem | mem
        · exact earlier e mem
        · obtain rfl := List.mem_singleton.mp mem
          exact Int.le_refl _
    rcases sessions with sessions | sessions | sessions
    · exact old b (sessions ▸ mem) rfl time
    · exact marked (sessions ▸ mem)
    · rw [sessions] at mem
      exact marked (List.mem_filter.mp mem).1
  | approved call' session named who at' sessions codes => exact old b (sessions.subset mem) rfl time

lemma FlowRuns.loginsFresh (run : FlowRuns D es s) (forward : ClockForward es)
    (handled : AllHandled D es) : LoginsFresh D es s := by
  refine run.invariant (I := fun es s => ClockForward es → AllHandled D es → LoginsFresh D es s)
    ?_ ?_ ?_ forward handled
  · intro s empty _ _
    refine ⟨?_, ?_⟩
    · rw [Store.SessionKeys, empty]
      exact List.nodup_nil
    · rw [empty]
      rintro _ ⟨⟩
  · intro es s s' fresh lost forward handled
    refine ⟨lost.keys, fun b mem authTime time => ?_⟩
    obtain ⟨a, row, rfl | rfl⟩ := lost.rows b mem
    · exact (fresh forward handled).rows b row authTime time
    · exact (fresh forward handled).rows a row authTime time
  · intro es s c ins fresh _ forward handled
    obtain ⟨before, last⟩ := handled.init
    exact (fresh (List.pairwise_append.mp forward).1 before).call last forward

end

/-- In every run in which the clock goes forward and what `authorize` and the logins do not look at does
not matter, every code honours the prompt of its request. -/
theorem codes_honour_prompt {es before after : List (Event FlowCall Input Store)}
    {e : Event FlowCall Input Store} (run : FlowRuns D es s) (forward : ClockForward es)
    (handled : AllHandled D es) (split : es = before ++ e :: after) :
    ∀ c ∈ (e.post (FlowCall.run D)).codes, c ∉ e.pre.codes → PromptKept D before e c := by
  intro c mem new
  have this := handled before e after split
  have forward' := split ▸ forward
  have earlier : ∀ e₀ ∈ before, (e₀.ins 0).now ≤ (e.ins 0).now := fun e₀ mem =>
    (List.pairwise_append.mp forward').2.2 e₀ mem e List.mem_cons_self
  have fresh : LoginsFresh D before e.pre := by
    refine FlowRuns.loginsFresh (run.upTo split).1 (List.pairwise_append.mp forward').1 ?_
    intro b e' a eq
    refine handled b e' (a ++ e :: after) ?_
    rw [split, eq, List.append_assoc, List.cons_append]
  cases e.call.run_step (D := D) e.ins e.pre with
  | kept sessions codes | started _ _ _ _ codes | pending _ _ _ codes =>
    exact absurd (codes ▸ mem) new
  | @issued req f code issuedAt userId authTime call valid resumes unforced consented sessions codes =>
    rw [Event.post, codes, List.mem_append, List.mem_singleton] at mem
    obtain rfl := mem.resolve_left new
    refine ⟨fun tenantId req' call' => ?_, fun a row on => ?_⟩
    · obtain ⟨tenant, rfl⟩ := FlowCall.authorize.inj (call.symm.trans call')
      refine ⟨fun asks => ?_, fun asks => this.login tenantId req call' asks userId authTime resumes⟩
      rcases this.consent tenantId req call' asks with exact | unconsented
      · exact unforced exact
      · have scope : f.scope = req.scopes := by rw [valid.flow]; rfl
        rw [tenant] at consented valid
        exact unconsented userId authTime f.client resumes valid.registered.row (scope ▸ consented)
    · rw [call] at on
      exact on.elim
  | @authenticated a user session authenticates sessions codes =>
    rcases codes with same | ⟨consented, code, issuedAt, codes⟩
    · exact absurd (same ▸ mem) new
    · rw [Event.post, codes, List.mem_append, List.mem_singleton] at mem
      obtain rfl := mem.resolve_left new
      refine ⟨fun tenantId req call => ?_, fun b row on e₀ tenantId req request call => ?_⟩
      · rw [call] at authenticates
        exact authenticates.elim
      · obtain rfl := fresh.keys.eq row session.mem (on.coll_eq authenticates.on)
        refine ⟨fun asks => ?_, fun _ => earlier e₀ request.mem⟩
        exact absurd consented (this.unconsented b user session authenticates e₀ tenantId req request
          call asks)
  | @approved a authSessionId userId authTime issuedAt code call session named user time sessions codes =>
    rw [Event.post, codes, List.mem_append, List.mem_singleton] at mem
    obtain rfl := mem.resolve_left new
    refine ⟨fun tenantId req call' => ?_, fun b row on e₀ tenantId req request call' => ?_⟩
    · cases call.symm.trans call'
    · rw [call] at on
      obtain rfl := fresh.keys.eq row session.mem (on.symm.trans named.symm)
      exact ⟨fun _ => ⟨_, _, call⟩, fun asks =>
        fresh.rows b row authTime time e₀ tenantId req request call' asks⟩

namespace Sample

/-- Alice has consented to the client before. -/
def consentedStore : Store :=
  { flowStore with consents := [⟨aliceId, tenantA, "app", ["openid", "profile"]⟩] }

/-- A request that asks for something. -/
def promptRequest (prompt : String) : AuthorizeRequest := { authorizeRequest with prompt := some prompt }

def prompted (prompt : String) (s : Store) : Event FlowCall Input Store :=
  eventOf (.authorize tenantA (promptRequest prompt)) 7 s

/-- Alice logs in for it. -/
def promptLogin (prompt : String) (s : Store) : Event FlowCall Input Store :=
  eventOf (loginOn "alice" "ChangeMe!123") 5 ((prompted prompt s).post (FlowCall.run loginDeploy))

lemma promptLogin_run (prompt : String) {s : Store} (empty : s.authSessions = []) :
    FlowRuns loginDeploy [prompted prompt s, promptLogin prompt s]
      ((promptLogin prompt s).post (FlowCall.run loginDeploy)) := by
  have start : FlowRuns loginDeploy [] s := .start empty
  exact (start.call (prompted prompt s).call (prompted prompt s).ins trivial).call
    (promptLogin prompt s).call (promptLogin prompt s).ins trivial

end Sample

open Sample in
/-- The request of her login. -/
lemma promptLogin_request {prompt : String} {s : Store} {a : AuthSession}
    (started : (promptLogin prompt s).pre.authSessions = s.authSessions ++ [a]) :
    RequestOf loginDeploy [prompted prompt s] a.id (prompted prompt s) :=
  ⟨[], [], rfl, ⟨a, started, rfl⟩, fun _ mem => absurd mem List.not_mem_nil⟩

open Sample in
lemma promptLogin_on {prompt : String} {s t : Store} {a : AuthSession} (id : a.id = sessionId 7) :
    (promptLogin prompt s).call.On loginDeploy t a := by
  change (nonEmpty (some (sessionId 7))).map loginDeploy.coll = some (loginDeploy.coll a.id)
  rw [id, nonEmpty, if_neg (by decide)]
  rfl

open Sample in
lemma promptLogin_forward (prompt : String) (s : Store) :
    ClockForward [prompted prompt s, promptLogin prompt s] := by
  simp [ClockForward, prompted, promptLogin, eventOf, input]

set_option maxRecDepth 8000 in
open Sample in
/-- With `prompt=consent`, Alice's login gives the code for her earlier consent. -/
theorem prompt_consent_forgotten :
    ¬ ∀ es s, FlowRuns loginDeploy es s → ClockForward es → ∀ before e after, es = before ++ e :: after →
      ∀ c ∈ (e.post (FlowCall.run loginDeploy)).codes, c ∉ e.pre.codes →
        PromptKept loginDeploy before e c := by
  intro claim
  have code : ∃ c ∈ ((promptLogin "consent" consentedStore).post (FlowCall.run loginDeploy)).codes,
      c ∉ (promptLogin "consent" consentedStore).pre.codes := by decide +kernel
  have started : (promptLogin "consent" consentedStore).pre.authSessions =
      consentedStore.authSessions ++ [authSession] := by decide +kernel
  obtain ⟨c, mem, new⟩ := code
  have kept := claim _ _ (promptLogin_run "consent" (s := consentedStore) rfl)
    (promptLogin_forward "consent" consentedStore) [prompted "consent" consentedStore]
    (promptLogin "consent" consentedStore) [] rfl c mem new
  have row : authSession ∈ (promptLogin "consent" consentedStore).pre.authSessions := by
    rw [started]
    exact List.mem_append_right _ (List.mem_singleton_self _)
  obtain ⟨tenantId, authSessionId, approval⟩ :=
    (kept.later authSession row (promptLogin_on rfl) _ _ _ (promptLogin_request started) rfl).1
      (by decide +kernel)
  cases approval

open Sample in
lemma promptLogin_handled (s : Store) : AllHandled loginDeploy
    [prompted "login" s, promptLogin "login" s, approval (promptLogin "login" s)] := by
  have first : PromptHandled loginDeploy [] (prompted "login" s) := by
    refine ⟨?_, ?_, fun _ _ _ authenticates => authenticates.elim⟩
    · rintro _ _ ⟨⟩ - userId authTime resumes
      exact absurd rfl resumes.1
    · rintro _ _ ⟨⟩ asks
      exact absurd asks (by decide)
  have second : PromptHandled loginDeploy [prompted "login" s] (promptLogin "login" s) := by
    refine ⟨fun _ _ call => (by cases call), fun _ _ call => (by cases call),
      fun a user _ _ e₀ tenantId req request call asks => ?_⟩
    obtain rfl := List.mem_singleton.mp request.mem
    obtain ⟨-, rfl⟩ := FlowCall.authorize.inj call
    exact absurd asks (by decide)
  have third : PromptHandled loginDeploy [prompted "login" s, promptLogin "login" s]
      (approval (promptLogin "login" s)) :=
    ⟨fun _ _ call => (by cases call), fun _ _ call => (by cases call),
      fun _ _ _ authenticates => authenticates.elim⟩
  exact ((AllHandled.nil.snoc first).snoc second).snoc third

set_option maxRecDepth 8000 in
open Sample in
theorem codes_honour_prompt_sample :
    ∃ c ∈ ((approval (promptLogin "login" flowStore)).post (FlowCall.run loginDeploy)).codes,
      PromptKept loginDeploy [prompted "login" flowStore, promptLogin "login" flowStore]
        (approval (promptLogin "login" flowStore)) c := by
  have code : ∃ c ∈ ((approval (promptLogin "login" flowStore)).post (FlowCall.run loginDeploy)).codes,
      c ∉ (approval (promptLogin "login" flowStore)).pre.codes := by decide +kernel
  obtain ⟨c, mem, new⟩ := code
  have run : FlowRuns loginDeploy
      [prompted "login" flowStore, promptLogin "login" flowStore, approval (promptLogin "login" flowStore)] _ :=
    (promptLogin_run "login" (s := flowStore) rfl).call (approval (promptLogin "login" flowStore)).call
      (approval (promptLogin "login" flowStore)).ins trivial
  have forward : ClockForward
      [prompted "login" flowStore, promptLogin "login" flowStore, approval (promptLogin "login" flowStore)] := by
    simp [ClockForward, prompted, promptLogin, approval, eventOf, input]
  have split : [prompted "login" flowStore, promptLogin "login" flowStore,
      approval (promptLogin "login" flowStore)] =
    [prompted "login" flowStore, promptLogin "login" flowStore] ++
      approval (promptLogin "login" flowStore) :: [] := rfl
  exact ⟨c, mem, codes_honour_prompt run forward (promptLogin_handled flowStore) split c mem new⟩

end IdpMvp
