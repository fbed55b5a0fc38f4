import IdpMvp.Encoding.Percent
import IdpMvp.Service.KeyService

/-!
# Logout

Model of `application/logout.rs` and of the handler `handlers/logout.rs`: the SSO session ends, the clients of the
tenant are notified over the back channel and in a page of iframes, and the browser is sent to a registered URI.
-/

namespace IdpMvp

open Program Program.Flow

/-- `utf8_percent_encode` with `NON_ALPHANUMERIC`. -/
def utf8PercentEncode (s : String) : String :=
  Encoding.asciiText (Encoding.percentEncode Encoding.isAlphanumeric (asBytes s))

/-- `?` before the first parameter of a query, `&` before another one. -/
def querySeparator (uri : String) : String := if '?' ∈ uri.toList then "&" else "?"

/-! ## `LogoutService` -/

structure BackchannelTarget where
  clientId : String
  backchannelLogoutUri : String
  deriving DecidableEq, Repr

structure LogoutResult where
  userSub : Option String
  userId : Option Uuid
  backchannelTargets : List BackchannelTarget
  frontchannelUris : List String
  postLogoutRedirectUri : Option String
  deriving DecidableEq, Repr

structure LogoutCommand where
  /-- The value of the SSO cookie. -/
  ssoSessionId : Option String
  clientIdHint : Option String
  postLogoutRedirectUri : Option String
  deriving DecidableEq, Repr

def Client.allowsPostLogoutRedirectUri (c : Client) (uri : String) : Bool :=
  c.postLogoutRedirectUris.any (· = uri)

namespace Logout

/-- The result for a session that is not known. -/
def unknownSession : LogoutResult := ⟨none, none, [], [], none⟩

/-- The `sub` of the user, if the row is found. -/
def findSub (D : Deploy) (userId : Uuid) : Service (Option String) := do
  match ← db (.users (.findById userId)) with
  | .ok (some user) => return some (D.uuidToString user.sub)
  | .ok none | .error _ => return none

/-- Step 1 of `logout`: the session of the cookie ends. A failed lookup counts as an unknown session. -/
def endSession (D : Deploy) (ssoSessionId : Option String) (now : DateTime) :
    ServiceFlow LogoutResult (Option Uuid × Option String) :=
  match nonEmpty ssoSessionId with
  | none => return (none, none)
  | some sid => do
    let hash := D.sha256Hex sid
    let row ← orLeave (db (.ssoSessions (.findByHash hash))) (fun _ => unknownSession)
    let session ← found row unknownSession
    -- A failed deletion and a failed revocation are only logged.
    let _ ← db (.ssoSessions (.delete hash))
    let _ ← db (.codes (.revokeAllActiveForUser session.userId now))
    let sub ← findSub D session.userId
    return (some session.userId, sub)

def backchannelTargets (clients : List Client) : List BackchannelTarget :=
  clients.filterMap fun c => c.backchannelLogoutUri.map fun uri => ⟨c.clientId, uri⟩

/-- A front-channel URI with the parameter `iss`. -/
def frontchannelUri (issuer uri : String) : String :=
  uri ++ querySeparator uri ++ "iss=" ++ utf8PercentEncode issuer

def frontchannelUris (issuer : String) (clients : List Client) : List String :=
  clients.filterMap fun c => c.frontchannelLogoutUri.map (frontchannelUri issuer)

/-- The URI is registered for the client that is named, or for any. -/
def registers (clients : List Client) (clientIdHint : Option String) (uri : String) : Bool :=
  match clientIdHint with
  | some clientId => (clients.find? (·.clientId = clientId)).any (·.allowsPostLogoutRedirectUri uri)
  | none => clients.any (·.allowsPostLogoutRedirectUri uri)

/-- Step 3 of `logout`. -/
def postLogoutRedirect (clients : List Client) (clientIdHint uri : Option String) : Option String :=
  (nonEmpty uri).filter (registers clients clientIdHint)

/-- What the clients of the tenant are notified with, and the redirect. -/
def result (D : Deploy) (tenantId : TenantId) (cmd : LogoutCommand) (userId : Option Uuid)
    (userSub : Option String) (clients : List Client) : LogoutResult where
  userSub := userSub
  userId := userId
  backchannelTargets := backchannelTargets clients
  frontchannelUris := frontchannelUris (D.tenantIssuer tenantId) clients
  postLogoutRedirectUri := postLogoutRedirect clients cmd.clientIdHint cmd.postLogoutRedirectUri

/-- Steps 2 and 3 of `logout`. -/
def collect (D : Deploy) (tenantId : TenantId) (cmd : LogoutCommand) (userId : Option Uuid)
    (userSub : Option String) : Service LogoutResult := do
  match ← db (.clientAdmin (.list tenantId)) with
  | .ok clients => return result D tenantId cmd userId userSub clients
  -- A failure counts as no client.
  | .error _ => return result D tenantId cmd userId userSub []

/-- `LogoutService::logout`. -/
def logout (D : Deploy) (tenantId : TenantId) (cmd : LogoutCommand) : Service LogoutResult :=
  outcome (do
    let now ← clockNow
    let (userId, userSub) ← endSession D cmd.ssoSessionId now
    collect D tenantId cmd userId userSub)

/-! ## Requests and answers of the handler -/

structure LogoutParams where
  idTokenHint : Option String
  postLogoutRedirectUri : Option String
  state : Option String
  clientId : Option String
  deriving DecidableEq, Repr

/-- The answer of the handler, which always expires the SSO cookie. -/
inductive LogoutResponse where
  | page (html : String)
  | redirect (location : String)
  | noContent
  | internalError
  deriving DecidableEq, Repr

/-- A `POST` of a logout token. -/
structure LogoutPost where
  url : String
  logoutToken : String
  deriving DecidableEq, Repr

/-- The redirect URI with the `state` of the request. -/
def withState (state : Option String) (uri : String) : String :=
  match nonEmpty state with
  | some state => uri ++ querySeparator uri ++ "state=" ++ utf8PercentEncode state
  | none => uri

/-- `HeaderValue::from_str` accepts the text. -/
def isHeaderValue (text : String) : Bool := text.toList.all fun c => c = '\t' || (32 ≤ c.toNat && c.toNat < 127)

/-- `found`. -/
def foundResponse (location : String) : LogoutResponse :=
  if isHeaderValue location then .redirect location else .internalError

/-! ## The front-channel page -/

/-- `str::replace` of a character. -/
def replaceChar (c : Char) (text : String) (cs : List Char) : List Char :=
  cs.flatMap fun d => if d = c then text.toList else [d]

/-- `html_escape`. -/
def htmlEscape (s : List Char) : List Char :=
  replaceChar '>' "&gt;" (replaceChar '<' "&lt;" (replaceChar '"' "&quot;" (replaceChar '&' "&amp;" s)))

/-- `js_escape`. -/
def jsEscape (s : List Char) : List Char :=
  replaceChar '\r' "\\r" (replaceChar '\n' "\\n" (replaceChar '\'' "\\'" (replaceChar '\\' "\\\\" s)))

/-- An iframe up to its URI, and the rest of it. -/
def iframeOpen : List Char := "<iframe src=\"".toList

def iframeClose : List Char :=
  "\" style=\"display:none;width:0;height:0;\" sandbox=\"allow-same-origin allow-scripts\"></iframe>".toList

def iframe (uri : String) : List Char := iframeOpen ++ htmlEscape uri.toList ++ iframeClose

/-- `join("\n")`. -/
def joinLines : List (List Char) → List Char
  | [] => []
  | [line] => line
  | line :: lines => line ++ '\n' :: joinLines lines

/-- The script up to the first redirect, between the two, and after the second. -/
def scriptOpen : List Char :=
  ("<script>\nvar loaded = 0;\nvar total = document.querySelectorAll('iframe').length;\n" ++
    "function onIframeLoad() \x7b loaded++; if (loaded >= total) \x7b window.location.href = '").toList

def scriptMiddle : List Char :=
  ("'; \x7d \x7d\nvar frames = document.querySelectorAll('iframe');\n" ++
    "if (frames.length === 0) \x7b window.location.href = '").toList

def scriptClose : List Char :=
  ("'; \x7d\nelse \x7b frames.forEach(function(f) \x7b f.onload = onIframeLoad; \x7d); \x7d\n" ++
    "</script>").toList

def redirectScript : Option String → List Char
  | some uri => scriptOpen ++ jsEscape uri.toList ++ scriptMiddle ++ jsEscape uri.toList ++ scriptClose
  | none => []

def pageOpen : List Char :=
  "<!DOCTYPE html>\n<html>\n<head><meta charset=\"utf-8\"><title>Logout</title></head>\n<body>\n".toList

def pageClose : List Char := "\n</body>\n</html>".toList

/-- `build_frontchannel_html`. -/
def buildFrontchannelHtml (uris : List String) (redirectTo : Option String) : List Char :=
  pageOpen ++ joinLines (uris.map iframe) ++ '\n' :: redirectScript redirectTo ++ pageClose

/-! ## The handler -/

def backchannelLogoutEvent : String := "http://schemas.openid.net/event/backchannel-logout"

/-- `jwt::sign`, for any claims: `sign` is that of the token endpoint. -/
def jwtSign {Claims : Type} (D : Deploy) (encode : JwtHeader → Claims → EncodingKey → Except String String)
    (privatePem kid typ algorithm : String) (claims : Claims) : Except String String :=
  let signWith (context : String) (key : Except String EncodingKey) (alg : Algorithm) : Except String String :=
    match key with
    | .error e => .error (context ++ e)
    | .ok key => (encode { alg, typ := some typ, kid := some kid } claims key).mapError ("jwt encode: " ++ ·)
  if algorithm = "RS256" then
    signWith "load RSA encoding key: " (D.encodingKeyFromRsaPem privatePem) .rs256
  else if algorithm = "ES256" then
    signWith "load EC encoding key: " (D.encodingKeyFromEcPem privatePem) .es256
  else .error ("unsupported signing algorithm: " ++ algorithm)

lemma sign_eq_jwtSign (D : Deploy) : sign D = jwtSign D D.jwtEncode := rfl

/-- The claims of the logout token for a client. -/
def logoutTokenClaims (issuer userSub clientId : String) (iat : Int) (jti : String) : LogoutTokenClaims where
  iss := issuer
  sub := userSub
  aud := clientId
  iat := iat
  jti := jti
  events := [backchannelLogoutEvent]

/-- The loop of `send_backchannel_logout_tokens`; a token that cannot be signed is skipped. -/
def sendTokens (D : Deploy) (userSub issuer : String) (key : ActiveSigningKey) (iat : Int) :
    List BackchannelTarget → Service (List LogoutPost)
  | [] => return []
  | target :: targets => do
    let jti ← uuidV4
    let claims := logoutTokenClaims issuer userSub target.clientId iat (D.uuidToString jti)
    let posts ← sendTokens D userSub issuer key iat targets
    match jwtSign D D.jwtEncodeLogout key.privatePem key.kid "logout+jwt" key.algorithm claims with
    | .ok token => return ⟨target.backchannelLogoutUri, token⟩ :: posts
    | .error _ => return posts

/-- `send_backchannel_logout_tokens`: the posts it makes. -/
def sendBackchannelLogoutTokens (D : Deploy) (targets : List BackchannelTarget) (userSub issuer : String) :
    Service (List LogoutPost) := do
  match ← activeSigningKey D with
  | .error _ => return []
  | .ok key =>
    let now ← clockNow
    sendTokens D userSub issuer key now.timestamp targets

/-- The answer for the URIs of a logout. -/
def logoutResponse (frontchannelUris : List String) (redirectTo : Option String) : LogoutResponse :=
  if !frontchannelUris.isEmpty then
    .page (String.ofList (buildFrontchannelHtml frontchannelUris redirectTo))
  else
    match redirectTo with
    | some uri => foundResponse uri
    | none => .noContent

/-- The posts of the task that the handler spawns. -/
def backchannelPosts (D : Deploy) (result : LogoutResult) : Service (List LogoutPost) :=
  match result.userSub with
  | some userSub =>
    if !result.backchannelTargets.isEmpty then
      sendBackchannelLogoutTokens D result.backchannelTargets userSub D.baseIssuer
    else return []
  | none => return []

/-- `logout` of the handler: the answer, and the posts of the task. -/
def handle (D : Deploy) (tenantId : TenantId) (ssoSessionId : Option String) (params : LogoutParams) :
    Service (LogoutResponse × List LogoutPost) := do
  let result ← logout D tenantId ⟨ssoSessionId, params.clientId, params.postLogoutRedirectUri⟩
  let posts ← backchannelPosts D result
  let redirectTo := result.postLogoutRedirectUri.map (withState params.state)
  return (logoutResponse result.frontchannelUris redirectTo, posts)

end Logout
end IdpMvp
