import IdpMvp.Domain.Deploy

/-!
# Discovery

Model of `openid_configuration` of `handlers/discovery.rs`.
-/

namespace IdpMvp

/-- `discovery_document`. -/
def discoveryDocument (issuer : String) : Json :=
  let strings (items : List String) : Json := .arr (items.map .str)
  .obj
    [("issuer", .str issuer),
     ("authorization_endpoint", .str (issuer ++ "/authorize")),
     ("token_endpoint", .str (issuer ++ "/token")),
     ("userinfo_endpoint", .str (issuer ++ "/userinfo")),
     ("end_session_endpoint", .str (issuer ++ "/logout")),
     ("revocation_endpoint", .str (issuer ++ "/revoke")),
     ("introspection_endpoint", .str (issuer ++ "/introspect")),
     ("jwks_uri", .str (issuer ++ "/.well-known/jwks.json")),
     ("scopes_supported", strings ["openid", "profile", "email", "offline_access"]),
     ("response_types_supported", strings ["code"]),
     ("grant_types_supported", strings ["authorization_code", "refresh_token"]),
     ("subject_types_supported", strings ["public"]),
     ("id_token_signing_alg_values_supported", strings ["RS256"]),
     ("token_endpoint_auth_methods_supported", strings ["client_secret_basic", "none"]),
     ("code_challenge_methods_supported", strings ["S256"]),
     ("frontchannel_logout_supported", .bool true),
     ("backchannel_logout_supported", .bool true),
     ("claims_supported", strings
       ["sub", "iss", "aud", "exp", "iat", "auth_time", "nonce", "email", "email_verified",
        "preferred_username", "name"])]

/-- `openid_configuration`. -/
def openidConfiguration (D : Deploy) (tenantId : TenantId) : Json :=
  discoveryDocument (D.tenantIssuer tenantId)

end IdpMvp
