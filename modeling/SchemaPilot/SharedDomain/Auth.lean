import SchemaPilot.SharedDomain.JwtAuth

/-!
# Authenticated actors

`authenticated_actor_from_request` of `backend/shared_domain/auth.py` in its three modes, with the
tokens that a service knows unless it is configured otherwise.
-/

namespace SchemaPilot.SharedDomain

open Library Library.Text Library.Json

/-- The headers of a request, by their names in lower case. -/
abbrev Headers := List (String × String)

/-- `request.headers.get(name, "")`. -/
def header (headers : Headers) (name : String) : String := (headers.lookup (lower name)).getD ""

/-- What a service authenticates its callers with. -/
structure AuthSettings where
  authMode : String
  authTokens : List (String × Fields)
  oidc : Jwt.OidcSettings
  oidcClaimsHeader : String
  oidcActorIdClaim : String
  oidcRolesClaim : String
  oidcAttributesClaim : String
  platform : Jwt.JwtPlatform
  /-- The keys `_load_jwks_keys` returns. -/
  jwksKeys : List Fields
  /-- `int(time.time())`. -/
  now : ℤ

/-- `_normalized_auth_mode`. -/
def normalizedAuthMode (authMode : String) : String :=
  let normalized := lower (strip authMode)
  if normalized = "oidc" then "oidc_trusted_proxy" else normalized

/-- `_bearer_token`. -/
def bearerToken (headers : Headers) : Option String :=
  let authorization := strip (header headers "authorization")
  if "bearer ".toList <+: (lower authorization).toList then
    some (strip (String.ofList (authorization.toList.drop 7))) |>.filter (· ≠ "")
  else none

def itemTexts (value : Json) : List String := ((asArr? value).getD []).map toStr

def actorOf (actorId actorType : String) (roles : List String) (attributes : Json) : Fields :=
  [("actor_id", .str actorId), ("actor_type", .str actorType), ("roles", textList roles),
    ("attributes", .obj ((asObj? attributes).getD []))]

/-- `_sanitize_actor_payload`. -/
def sanitizeActorPayload (actor : Fields) (fallbackActorId : String) : Fields :=
  actorOf (getD actor "actor_id" (.str fallbackActorId)).toStr
    (getD actor "actor_type" (.str "human")).toStr (itemTexts (getD actor "roles" (.arr [])))
    (getD actor "attributes" (.obj []))

/-- The roles of a claim: the items of a list, and one role for any other value. -/
def rolesOfClaim (value : Json) : List String :=
  if itemTexts value ≠ [] then itemTexts value
  else (if value.truthy then [value.toStr] else []).filter (· ≠ "")

/-- `_actor_from_claims`. -/
def actorFromClaims (settings : AuthSettings) (claims : Fields) : Option Fields :=
  let actorId := strippedText claims settings.oidcActorIdClaim ""
  if actorId = "" then none
  else some (actorOf actorId (getD claims "actor_type" (.str "human")).toStr
    (rolesOfClaim (getD claims settings.oidcRolesClaim (.arr [])))
    (getD claims settings.oidcAttributesClaim (.obj [])))

/-- `authenticated_actor_from_oidc_claims`. -/
def authenticatedActorFromOidcClaims (settings : AuthSettings) (headers : Headers) :
    Option Fields := do
  let claimsHeader ← some (header headers settings.oidcClaimsHeader) |>.filter (· ≠ "")
  let claims ← (loads settings.platform.reader claimsHeader).bind asObj?
  if Jwt.claimsMatchIssuerAndAudience settings.oidc claims then actorFromClaims settings claims
  else none

/-- `authenticated_actor_from_oidc_jwt`. -/
def authenticatedActorFromOidcJwt (settings : AuthSettings) (headers : Headers) :
    Except Exn (Option Fields) :=
  match bearerToken headers with
  | none => .ok none
  | some token => do
    let claims ← Jwt.verifiedOidcJwtClaims settings.platform settings.oidc settings.jwksKeys
      settings.now token
    return claims.bind (actorFromClaims settings)

def authenticatedActorFromLocalToken (settings : AuthSettings) (headers : Headers) :
    Option Fields := do
  let token ← bearerToken headers
  let actor ← settings.authTokens.lookup token
  return sanitizeActorPayload actor ("user:" ++ token)

/-- `authenticated_actor_from_request`. -/
def authenticatedActorFromRequest (settings : AuthSettings) (headers : Headers) :
    Except Exn (Option Fields) :=
  let authMode := normalizedAuthMode settings.authMode
  if authMode = "oidc_trusted_proxy" then .ok (authenticatedActorFromOidcClaims settings headers)
  else if authMode = "oidc_jwt" then authenticatedActorFromOidcJwt settings headers
  else .ok (authenticatedActorFromLocalToken settings headers)

/-- `DEFAULT_LOCAL_AUTH_TOKENS`. -/
def defaultLocalAuthTokens : List (String × Fields) :=
  [("local-analyst-token", actorOf "user:local_analyst" "human" ["analyst"] (.obj [])),
    ("local-region-analyst-token",
      actorOf "user:regional_analyst" "human" ["analyst"] (.obj [("region", .str "eu")])),
    ("local-data-steward-token",
      actorOf "user:local_steward" "human" ["data_steward"] (.obj [])),
    ("local-platform-admin-token",
      actorOf "user:local_admin" "human" ["platform_admin"] (.obj [])),
    ("local-ai-token", actorOf "agent:local_ai" "ai" ["ai_agent"]
      (.obj [("ai_allowlisted", .bool false), ("allowed_dataset_ids", .arr [])])),
    ("local-ai-reader-token", actorOf "agent:local_ai_reader" "ai" ["ai_agent"]
      (.obj [("ai_allowlisted", .bool true), ("allowed_dataset_ids", .arr [.str "dataset-1"])]))]

end SchemaPilot.SharedDomain
