import OAuthClientBridge.Client
import OAuthClientBridge.Views.Callback

/-! `/token`: hand out a token for the stored grant, refreshing it at the provider when needed. -/

namespace OAuthClientBridge
open Python Effect

/-- `flask.request.authorization`, which may fail to decode. -/
inductive AuthorizationHeader where
  | absent
  | undecodable
  | parsed (type : String) (username password : Option String)

structure TokenRequest where
  form : List (String × String)
  authorization : AuthorizationHeader
  userAgent : String

def isSet (value : Option String) : Bool := value ≠ none && value ≠ some ""

/-- The checks before the credentials, and where the credentials are read from. -/
def presentedCredentials (req : TokenRequest) :
    Except (OAuthError × String) (Option String × Option String) :=
  if req.form.lookup "grant_type" ≠ some "client_credentials" then
    .error (.unsupportedGrantType, "Only \"client_credentials\" is supported.")
  else if (req.form.lookup "scope").isSome then
    .error (.invalidScope, "Setting scope is not supported.")
  else
    let clientId := req.form.lookup "client_id"
    let clientSecret := req.form.lookup "client_secret"
    match req.authorization with
    | .absent | .undecodable => .ok (clientId, clientSecret)
    | .parsed type username password =>
      if type ≠ "basic" then .error (.invalidClient, "Only Basic Auth is supported.")
      else if isSet clientId || isSet clientSecret then
        .error (.invalidRequest, "More than one mechanism for authenticating set.")
      else .ok (username, password)

def clientNotKnown : String := "Client not known."

section
variable {τ : Type} (P : Platform τ)

def recordInvalidClientId (clientId : Option String) : Action P.fernet Unit :=
  match clientId with
  | some id => do
    emit (.bindContext "invalid_client_id" id)
    emit (.spanEvent "invalid_client_id" [("client_id", .text id)])
  | none => .pure ()

/-- From the request to validated credentials. -/
def authenticate (req : TokenRequest) : Action P.fernet (ClientCredentials P.fernet) :=
  match presentedCredentials req with
  | .error (error, description) => raiseError error (.str description) .null .null
  | .ok (clientId, clientSecret) =>
    match validateCredentials P clientId clientSecret with
    | .error .clientId => do
      recordInvalidClientId P clientId
      raiseError .invalidClient (.str "Malformed client_id.") .null .null
    | .error .clientSecret => raiseError .invalidClient (.str clientNotKnown) .null .null
    | .error (.credential message) => raiseError .invalidClient (.str message) .null .null
    | .ok credentials => do
      setClientId credentials.clientId
      return credentials

/-- `_revoked_grant_workaround_response()`. -/
def revokedGrantWorkaround (s : Settings) (userAgent : String) : Option Payload :=
  match s.revokedGrantWorkaroundUserAgents with
  | none | some "" => none
  | some pattern =>
    if userAgent = "" || !P.search pattern userAgent then none
    else some (.ofList [("access_token", Json.str s.revokedGrantWorkaroundAccessToken),
      ("token_type", Json.str "Bearer"), ("expires_in", Json.int s.revokedGrantWorkaroundExpiresIn)])

def revokedGrant (s : Settings) (userAgent : String) : Action P.fernet Response :=
  match revokedGrantWorkaround P s userAgent with
  | some payload => do
    log .warning "Serving revoked grant workaround token" [] []
    record (.workaround "revoked_grant")
    emit (.spanEvent "Served revoked grant workaround token" [])
    return jsonify 200 (.object payload)
  | none => raiseError .invalidGrant (.str "Grant has been revoked.") .null .null

section
variable {F : Fernet τ}

def observeTokenGrantAge (createdAt : Option Int) : Action F Unit :=
  match createdAt with
  | some createdAt => record (.tokenGrantAge createdAt)
  | none => .pure ()

def refreshExchange (s : Settings) (refreshToken : Json) : List (String × Json) :=
  [("client_id", .str s.oauth.clientId), ("client_secret", .str s.oauth.clientSecret),
   ("grant_type", .str s.oauth.grantType), ("refresh_token", refreshToken)]

/-- `refresh_uri or token_uri`. -/
def refreshUri (s : Settings) : String :=
  match s.oauth.refreshUri with
  | none | some "" => s.oauth.tokenUri
  | some uri => uri

/-- The status that the view puts in place of the real one. -/
def assumedStatus (result : Payload) : HTTPStatus :=
  if result.contains "error" then .badRequest else .ok

/-- What the view does with a failed refresh before it answers. -/
def noteFailedRefresh (clientId : ClientId) (result : Payload) (outcome : TokenEndpointOutcome)
    (error : OAuthError) : Action F Unit :=
  let fields := [("refresh_result", LogValue.document (.object (sanitizeForLogging result)))]
  if outcome.invalidateRefreshToken then do
    let _ ← Db.update clientId none
    record (.refreshTokenInvalidation error.value)
    log .warning "Revoking stored token after upstream invalid_grant" [] []
  else if error = .temporarilyUnavailable then log .warning "Token refresh failed" [] fields
  else log .error "Token refresh failed" [] fields

def refreshFailed (clientId : ClientId) (result : Payload) (outcome : TokenEndpointOutcome) :
    Action F Response := do
  let error := outcome.normalizedError.getD .serverError
  noteFailedRefresh clientId result outcome error
  emit (.spanEvent "refresh_error" (attributes (sanitizeForLogging result)))
  raiseError error (result.getOrNull "error_description") (result.getOrNull "error_uri")
    (result.getOrNull "retry_after")

/-- The response after the stored scope and the new refresh token were moved. -/
def refreshedToken (stored refreshed : Payload) : Payload :=
  let withScope := if !refreshed.contains "scope" && stored.contains "scope" then
      refreshed.insert "scope" (stored.getOrNull "scope") else refreshed
  withScope.erase "refresh_token"

/-- The payload to store after a refresh. -/
def modifiedToken (stored refreshed : Payload) : Payload :=
  if refreshed.contains "refresh_token" then
    (scrubRefreshToken stored).insert "refresh_token" (refreshed.getOrNull "refresh_token")
  else scrubRefreshToken stored

/-- The two payloads hold one and the same object under the key. -/
def sharesMember (refreshed modified : Payload) (key : String) : Bool :=
  modified.contains key && !(key = "refresh_token" && refreshed.contains "refresh_token")

/-- `original.get(key) == modified.get(key)`. -/
def memberEq (stored refreshed modified : Payload) (key : String) : Bool :=
  if sharesMember refreshed modified key then (stored.getOrNull key).selfEq
  else (stored.getOrNull key).pyEq (modified.getOrNull key)

/-- `result != modified`. A member that is one and the same object in both counts as equal. -/
def tokenChanged (stored refreshed : Payload) : Bool :=
  let modified := modifiedToken stored refreshed
  stored.keys != modified.keys || stored.keys.any fun key =>
    !sharesMember refreshed modified key && !(stored.getOrNull key).pyEq (modified.getOrNull key)

def updatedFields (stored refreshed : Payload) : List String :=
  let modified := modifiedToken stored refreshed
  (stored.union modified).keys.filter fun key => !memberEq stored refreshed modified key

def updateGrant (credentials : ClientCredentials F) (stored refreshed : Payload) : Action F Unit :=
  if tokenChanged stored refreshed then do
    let fields := updatedFields stored refreshed
    log .warning "Updating token" [] [("updated_fields", .names fields)]
    emit (.spanEvent "Updating token" [("updated_fields", .names fields)])
    let token ← dumps credentials.clientSecret (modifiedToken stored refreshed)
    let _ ← Db.update credentials.clientId (some token)
  else .pure ()

def refreshSucceeded (credentials : ClientCredentials F) (createdAt : Option Int) (stored refreshed : Payload) :
    Action F Response :=
  if validateToken refreshed then do
    updateGrant credentials stored refreshed
    observeTokenGrantAge createdAt
    return jsonify 200 (.object (refreshedToken stored refreshed))
  else raiseError .invalidRequest (.str "Invalid response from provider.") .null .null

end

def refreshGrant (s : Settings) (credentials : ClientCredentials P.fernet) (createdAt : Option Int)
    (stored : Payload) : Action P.fernet Response := do
  let refreshed ← fetch P s.fetch (refreshUri s) "refresh" (refreshExchange s (stored.getOrNull "refresh_token"))
  let outcome ← liftPy (classify P s.fetch (some (assumedStatus refreshed)) (.object refreshed))
  if refreshed.contains "error" then refreshFailed credentials.clientId refreshed outcome
  else refreshSucceeded credentials createdAt stored refreshed

/-- What the stored token is worth: a refresh, or the token itself. -/
def serveGrant (s : Settings) (credentials : ClientCredentials P.fernet) (createdAt : Option Int)
    (stored : Document) : Action P.fernet Response := do
  if ← liftPy (stored.has "refresh_token") then
    match stored with
    | .object stored => refreshGrant P s credentials createdAt stored
    | .other _ => .throw (.python .typeError)
  else do
    observeTokenGrantAge createdAt
    return jsonify 200 stored

def token (s : Settings) (req : TokenRequest) : Action P.fernet Response := do
  let credentials ← authenticate P req
  match ← Db.lookup credentials.clientId with
  | none => raiseError .invalidClient (.str clientNotKnown) .null .null
  | some tokenRecord =>
    match tokenRecord.encryptedToken with
    | none => revokedGrant P s req.userAgent
    | some encrypted =>
      match loads credentials.clientSecret encrypted with
      | none => raiseError .invalidClient (.str clientNotKnown) .null .null
      | some stored => serveGrant P s credentials tokenRecord.createdAt stored

end
end OAuthClientBridge
