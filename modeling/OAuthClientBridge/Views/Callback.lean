import OAuthClientBridge.Views.Common

/-! `/callback`: trade the code of the provider for a token. -/

namespace OAuthClientBridge
open Python Effect

section
variable {τ : Type} {F : Fernet τ}

def sessionPop (key : String) : Action F (Option String) := perform (.sessionPop key)

def setClientId (id : ClientId) : Action F Unit := do
  emit (.bindContext "client_id" id.str)
  emit (.spanAttribute "client_id" (.text id.str))

/-- The validation of the request: an error with its description, or the code to exchange. -/
def callbackCheck (s : Settings) (args : List (String × String)) (state : Option String) :
    Except PyError (Except (OAuthError × String) String) :=
  if args = [] then
    .ok (.error (.invalidRequest, "No arguments provided, request is invalid."))
  else match state with
    | none => .ok (.error (.invalidState, "State is not set, this page was probably refreshed."))
    | some state =>
      if some state ≠ args.lookup "state" then
        .ok (.error (.invalidState, "State does not match callback state."))
      else match args.lookup "error" with
        | some code => do
          let error ← normalizeError s.fetch.errorTypes (.str code) authorizationErrors .serverError
          match error.description? with
          | some text => .ok (.error (error, text))
          | none => .error .keyError
        | none => match args.lookup "code" with
          | none | some "" =>
            .ok (.error (.invalidRequest, "Authorization code missing from provider callback."))
          | some code => .ok (.ok code)

def callbackFailed (s : Settings) (args : List (String × String)) (error : OAuthError) (desc : String)
    (clientState : Option String) : Action F Response := do
  let scope := if error = .invalidScope then
      [LogValue.text " - %r", (args.lookup "scope").elim (.json .null) .text] else []
  log ((s.errorLevels[error.value]?).getD .error) ("Callback failed " ++ error.value ++ ": " ++ desc) scope []
  errorPage s (.oauth error) desc clientState .null

/-- What `/callback` makes of the object that `fetch` returned: an error, or a token. -/
def exchangeError (s : Settings) (result : Payload) : Except PyError (Option (PageError × String)) :=
  if result.contains "error" then do
    let error ← normalizeError s.fetch.errorTypes (result.getOrNull "error") tokenErrors .serverError
    match error.description? with
    | some text => .ok (some (.oauth error, text))
    | none => .error .keyError
  else if validateToken result then .ok none
  else .ok (some (.text "invalid_response", "Invalid response from provider."))

/-- A payload as the attributes of a log record or a span event. -/
def attributes (payload : Payload) : List (String × LogValue) :=
  payload.toList.map fun member => (member.1, .json member.2)

def exchangeFailed (s : Settings) (result : Payload) (error : PageError) (desc : String)
    (clientState : Option String) : Action F Response := do
  let sanitized := sanitizeForLogging result
  log .warning "Retrieving token failed" [] [("result", .document (.object sanitized))]
  emit (.spanEvent "token_error" (attributes sanitized))
  errorPage s error desc clientState (result.getOrNull "retry_after")

def grantPayload (result : Payload) : Payload :=
  if result.contains "refresh_token" then scrubRefreshToken result else result

/-- Store the token under a fresh id and a fresh key, and show both. -/
def issueGrant (s : Settings) (result : Payload) (clientState : Option String) : Action F Response := do
  let result := grantPayload result
  let clientSecret ← generateKey
  let token ← dumps clientSecret result
  let clientId ← Db.generateId
  setClientId clientId
  log .warning "Inserting token" [] [("inserted_fields", .names result.keys)]
  emit (.spanEvent "Inserting token" [("inserted_fields", .names result.keys)])
  match ← Db.insert clientId token with
  | .integrityError => do
    log .warning "Could not get unique client id." [] []
    errorPage s (.text "integrity_error") "Database integrity error." clientState .null
  | .inserted =>
    let shown := { clientId := some clientId.str, clientSecret := some clientSecret.text, state := clientState }
    return render s 200 shown

variable (P : Platform τ)

def codeExchange (s : Settings) (code : String) : List (String × Json) :=
  [("client_id", .str s.oauth.clientId), ("client_secret", .str s.oauth.clientSecret),
   ("code", .str code), ("grant_type", .str "authorization_code"), ("redirect_uri", .str s.oauth.redirectUri)]

/-- The exchange with the provider and what follows from it. -/
def exchangeCode (s : Settings) (clientState : Option String) (code : String) : Action F Response := do
  let result ← fetch P s.fetch s.oauth.tokenUri "token" (codeExchange s code)
  match ← liftPy (exchangeError s result) with
  | some (error, desc) => exchangeFailed s result error desc clientState
  | none => issueGrant s result clientState

def callback (s : Settings) (args : List (String × String)) : Action F Response := do
  let clientState ← sessionPop "client_state"
  let state ← sessionPop "state"
  match ← liftPy (callbackCheck s args state) with
  | .error (error, desc) => callbackFailed s args error desc clientState
  | .ok code => exchangeCode P s clientState code

end
end OAuthClientBridge
