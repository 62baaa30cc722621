import OAuthClientBridge.OAuth.Retry

/-! `oauth/_outcome.py`: what a response of the provider means. -/

namespace OAuthClientBridge
open Python

def authorizationErrors : List OAuthError :=
  [.invalidRequest, .unauthorizedClient, .accessDenied, .unsupportedResponseType, .invalidScope,
   .serverError, .temporarilyUnavailable]

def tokenErrors : List OAuthError :=
  [.invalidRequest, .invalidClient, .invalidGrant, .unauthorizedClient, .unsupportedGrantType,
   .invalidScope, .serverError, .temporarilyUnavailable]

structure TokenEndpointOutcome where
  retryable : Bool
  normalizedError : Option OAuthError
  invalidateRefreshToken : Bool
  retryReason : Option RetryReason := none

def upstreamResultForStatus (status : HTTPStatus) : String :=
  if status.isSuccess then "success"
  else if status.isRedirection then "client_error"
  else if status = .tooManyRequests then "rate_limited"
  else if status.isClientError then "client_error"
  else if status.isServerError then "server_error"
  else "unknown"

/-- The two membership tests of `normalize_error`, which hash the code. -/
def resolveError (errorTypes : Std.ExtTreeMap String OAuthError) (code : String)
    (fallback : OAuthError) : OAuthError :=
  match errorTypes[code]? with
  | some e => e
  | none => (OAuthError.ofValue? code).getD fallback

def normalizeError (errorTypes : Std.ExtTreeMap String OAuthError) (code : Json)
    (allowed : List OAuthError) (fallback : OAuthError) : Except PyError OAuthError :=
  if code.hashable then
    let error := match code with
      | .str code => resolveError errorTypes code fallback
      | _ => fallback
    .ok (if error ∈ allowed then error else fallback)
  else .error .typeError

def validateToken (token : Payload) : Bool :=
  (token.getOrNull "access_token").truthy && (token.getOrNull "token_type").truthy

def unexpectedTokenEndpointIssue (retryStatusCodes : List HTTPStatus) (status : Option HTTPStatus)
    (result : Document) : Except PyError (Option String) :=
  match status with
  | none => .ok (some "transport_failure")
  | some status =>
    if status ∈ retryStatusCodes then do
      let result ← result.asDict
      let error := result.getOrNull "error"
      if !error.hashable then .error .typeError
      else if !error.pyEq .null && !error.pyEq (.str OAuthError.temporarilyUnavailable.value) then
        return some "retryable_status_with_contradictory_oauth_error"
      else if validateToken result then return some "retryable_status_with_success_payload"
      else return none
    else if status.isSuccess then do
      if validateToken (← result.asDict) then return none
      else return some "success_status_with_error_payload"
    else .ok none

section
variable {τ : Type} (P : Platform τ) (s : FetchSettings)

/-- `normalize_error(str(error), TOKEN_ERRORS, fallback, error_types)`. -/
def normalizeTokenError (error : Json) (fallback : OAuthError) : OAuthError :=
  let error := match error with
    -- No table has such a text.
    | .lone _ => fallback
    | error => resolveError s.errorTypes (P.str error) fallback
  if error ∈ tokenErrors then error else fallback

/-- `token_endpoint_outcome` without its logger. -/
def classify (status : Option HTTPStatus) (result : Document) : Except PyError TokenEndpointOutcome :=
  match status with
  | none => .ok ⟨true, some .temporarilyUnavailable, false, some .unavailable⟩
  | some status =>
    if status ∈ s.retryStatusCodes then
      .ok ⟨true, some .temporarilyUnavailable, false, some (retryReasonForStatus status)⟩
    else if status.isSuccess then do
      let result ← result.asDict
      if validateToken result then return ⟨false, none, false, none⟩
      else
        let error := result["error"]?.getD (.str OAuthError.invalidRequest.value)
        return ⟨false, some (normalizeTokenError P s error .invalidRequest), false, none⟩
    else do
      let normalized ← if ← result.has "error" then
          (result.item "error").map fun error => some (normalizeTokenError P s error .serverError)
        else pure none
      return ⟨false, normalized, status = .badRequest && normalized = some .invalidGrant, none⟩

/-- The warning of `token_endpoint_outcome`. -/
def warnUnexpected {F : Fernet τ} (endpoint : String) (status : Option HTTPStatus) (result : Document)
    (issue : Option String) : Action F Unit :=
  match issue with
  | none => .pure ()
  | some issue => log .warning "Unexpected token endpoint response" []
      [("endpoint", .text endpoint), ("status", .status status), ("issue", .text issue),
       ("result", .document result)]

/-- `token_endpoint_outcome` as `fetch` calls it, with a logger. -/
def tokenEndpointOutcome {F : Fernet τ} (endpoint : String) (status : Option HTTPStatus)
    (result : Document) : Action F TokenEndpointOutcome := do
  let issue ← liftPy (unexpectedTokenEndpointIssue s.retryStatusCodes status result)
  warnUnexpected endpoint status result issue
  liftPy (classify P s status result)

end

theorem normalizeTokenError_mem {τ : Type} (P : Platform τ) (s : FetchSettings) (error : Json)
    {fallback : OAuthError} (h : fallback ∈ tokenErrors) : normalizeTokenError P s error fallback ∈ tokenErrors := by
  unfold normalizeTokenError
  dsimp only
  generalize (match error with | .lone _ => fallback | error => resolveError s.errorTypes (P.str error) fallback) = error
  split
  · assumption
  · exact h

theorem normalizeError_ok (errorTypes : Std.ExtTreeMap String OAuthError) {code : Json}
    (scalar : code.hashable = true) {allowed : List OAuthError} {fallback : OAuthError} (h : fallback ∈ allowed) :
    ∃ e ∈ allowed, normalizeError errorTypes code allowed fallback = .ok e := by
  unfold normalizeError
  rw [if_pos scalar]
  refine ⟨_, ?_, rfl⟩
  generalize (match code with | .str code => resolveError errorTypes code fallback | _ => fallback) = error
  split
  · assumption
  · exact h

theorem tokenErrors_described : ∀ e ∈ tokenErrors, e.description?.isSome := by decide

theorem authorizationErrors_described : ∀ e ∈ authorizationErrors, e.description?.isSome := by decide

end OAuthClientBridge
