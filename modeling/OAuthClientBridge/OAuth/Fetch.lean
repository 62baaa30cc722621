import OAuthClientBridge.OAuth.Outcome

/-! `oauth/_core.py`: one exchange with the provider, with its retries. -/

namespace OAuthClientBridge
open Python Effect

def redactedLogValue : String := "<REDACTED>"

def allowedLogFields : List String :=
  ["client_id", "error", "error_description", "error_uri", "retry_after"]

def scrubRefreshToken (token : Payload) : Payload :=
  token.filter fun key _ => key ∉ ["access_token", "expires_in", "token_type"]

def sanitizeForLogging (payload : Payload) : Payload :=
  payload.map fun key value => if key ∈ allowedLogFields then value else .str redactedLogValue

/-- `bool(response)`, which is `response.ok`. -/
def UpstreamResponse.isOk (r : UpstreamResponse) : Bool := r.statusCode < 400 || 600 ≤ r.statusCode

/-- The description and the metric label that `_fetch` picks for an exception. -/
def FailureKind.describe : FailureKind → String × String
  | .connectTimeout => ("Request timed out while connecting to provider.", "connection_timeout")
  | .readTimeout => ("Request timed out while connecting to provider.", "read_timeout")
  | .timeout => ("Request timed out while connecting to provider.", "unknown_exception")
  | .sslError => ("An error occurred while connecting to the provider.", "ssl_error")
  | .proxyError => ("An error occurred while connecting to the provider.", "proxy_error")
  | .connectionError => ("An error occurred while connecting to the provider.", "connection_error")
  | .httpError | .other => ("An unknown error occurred while talking to provider.", "unknown_exception")

/-- The `status` that an exception carries into the outcome. -/
def failureStatus (response : Option UpstreamResponse) : Except PyError (Option HTTPStatus) :=
  match response with
  | some r => if r.isOk then (HTTPStatus.ofCode r.statusCode).map some else .ok none
  | none => .ok none

/-- Only an `HTTPError` has its `Retry-After` read. -/
def failureRetry (kind : FailureKind) (response : Option UpstreamResponse) : Except PyError Nat :=
  if kind = .httpError then
    match response with
    | some r => parseRetry r.receivedAt r.retryAfter
    | none => .error .attributeError
  else .ok 0

/-- The error object that `_decode` puts in place of a body that is not JSON. -/
def undecodableError (s : FetchSettings) (code : Nat) : Except PyError Payload :=
  if code ∈ s.unavailableStatusCodes.map HTTPStatus.code then
    OAuthError.temporarilyUnavailable.json (.str "Provider is unavailable.")
  else OAuthError.serverError.json (.str ("Unhandled provider error (HTTP " ++ toString code ++ ")."))

/-! ### The form -/

/-- The values that `_encode_params` takes one by one; of a `dict` it takes the names. -/
def formValues : Json → List Json
  | .arr items => items
  | .obj _ => []
  | v => [v]

/-- What `urlencode` goes through in a value that is not a text. -/
def formElements : Json → List Json
  | .arr items => items
  | _ => []

/-- `v.encode("utf-8")` for a text; the `str` of anything else escapes its surrogates. -/
def encodeText : Json → Except PyError Unit
  | .lone text => .error text.encodeError
  | _ => .ok ()

/-- `req.prepare()`: the texts are encoded first, and `urlencode` then encodes the elements of what is left. -/
def prepare (data : List (String × Json)) : Except PyError Unit := do
  let values := data.flatMap fun field => formValues field.2
  values.forM encodeText
  (values.flatMap formElements).forM encodeText

section
variable {τ : Type} {F : Fernet τ}

/-! ### The sources of delay -/

def uniform (low high : ℚ) : Action F ℚ := perform (.uniform low high)

def monotonic : Action F ℚ := perform .monotonic

def budgetConsume : Action F Bool := perform .budgetConsume

def send (uri : String) (data : List (String × Json)) (timeout : ℚ) : Action F Upstream :=
  perform (.send uri data timeout)

def jitterDelay (s : FetchSettings) (delay : ℚ) (preserveFloor : Bool) : Action F ℚ := do
  let lowerBound := if preserveFloor then max 1 s.backoffJitterMin else s.backoffJitterMin
  return delay * (← uniform lowerBound s.backoffJitterMax)

def sleep (seconds : ℚ) : Action F Unit :=
  if seconds < 0 then .throw (.python .valueError) else perform (.sleep seconds)

/-! ### One attempt -/

def decode (s : FetchSettings) (uri : String) (r : UpstreamResponse) : Action F Document :=
  match r.body with
  | .document d => .pure d
  | .undecodable => do
    emit .recordDecodeError
    log .warning "Fetching %r (HTTP %s, %s) failed: %s"
      [.text uri, .int r.statusCode, .text (r.contentType.getD "-")] []
    return .object (← liftPy (undecodableError s r.statusCode))

def fetchFailed (uri endpoint : String) (kind : FailureKind) (response : Option UpstreamResponse) :
    Action F (Document × Option HTTPStatus × Nat) := do
  emit (.recordFailure kind)
  emit (.spanEvent "Closing session to get new server" [])
  emit .closeSession
  let status ← liftPy (failureStatus response)
  log .warning "Fetching %r failed: %s" [.text uri, .failure kind] []
  let result ← liftPy (OAuthError.serverError.json (.str kind.describe.1))
  let retryAfter ← liftPy (failureRetry kind response)
  record (.clientResponse endpoint (.inr kind.describe.2))
  return (.object result, status, retryAfter)

/-- A retryable response closes the session, so that the next attempt reaches another server. -/
def resetSession (s : FetchSettings) (status : HTTPStatus) : Action F Unit :=
  if status ∈ s.retryStatusCodes then do
    emit (.spanEvent "Closing session to get new server" [])
    emit .closeSession
  else .pure ()

def fetchAnswered (s : FetchSettings) (uri endpoint : String) (r : UpstreamResponse) :
    Action F (Document × Option HTTPStatus × Nat) := do
  let result ← decode s uri r
  let status ← liftPy (HTTPStatus.ofCode r.statusCode)
  let retryAfter ← liftPy (parseRetry r.receivedAt r.retryAfter)
  resetSession s status
  record (.clientResponse endpoint (.inl status))
  return (result, some status, retryAfter)

/-- `_fetch(span, prepared, timeout, endpoint)`. -/
def fetchOnce (s : FetchSettings) (uri endpoint : String) (data : List (String × Json)) (timeout : ℚ) :
    Action F (Document × Option HTTPStatus × Nat) := do
  match ← send uri data (min s.timeout timeout) with
  | .response r => fetchAnswered s uri endpoint r
  | .failure kind response _ => fetchFailed uri endpoint kind response
  | .raised e _ => .throw (.python e)

/-! ### The retry loop -/

structure LoopState where
  retry : Nat := 0
  completedRetries : Nat := 0
  status : Option HTTPStatus := none
  pendingRetryDecision : Option RetryDecision := none
  result : Document

def attemptName (i : Nat) (uri : String) : String := "attempt #" ++ toString (i + 1) ++ " " ++ uri

def skipRetry (endpoint : String) (reason : RetryReason) (event message name : String) : Action F Unit := do
  record (.retryDecision endpoint ⟨.skip, reason⟩)
  emit (.spanEvent event [])
  log .debug message [.text name] []

def deadlineExceeded (endpoint name : String) : Action F Unit :=
  skipRetry endpoint .deadlineExceeded "No timeout remaining" "Abort %s no timeout remaining." name

/-- Sleep before the retry. `none` leaves the loop. -/
def sleepBeforeRetry (endpoint name : String) (deadline sleepFor : ℚ) (decision : RetryDecision) :
    Action F (Option (ℚ × Nat)) := do
  record (.retryDecision endpoint decision)
  emit (.spanEvent "Sleeping" [("duration", .number sleepFor)])
  log .debug "Retry %s [sleep %.3f]" [.text name, .number sleepFor] []
  sleep sleepFor
  let remaining := deadline - (← monotonic)
  if remaining ≤ 0 then do
    deadlineExceeded endpoint name
    return none
  else return some (remaining, 1)

/-- The block under `if pending_retry_decision is not None`. It returns the time left and the
retries it completed; `none` leaves the loop. -/
def admitRetry (s : FetchSettings) (endpoint name : String) (deadline remaining backoff : ℚ) (retry : Nat)
    (decision : RetryDecision) : Action F (Option (ℚ × Nat)) :=
  let delay : ℚ := if retry ≠ 0 then retry else backoff
  if delay > remaining then do
    deadlineExceeded endpoint name
    return none
  else if delay > 0 then do
    if ← budgetConsume then do
      let jittered ← jitterDelay s delay (retry > 0)
      let sleepFor := if retry ≠ 0 then max (retry : ℚ) jittered else jittered
      if sleepFor > remaining then do
        deadlineExceeded endpoint name
        return none
      else sleepBeforeRetry endpoint name deadline sleepFor decision
    else do
      skipRetry endpoint .resourceExhausted "Retry budget exhausted" "Abort %s retry budget exhausted." name
      return none
  else return some (remaining, 0)

def errorLabel (s : FetchSettings) (code : String) : String :=
  match s.errorTypes[code]? with
  | some e => e.value
  | none => match OAuthError.ofValue? code with
    | some e => e.value
    | none => "invalid_error"

def recordClientError (s : FetchSettings) (endpoint : String) (status : Option HTTPStatus)
    (error : OAuthError) : Action F Unit :=
  match status with
  | some status => record (.clientError endpoint status (errorLabel s error.value))
  | none => .pure ()

def retryableEvent (status : Option HTTPStatus) : Action F Unit :=
  match status with
  | none => emit (.spanEvent "Missing response" [])
  | some _ => emit (.spanEvent "Retryable response" [("status", .status status)])

/-- The branch of the loop for a retryable outcome; the loop goes on. -/
def retryable (s : FetchSettings) (endpoint name : String) (st : LoopState)
    (outcome : TokenEndpointOutcome) : Action F LoopState := do
  retryableEvent st.status
  let description := (← liftPy st.result.asDict).getOrNull "error_description"
  let error := outcome.normalizedError.getD .serverError
  let result ← liftPy (error.json description)
  recordClientError s endpoint st.status error
  log .debug "Result %s [status %s] [retry after %s]" [.text name, .status st.status, .int st.retry] []
  return { st with
    result := .object result
    pendingRetryDecision := some ⟨.retry, outcome.retryReason.getD .unknown⟩ }

/-- The branches of the loop that end it. -/
def conclude (st : LoopState) : Action F LoopState := do
  if st.status.any HTTPStatus.isSuccess then emit (.spanEvent "Success" [])
  else emit (.spanEvent "Aborted" [("status", .int ((st.status.map fun s => (s.code : Int)).getD (-1)))])
  return { st with pendingRetryDecision := none }

section
variable (P : Platform τ) (s : FetchSettings) (uri endpoint : String) (data : List (String × Json))

/-- The loop body from `_record_attempt` on. The flag says whether the loop goes on. -/
def attempt (name : String) (remaining : ℚ) (st : LoopState) : Action F (LoopState × Bool) := do
  record (.clientAttempt endpoint (if st.completedRetries > 0 then .retry else .initial))
  if remaining ≤ 0 then do
    deadlineExceeded endpoint name
    return (st, false)
  else do
    let (result, status, retry) ← fetchOnce s uri endpoint data remaining
    let outcome ← tokenEndpointOutcome P s endpoint status result
    let st := { st with result, status, retry }
    if outcome.retryable then return (← retryable s endpoint name st outcome, true)
    else return (← conclude st, false)

def iteration (deadline : ℚ) (i : Nat) (st : LoopState) : Action F (LoopState × Bool) := do
  let name := attemptName i uri
  let backoff := (2 ^ i - 1) * s.backoffFactor
  let remaining := deadline - (← monotonic)
  match st.pendingRetryDecision with
  | none => attempt P s uri endpoint data name remaining st
  | some decision =>
    match ← admitRetry s endpoint name deadline remaining backoff st.retry decision with
    | none => return (st, false)
    | some (remaining, completed) =>
      attempt P s uri endpoint data name remaining
        { st with completedRetries := st.completedRetries + completed, pendingRetryDecision := none }

def attemptsUsedUp (st : LoopState) : Action F LoopState := do
  match st.pendingRetryDecision with
  | some decision => record (.retryDecision endpoint ⟨.skip, decision.reason⟩)
  | none => .pure ()
  return st

/-- The loop with `n` iterations left, the next one being the `i`-th. -/
def retryLoop (deadline : ℚ) : Nat → Nat → LoopState → Action F LoopState
  | 0, _, st => attemptsUsedUp endpoint st
  | n + 1, i, st => do
    match ← iteration P s uri endpoint data deadline i st with
    | (st, true) => retryLoop deadline n (i + 1) st
    | (st, false) => return st

/-- `Retry-After` joins the error object only when there is something to wait for. -/
def withRetryAfter (retry : Nat) (result : Payload) : Payload :=
  if result.contains "error" && retry ≠ 0 then result.insert "retry_after" (.int retry) else result

/-- The two histograms and the counter: with metrics on, they hash the attributes. -/
def measure (error : Json) : Except PyError Unit :=
  if P.metered && error.truthy && !error.hashable then .error .typeError else .ok ()

def finishFetch (st : LoopState) : Action F Payload := do
  record (.clientRetries endpoint st.status st.completedRetries)
  let result ← liftPy st.result.asDict
  let error := result.getOrNull "error"
  if error.truthy then emit (.spanStatus [.document (.object result)]) else .pure ()
  emit (.spanAttribute "total_retries" (.int st.completedRetries))
  emit (.spanAttribute "operation" (.text endpoint))
  emit (.spanAttribute "final.result" (.text ((st.status.map upstreamResultForStatus).getD "timeout")))
  if st.status.isSome then emit (.spanAttribute "http.response.status_code" (.status st.status)) else .pure ()
  if error.truthy then emit (.spanAttribute "error.type" (.json error)) else .pure ()
  liftPy (measure P error)
  return withRetryAfter st.retry result

def unknownError : String := "An unknown error occurred talking to provider."

def fetch : Action F Payload := do
  liftPy (prepare data)
  perform (.budgetAdd s.retryBudgetRefillPerInitial)
  let deadline := (← monotonic) + s.totalTimeout
  let result ← liftPy (OAuthError.serverError.json (.str unknownError))
  let st ← retryLoop P s uri endpoint data deadline (s.totalRetries + 1).toNat 0 { result := .object result }
  finishFetch P endpoint st

end
end
end OAuthClientBridge
