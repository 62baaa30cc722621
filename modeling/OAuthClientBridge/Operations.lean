import OAuthClientBridge.Effect.Program
import OAuthClientBridge.Settings
import OAuthClientBridge.Fernet

/-!
What a request asks of the world around it: clocks, the jitter draw, the retry budget, the
provider, the token table, fresh identifiers and keys, the session, and the telemetry sinks.
-/

namespace OAuthClientBridge
open Python Effect

structure ClientId where
  uuid : BitVec 128
  deriving DecidableEq

def ClientId.str (id : ClientId) : String :=
  let hex := (List.range 32).map fun i => Nat.digitChar (id.uuid.toNat / 16 ^ (31 - i) % 16)
  String.ofList (hex.take 8 ++ '-' :: (hex.drop 8).take 4 ++ '-' :: (hex.drop 12).take 4 ++
    '-' :: (hex.drop 16).take 4 ++ '-' :: hex.drop 20)

/-! ### The provider -/

inductive Body where
  | undecodable
  | document (d : Document)

structure UpstreamResponse where
  statusCode : Nat
  retryAfter : Option String := none
  contentType : Option String := none
  body : Body
  /-- `time.time()` when `parse_retry` reads it. -/
  receivedAt : ℚ := 0
  /-- `len(response.history)`: the redirects that were followed to it. -/
  redirects : Nat := 0

/-- The classes of `requests.exceptions` that `_fetch` tells apart. -/
inductive FailureKind where
  | connectTimeout | readTimeout | timeout | sslError | proxyError | connectionError | httpError | other
  deriving DecidableEq

/-- How one `session.send` ends: a response, a `RequestException` that may carry one, or another
exception. Redirects were followed before it ended. -/
inductive Upstream where
  | response (r : UpstreamResponse)
  | failure (kind : FailureKind) (response : Option UpstreamResponse) (redirects : Nat)
  | raised (e : PyError) (redirects : Nat)

/-- The HTTP requests of one `session.send`. -/
def Upstream.requests : Upstream → Nat
  | .response r => r.redirects + 1
  | .failure _ _ redirects | .raised _ redirects => redirects + 1

/-! ### Exceptions -/

/-- `oauth.Error`; `null` stands for `None`. -/
structure OAuthException where
  error : OAuthError
  description : Json
  uri : Json
  retryAfter : Json

inductive Exc where
  | oauth (e : OAuthException)
  | python (e : PyError)

/-! ### Telemetry -/

inductive RetryAttemptKind where
  | initial | retry
  deriving DecidableEq

inductive RetryDecisionAction where
  | retry | skip
  deriving DecidableEq

inductive RetryReason where
  | unavailable | resourceExhausted | deadlineExceeded | unknown
  deriving DecidableEq

structure RetryDecision where
  action : RetryDecisionAction
  reason : RetryReason
  deriving DecidableEq

/-- The counters and histograms; durations and sizes are left out. -/
inductive Metric where
  | clientAttempt (endpoint : String) (kind : RetryAttemptKind)
  | retryDecision (endpoint : String) (decision : RetryDecision)
  | clientError (endpoint : String) (status : HTTPStatus) (error : String)
  | clientRetries (endpoint : String) (status : Option HTTPStatus) (count : Nat)
  | clientResponse (endpoint : String) (status : HTTPStatus ⊕ String)
  | serverError (status : Nat) (error : String)
  | refreshTokenInvalidation (reason : String)
  | workaround (name : String)
  | tokenGrantAge (createdAt : Int)

inductive LogValue where
  | text (s : String)
  | int (n : Int)
  | number (q : ℚ)
  | json (v : Json)
  /-- A provider payload as it is, or its `str`. -/
  | document (d : Document)
  | names (keys : List String)
  | status (s : Option HTTPStatus)
  | failure (kind : FailureKind)

/-- What reaches a log, a span, a metric or a worker. Nothing in a response depends on these. -/
inductive Emission where
  | log (level : LogLevel) (event : String) (arguments : List LogValue)
      (fields : List (String × LogValue))
  | bindContext (key value : String)
  | spanEvent (name : String) (attributes : List (String × LogValue))
  | spanStatus (description : List LogValue)
  | spanAttribute (key : String) (value : LogValue)
  | recordFailure (kind : FailureKind)
  | recordDecodeError
  | recordException (e : Exc)
  | metric (m : Metric)
  | closeSession
  | requestRefresh

/-! ### The signature -/

structure Row (τ : Type) where
  token : Option τ
  createdAt : Option Int
  lastUpdatedAt : Option Int
  deriving DecidableEq

inductive InsertResult where
  | inserted | integrityError
  deriving DecidableEq

inductive Op (τ : Type) where
  | monotonic
  | utcnow
  | sleep (seconds : ℚ)
  | uniform (low high : ℚ)
  | budgetAdd (tokens : ℚ)
  | budgetConsume
  | send (uri : String) (data : List (String × Json)) (timeout : ℚ)
  | select (id : ClientId)
  | insert (id : ClientId) (token : τ) (now : Int)
  | update (id : ClientId) (token : Option τ) (now : Int)
  | generateKey
  | generateId
  | nonce
  | sessionPop (key : String)
  | sessionSet (key : String) (value : Option String)
  | emit (e : Emission)

section
variable {τ : Type} (F : Fernet τ)

abbrev Answer : Op τ → Type
  | .monotonic | .utcnow | .uniform _ _ => ℚ
  | .sleep _ | .budgetAdd _ | .sessionSet _ _ | .emit _ => Unit
  | .budgetConsume => Bool
  | .send _ _ _ => Upstream
  | .select _ => Option (Row τ)
  | .insert _ _ _ => InsertResult
  | .update _ _ _ => Nat
  | .generateKey => ClientSecret F
  | .generateId => ClientId
  | .nonce => Nonce
  | .sessionPop _ => Option String

abbrev bridge : Signature := ⟨Op τ, Answer F⟩

abbrev Action (α : Type) := Program (bridge F) Exc α

end

/-- `urllib.parse.SplitResult`. -/
structure SplitUri where
  scheme : String
  netloc : String
  path : String
  query : String
  fragment : String

/-- What the bridge takes from other packages and from the Python runtime, each part arbitrary. -/
structure Platform (τ : Type) where
  fernet : Fernet τ
  /-- `uuid.UUID(text)`, `none` where it raises `ValueError`. -/
  uuid : String → Option ClientId
  /-- `re.search(pattern, text)` finds a match. -/
  search : String → String → Bool
  /-- `repr` of a float, a list or a dict. -/
  repr : Json → String
  /-- `urllib.parse.urlsplit(uri)`, `none` where it raises `ValueError`. -/
  urlsplit : String → Option SplitUri
  urlunsplit : SplitUri → String
  /-- `urllib.parse.parse_qs(query, keep_blank_values=True)`, in the order of the `dict`. -/
  parseQs : String → List (String × List String)
  urlencode : List (String × String) → String
  /-- `TELEMETRY_COMPONENTS` has `metrics`, so a `MeterProvider` of the SDK takes the measurements. -/
  metered : Bool

def Platform.str {τ : Type} (P : Platform τ) : Json → String
  | .str s => s
  | .null => "None"
  | .bool true => "True"
  | .bool false => "False"
  | .int n => toString n
  | v => P.repr v

section
variable {τ : Type} {F : Fernet τ}

def perform (o : Op τ) : Action F (Answer F o) := Program.perform (S := bridge F) o

def emit (e : Emission) : Action F Unit := Program.perform (S := bridge F) (.emit e)

def log (level : LogLevel) (event : String) (arguments : List LogValue)
    (fields : List (String × LogValue)) : Action F Unit := emit (.log level event arguments fields)

def record (m : Metric) : Action F Unit := emit (.metric m)

/-- Raise an exception of Python itself, or go on. -/
def liftPy {α : Type} (r : Except PyError α) : Action F α :=
  match r with
  | .ok a => .pure a
  | .error e => .throw (.python e)

/-- `raise oauth.Error(error, description, uri, retry_after)`. -/
def raiseError {α : Type} (error : OAuthError) (description uri retryAfter : Json) : Action F α := do
  let description ← liftPy (error.describe description)
  .throw (.oauth ⟨error, description, uri, retryAfter⟩)

end
end OAuthClientBridge
