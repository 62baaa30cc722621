import OAuthClientBridge.Db
import OAuthClientBridge.OAuth.Fetch

/-! Responses, the renderers of errors, and the hooks that the application puts around a view. -/

namespace OAuthClientBridge
open Python Effect

structure PageVariables where
  clientId : Option String := none
  clientSecret : Option String := none
  state : Option String := none
  error : Option String := none
  description : Option String := none
  deriving DecidableEq

/-- A page is the template with its variables; its text is a function of the two. -/
inductive ResponseBody where
  | json (d : Document)
  | page (template : String) (context : PageVariables)
  | empty

structure Response where
  status : Nat
  headers : List (String × String)
  body : ResponseBody

def Response.withHeader (r : Response) (name value : String) : Response :=
  { r with headers := r.headers ++ [(name, value)] }

def jsonify (status : Nat) (d : Document) : Response := ⟨status, [("Content-Type", "application/json")], .json d⟩

def nocache (r : Response) : Response :=
  if r.headers.any (·.1 = "Cache-Control") then r
  else (r.withHeader "Cache-Control" "no-store").withHeader "Pragma" "no-cache"

def securityHeaders (s : Settings) : List (String × String) :=
  [("Referrer-Policy", "no-referrer"), ("X-Content-Type-Options", "nosniff"),
   ("Permissions-Policy", "geolocation=(), microphone=(), camera=()")] ++
  match s.callbackContentSecurityPolicy with
  | some "" | none => []
  | some policy => [("Content-Security-Policy", policy)]

def render (s : Settings) (status : Nat) (context : PageVariables) : Response :=
  ⟨status, ("Content-Type", "text/html; charset=UTF-8") :: securityHeaders s,
   .page s.callbackTemplate context⟩

section
variable {τ : Type} {F : Fernet τ}

/-- The `Retry-After` header that both renderers set, where the status is 503. -/
def setRetryAfter (r : Response) (retryAfter : Json) : Except PyError Response :=
  match retryAfter with
  | .null => .ok r
  | value => value.toInt.map fun seconds => r.withHeader "Retry-After" (toString seconds)

/-! ### JSON errors -/

def errorStatus (e : OAuthError) : Nat :=
  if e = .invalidClient then 401 else if e = .temporarilyUnavailable then 503 else 400

def errorBody (e : OAuthException) : Payload :=
  let result : Payload := .ofList [("error", .str e.error.value), ("error_description", e.description)]
  match e.uri with
  | .null => result
  | uri => result.insert "error_uri" uri

def errorResponse (s : Settings) (e : OAuthException) : Except PyError Response :=
  let response := jsonify (errorStatus e.error) (.object (errorBody e))
  if e.error = .invalidClient then
    .ok (response.withHeader "WWW-Authenticate" ("Basic realm=\"" ++ s.authRealm ++ "\""))
  else if e.error = .temporarilyUnavailable then setRetryAfter response e.retryAfter
  else .ok response

def errorHandler (s : Settings) (e : OAuthException) : Action F Response := do
  let response ← liftPy (errorResponse s e)
  emit (.spanAttribute "error.unhandled" (.text "False"))
  emit (.spanAttribute "oauth.error" (.text e.error.value))
  emit (.bindContext "oauth_error" e.error.value)
  emit (.recordException (.oauth e))
  emit (.spanStatus [.text e.error.value, .json e.description])
  record (.serverError response.status e.error.value)
  return response

/-- `fallback_error_handler(e)`, the answer to every exception that nothing else handles. -/
def fallbackErrorHandler (e : Exc) : Action F Response := do
  record (.serverError 500 OAuthError.serverError.value)
  emit (.spanAttribute "error.unhandled" (.text "True"))
  emit (.recordException e)
  emit (.spanStatus [])
  let body ← liftPy (OAuthError.serverError.json .null)
  return jsonify 500 (.object body)

/-- The handler registered for `oauth.Error`. -/
def handleError (s : Settings) : Exc → Action F Response
  | .oauth e => errorHandler s e
  | .python e => .throw (.python e)

/-- A view with the error handlers for `oauth.Error`. It raises what the source leaves unhandled. -/
def handled (s : Settings) (view : Action F Response) : Action F Response := view.tryCatch (handleError s)

/-- A view as the application serves it. -/
def serve (s : Settings) (view : Action F Response) : Action F Response := do
  return nocache (← (handled s view).tryCatch fallbackErrorHandler)

/-! ### Error pages -/

/-- An error of the callback: a member of `OAuthError`, or a plain string. -/
inductive PageError where
  | oauth (e : OAuthError)
  | text (code : String)

namespace PageError

def code : PageError → String
  | oauth e => e.value
  | text code => code

def status (e : PageError) : Nat :=
  if e.code = OAuthError.invalidClient.value then 401
  else if e.code = OAuthError.temporarilyUnavailable.value then 503 else 400

/-- The `description` that `_error` shows. -/
def describe : PageError → String → Except PyError String
  | oauth e, description =>
    if description ≠ "" then .ok description
    else match e.description? with
      | some stock => .ok stock
      | none => .error .keyError
  | text _, description => .ok description

end PageError

/-- The last step of `_error`. -/
def pageRetryAfter (r : Response) (retryAfter : Json) : Except PyError Response :=
  if r.status = 503 then setRetryAfter r retryAfter else .ok r

/-- `_error(error, description, state, retry_after)`. -/
def errorPage (s : Settings) (error : PageError) (description : String) (state : Option String)
    (retryAfter : Json) : Action F Response := do
  let description ← liftPy (error.describe description)
  emit (.spanStatus [.text error.code, .text description])
  emit (.spanEvent "error" [("exception.message", .text (error.code ++ ": " ++ description)),
    ("exception.type", .text error.code)])
  record (.serverError error.status error.code)
  liftPy (pageRetryAfter
    (render s error.status { state, error := some error.code, description := some description }) retryAfter)

end
end OAuthClientBridge
