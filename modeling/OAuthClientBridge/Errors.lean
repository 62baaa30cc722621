import OAuthClientBridge.Python.Json

namespace OAuthClientBridge
open Python

inductive OAuthError where
  | accessDenied | invalidClient | invalidGrant | invalidRequest | invalidScope | invalidState
  | invalidResponse | serverError | temporarilyUnavailable | unauthorizedClient
  | unsupportedGrantType | unsupportedResponseType
  deriving DecidableEq, Repr

namespace OAuthError

def value : OAuthError → String
  | accessDenied => "access_denied"
  | invalidClient => "invalid_client"
  | invalidGrant => "invalid_grant"
  | invalidRequest => "invalid_request"
  | invalidScope => "invalid_scope"
  | invalidState => "invalid_state"
  | invalidResponse => "invalid_response"
  | serverError => "server_error"
  | temporarilyUnavailable => "temporarily_unavailable"
  | unauthorizedClient => "unauthorized_client"
  | unsupportedGrantType => "unsupported_grant_type"
  | unsupportedResponseType => "unsupported_response_type"

def members : List OAuthError :=
  [accessDenied, invalidClient, invalidGrant, invalidRequest, invalidScope, invalidState, invalidResponse,
   serverError, temporarilyUnavailable, unauthorizedClient, unsupportedGrantType, unsupportedResponseType]

/-- `OAuthError(code)`, `none` where `code in OAuthError` is false. -/
def ofValue? (code : String) : Option OAuthError := members.find? fun e => e.value = code

/-- `_DESCRIPTIONS[self]`, `none` where the lookup raises `KeyError`. -/
def description? : OAuthError → Option String
  | invalidRequest => some ("The request is missing a required parameter, includes an invalid " ++
      "parameter value, includes a parameter more than once, or is otherwise malformed.")
  | invalidClient => some ("Client authentication failed (e.g., unknown client, no client " ++
      "authentication included, or unsupported authentication method).")
  | invalidGrant => some ("The provided authorization grant or refresh token is invalid, " ++
      "expired or revoked.")
  | unauthorizedClient => some "The client is not authorized to perform this action."
  | accessDenied => some "The resource owner or authorization server denied the request."
  | unsupportedResponseType => some ("The authorization server does not support obtaining an " ++
      "authorization code using this method.")
  | unsupportedGrantType => some "The authorization grant type is not supported by the authorization server."
  | invalidScope => some "The requested scope is invalid, unknown, or malformed."
  | serverError => some ("The server encountered an unexpected condition that prevented it " ++
      "from fulfilling the request.")
  | temporarilyUnavailable => some ("The server is currently unable to handle the request due to a " ++
      "temporary overloading or maintenance of the server.")
  | invalidState | invalidResponse => none

/-- `description or self.description`. -/
def describe (e : OAuthError) (description : Json) : Except PyError Json :=
  if description.truthy then .ok description
  else match e.description? with
    | some text => .ok (.str text)
    | none => .error .keyError

/-- `self.json(description)`. -/
def json (e : OAuthError) (description : Json) : Except PyError Payload := do
  return .ofList [("error", .str e.value), ("error_description", ← e.describe description)]

theorem ofValue?_value (e : OAuthError) : ofValue? e.value = some e := by cases e <;> decide

theorem value_injective {a b : OAuthError} (h : a.value = b.value) : a = b :=
  Option.some.inj ((ofValue?_value a).symm.trans ((congrArg ofValue? h).trans (ofValue?_value b)))

/-- Only the two errors that the bridge itself words have no stock description. -/
theorem describe_ok {e : OAuthError} (stock : e.description?.isSome) (description : Json) :
    ∃ d, e.describe description = .ok d := by
  obtain ⟨text, h⟩ := Option.isSome_iff_exists.mp stock
  unfold describe
  split
  · exact ⟨_, rfl⟩
  · exact ⟨.str text, by rw [h]⟩

theorem json_eq {e : OAuthError} {text : String} (stock : e.description? = some text) (description : Json) :
    e.json description = .ok (.ofList [("error", Json.str e.value),
      ("error_description", if description.truthy then description else .str text)]) := by
  unfold json describe
  rw [stock]
  split <;> rfl

end OAuthError
end OAuthClientBridge
