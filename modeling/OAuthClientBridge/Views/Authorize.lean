import OAuthClientBridge.Utils.Uri
import OAuthClientBridge.Views.Callback

/-! `/`: remember the request in the session and send the user to the provider. -/

namespace OAuthClientBridge
open Python Effect

def requestedScopeIsAllowed (requestedScope : String) (allowedScopes : Option (List String)) : Bool :=
  match allowedScopes with
  | none => true
  | some allowed => (splitWords requestedScope.toList).all fun word => String.ofList word ∈ allowed

section
variable {τ : Type} (P : Platform τ)

/-- `oauth.redirect(uri, **params)`. -/
def redirect (uri : String) (params : UriParam) : Except PyError Response := do
  return ⟨302, [("Location", ← rewriteUri P uri params), ("Content-Type", "text/html; charset=utf-8")], .empty⟩

def authorize (s : Settings) (args : List (String × String)) : Action P.fernet Response :=
  let redirectUri := (args.lookup "redirect_uri").getD ""
  let scope := (args.lookup "scope").getD (" ".intercalate s.oauth.scopes)
  if redirectUri ≠ "" ∧ redirectUri ≠ s.oauth.redirectUri then
    errorPage s (.oauth .invalidRequest) "Wrong redirect_uri." none .null
  else if !requestedScopeIsAllowed scope s.oauth.allowedScopes then
    errorPage s (.oauth .invalidScope) "Requested scope is not allowed." none .null
  else do
    let state ← generateKey
    perform (.sessionSet "client_state" (args.lookup "state"))
    perform (.sessionSet "state" (some state.text))
    liftPy (redirect P s.oauth.authorizationUri
      [("client_id", s.oauth.clientId), ("response_type", "code"), ("redirect_uri", s.oauth.redirectUri),
       ("scope", scope), ("state", state.text)])

end

end OAuthClientBridge
