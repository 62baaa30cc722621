import OAuthClientBridge.Errors
import OAuthClientBridge.HttpStatus

/-! The settings that the modelled code reads, with their defaults. Floats are exact rationals. -/

namespace OAuthClientBridge
open Python

inductive LogLevel where
  | critical | error | warning | info | debug
  deriving DecidableEq

/-- The codes that both status settings list by default. -/
def transientCodes : List HTTPStatus :=
  [.tooManyRequests, .badGateway, .serviceUnavailable, .gatewayTimeout]

structure FetchSettings where
  totalTimeout : ℚ := 20
  timeout : ℚ := 5
  totalRetries : Int := 3
  retryBudgetCapacity : Int := 8
  retryBudgetRefillPerInitial : ℚ := 1 / 4
  retryStatusCodes : List HTTPStatus := transientCodes
  unavailableStatusCodes : List HTTPStatus := transientCodes
  errorTypes : Std.ExtTreeMap String OAuthError :=
    .ofList [("errorTransient", OAuthError.temporarilyUnavailable)]
  backoffFactor : ℚ := 1 / 10
  backoffJitterMin : ℚ := 3 / 4
  backoffJitterMax : ℚ := 5 / 4

structure OAuthSettings where
  clientId : String
  clientSecret : String
  grantType : String := "refresh_token"
  /-- The configured set, in the order Python iterates it. -/
  scopes : List String := []
  allowedScopes : Option (List String) := none
  authorizationUri : String
  tokenUri : String
  refreshUri : Option String := none
  redirectUri : String := "http://localhost:5000/callback"

structure Settings where
  authRealm : String := "oauthclientbridge"
  callbackTemplate : String
  callbackContentSecurityPolicy : Option String := some
    "default-src 'none'; form-action 'self'; base-uri 'none'; frame-ancestors 'none'"
  errorLevels : Std.ExtTreeMap String LogLevel := .ofList
    [("access_denied", LogLevel.info), ("invalid_state", LogLevel.warning),
     ("invalid_request", LogLevel.warning), ("temporarily_unavailable", LogLevel.info)]
  revokedGrantWorkaroundUserAgents : Option String := none
  revokedGrantWorkaroundAccessToken : String := "OAUTHCLIENTBRIDGE_REVOKED_GRANT_WORKAROUND"
  revokedGrantWorkaroundExpiresIn : Int := 300
  oauth : OAuthSettings
  fetch : FetchSettings := {}

end OAuthClientBridge
