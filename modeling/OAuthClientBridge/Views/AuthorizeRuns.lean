import OAuthClientBridge.Views.Authorize
import OAuthClientBridge.Views.CallbackRuns

/-! The runs of `/`: it refuses the request, or draws a state, stores it and redirects. -/

namespace OAuthClientBridge
open Python Effect Program

variable {τ : Type} {P : Platform τ} {s : Settings} {args : List (String × String)}

def requestedScope (s : Settings) (args : List (String × String)) : String :=
  (args.lookup "scope").getD (" ".intercalate s.oauth.scopes)

/-- The request passes both of its checks. -/
def Permitted (s : Settings) (args : List (String × String)) : Prop :=
  ¬((args.lookup "redirect_uri").getD "" ≠ "" ∧ (args.lookup "redirect_uri").getD "" ≠ s.oauth.redirectUri) ∧
    requestedScopeIsAllowed (requestedScope s args) s.oauth.allowedScopes = true

/-- What the redirect adds to the query of the authorization URI. -/
def authorizeParams (s : Settings) (args : List (String × String)) (state : String) : UriParam :=
  [("client_id", s.oauth.clientId), ("response_type", "code"), ("redirect_uri", s.oauth.redirectUri),
   ("scope", requestedScope s args), ("state", state)]

inductive AuthorizeOp : Op τ → Prop where
  | generateKey : AuthorizeOp .generateKey
  | sessionSet (key : String) (value : Option String) : AuthorizeOp (.sessionSet key value)

/-- A fresh state, kept in the session with the client's own. -/
def remembered {F : Fernet τ} (args : List (String × String)) (state : ClientSecret F) : Trace (bridge F) :=
  [⟨.generateKey, state⟩, ⟨.sessionSet "client_state" (args.lookup "state"), ()⟩,
   ⟨.sessionSet "state" (some state.text), ()⟩]

inductive AuthorizeRun (P : Platform τ) (s : Settings) (args : List (String × String)) :
    Trace (bridge P.fernet) → Except Exc Response → Prop where
  | refused (error : OAuthError) (desc : String) (refuses : ¬Permitted s args) :
      AuthorizeRun P s args [] (raised (pageAnswer s (.oauth error) desc none .null))
  | stored (state : ClientSecret P.fernet) (permitted : Permitted s args) :
      AuthorizeRun P s args (remembered args state)
        (raised (redirect P s.oauth.authorizationUri (authorizeParams s args state.text)))

/-- The contract of `/`. -/
theorem authorize_ensures (P : Platform τ) (s : Settings) (args : List (String × String)) :
    (authorize P s args).Ensures Op.silent (fun _ o => AuthorizeOp o) (AuthorizeRun P s args) := by
  unfold authorize
  dsimp only
  split
  · rename_i foreign
    exact errorPage_ensures _ _ _ _ (.refused .invalidRequest _ fun permitted => permitted.1 foreign)
  rename_i own
  split
  · rename_i forbidden
    refine errorPage_ensures _ _ _ _ (.refused .invalidScope _ fun permitted => ?_)
    have allowed := permitted.2
    unfold requestedScope at allowed
    simp [allowed] at forbidden
  · rename_i allowed
    have permitted : Permitted s args := ⟨own, by simpa [requestedScope] using allowed⟩
    refine (ensures_perform rfl _).mpr ⟨.generateKey, fun state => ?_⟩
    refine (ensures_perform rfl _).mpr ⟨.sessionSet _ _, fun _ => ?_⟩
    refine (ensures_perform rfl _).mpr ⟨.sessionSet _ _, fun _ => ?_⟩
    exact (ensures_liftPy _).mpr (.stored state permitted)

end OAuthClientBridge
