import OAuthClientBridge.Views.Served
import OAuthClientBridge.Views.Token

/-! The runs of `/token`: which operations it performs when, and how it ends. -/

namespace OAuthClientBridge
open Python Effect Program

variable {τ : Type} {P : Platform τ} {s : Settings} {req : TokenRequest}

def Presents (P : Platform τ) (req : TokenRequest) (c : ClientCredentials P.fernet) : Prop :=
  ∃ id secret, presentedCredentials req = .ok (id, secret) ∧ validateCredentials P id secret = .ok c

def credentialError (P : Platform τ) (req : TokenRequest) : Exc :=
  match presentedCredentials req with
  | .error (error, description) => oauthError error (.str description) .null .null
  | .ok (id, secret) =>
    match validateCredentials P id secret with
    | .error .clientId => oauthError .invalidClient (.str "Malformed client_id.") .null .null
    | .error .clientSecret => oauthError .invalidClient (.str clientNotKnown) .null .null
    | .error (.credential message) => oauthError .invalidClient (.str message) .null .null
    | .ok _ => oauthError .invalidClient (.str clientNotKnown) .null .null

def notKnown : Exc := oauthError .invalidClient (.str clientNotKnown) .null .null

section Outcome
variable (P s)

/-- The view's second classification of what `fetch` returned. -/
def secondOutcome (refreshed : Payload) : TokenEndpointOutcome :=
  objectOutcome P s.fetch (assumedStatus refreshed) refreshed

def refreshError (refreshed : Payload) : Exc :=
  oauthError ((secondOutcome P s refreshed).normalizedError.getD .serverError)
    (refreshed.getOrNull "error_description") (refreshed.getOrNull "error_uri") (refreshed.getOrNull "retry_after")

def revokedAnswer (userAgent : String) : Except Exc Response :=
  match revokedGrantWorkaround P s userAgent with
  | some payload => .ok (jsonify 200 (.object payload))
  | none => .error (oauthError .invalidGrant (.str "Grant has been revoked.") .null .null)

/-- The payload is a token that the view takes. -/
def Accepted (result : Payload) : Prop := result.contains "error" = false ∧ validateToken result = true

theorem Accepted.noError {result : Payload} (h : Accepted result) : result["error"]? = none := by
  have absent := h.1
  rwa [Std.ExtTreeMap.contains_eq_isSome_getElem?, Option.isSome_eq_false_iff, Option.isNone_iff_eq_none] at absent

/-- What the view does with the payload that `fetch` returned. -/
inductive Refreshed (c : ClientCredentials P.fernet) (stored refreshed : Payload) :
    Trace (bridge P.fernet) → Except Exc Response → Prop where
  | revoked (now : Int) (n : Nat) (failed : refreshed.contains "error" = true)
      (invalid : (secondOutcome P s refreshed).invalidateRefreshToken = true) :
      Refreshed c stored refreshed [⟨.update c.clientId none now, n⟩] (.error (refreshError P s refreshed))
  | failed (failed : refreshed.contains "error" = true)
      (valid : (secondOutcome P s refreshed).invalidateRefreshToken = false) :
      Refreshed c stored refreshed [] (.error (refreshError P s refreshed))
  | invalid (noError : refreshed.contains "error" = false) (invalid : validateToken refreshed = false) :
      Refreshed c stored refreshed []
        (.error (oauthError .invalidRequest (.str "Invalid response from provider.") .null .null))
  | unchanged (accepted : Accepted refreshed) (same : tokenChanged stored refreshed = false) :
      Refreshed c stored refreshed [] (.ok (jsonify 200 (.object (refreshedToken stored refreshed))))
  | updated (nonce : Nonce) (now : Int) (n : Nat) (accepted : Accepted refreshed)
      (changed : tokenChanged stored refreshed = true) :
      Refreshed c stored refreshed
        [⟨.nonce, nonce⟩, ⟨.update c.clientId
          (some (P.fernet.encrypt c.clientSecret.key nonce (modifiedToken stored refreshed))) now, n⟩]
        (.ok (jsonify 200 (.object (refreshedToken stored refreshed))))

end Outcome

/-- The row opens under the presented secret, and holds the document. -/
def Opens (c : ClientCredentials P.fernet) (row : Row τ) (stored : Document) : Prop :=
  ∃ token, (row.record P.fernet c.clientId).encryptedToken = some token ∧
    loads c.clientSecret token = some stored

/-- Everything else in the form is a text. -/
theorem prepare_refreshExchange (s : Settings) (refreshToken : Json) :
    prepare (refreshExchange s refreshToken) = prepare [("refresh_token", refreshToken)] :=
  rfl

/-- The stored refresh token can be sent. -/
def Sendable (s : Settings) (stored : Payload) : Prop :=
  prepare (refreshExchange s (stored.getOrNull "refresh_token")) = .ok ()

/-- The request may refresh the stored grant: it read it, and did nothing since but ask the provider. -/
def Granted (P : Platform τ) (s : Settings) (req : TokenRequest) (c : ClientCredentials P.fernet)
    (stored : Payload) (t : Trace (bridge P.fernet)) : Prop :=
  ∃ row tf, Presents P req c ∧ Opens c row (.object stored) ∧ stored.contains "refresh_token" = true ∧
    FetchTrace (refreshUri s) (refreshExchange s (stored.getOrNull "refresh_token")) tf ∧
    t = ⟨.select c.clientId, some row⟩ :: tf

/-- The operations of `/token`, each with what came before it. -/
inductive TokenOp (P : Platform τ) (s : Settings) (req : TokenRequest) :
    Trace (bridge P.fernet) → Op τ → Prop where
  | select {c : ClientCredentials P.fernet} (presents : Presents P req c) :
      TokenOp P s req [] (.select c.clientId)
  | send {c : ClientCredentials P.fernet} {stored : Payload} {t : Trace (bridge P.fernet)} {k : Settled} (w : ℚ)
      (granted : Granted P s req c stored t) (before : Retrying P s.fetch unknownResult (seen t) k) :
      TokenOp P s req t
        (.send (refreshUri s) (refreshExchange s (stored.getOrNull "refresh_token")) w)
  | draw {c : ClientCredentials P.fernet} {stored : Payload} {t : Trace (bridge P.fernet)} (low high : ℚ)
      (granted : Granted P s req c stored t) : TokenOp P s req t (.uniform low high)
  | revoke {c : ClientCredentials P.fernet} {stored refreshed : Payload} {t : Trace (bridge P.fernet)} (now : Int)
      (granted : Granted P s req c stored t) (returned : Returned P s.fetch (seen t) refreshed)
      (failed : refreshed.contains "error" = true)
      (invalid : (secondOutcome P s refreshed).invalidateRefreshToken = true) :
      TokenOp P s req t (.update c.clientId none now)
  | nonce {c : ClientCredentials P.fernet} {stored refreshed : Payload} {t : Trace (bridge P.fernet)}
      (granted : Granted P s req c stored t) (returned : Returned P s.fetch (seen t) refreshed)
      (accepted : Accepted refreshed) : TokenOp P s req t .nonce
  | update {c : ClientCredentials P.fernet} {stored refreshed : Payload} {t : Trace (bridge P.fernet)}
      (nonce : Nonce) (now : Int) (granted : Granted P s req c stored t)
      (returned : Returned P s.fetch (seen t) refreshed) (accepted : Accepted refreshed)
      (changed : tokenChanged stored refreshed = true) :
      TokenOp P s req (t ++ [⟨.nonce, nonce⟩]) (.update c.clientId
        (some (P.fernet.encrypt c.clientSecret.key nonce (modifiedToken stored refreshed))) now)

inductive TokenRun (P : Platform τ) (s : Settings) (req : TokenRequest) :
    Trace (bridge P.fernet) → Except Exc Response → Prop where
  | unauthenticated (absent : ∀ c, ¬Presents P req c) : TokenRun P s req [] (.error (credentialError P req))
  | missing {c : ClientCredentials P.fernet} (presents : Presents P req c) :
      TokenRun P s req [⟨.select c.clientId, none⟩] (.error notKnown)
  | revoked {c : ClientCredentials P.fernet} {row : Row τ} (presents : Presents P req c)
      (null : (row.record P.fernet c.clientId).encryptedToken = none) :
      TokenRun P s req [⟨.select c.clientId, some row⟩] (revokedAnswer P s req.userAgent)
  | wrongSecret {c : ClientCredentials P.fernet} {row : Row τ} {token : τ} (presents : Presents P req c)
      (live : (row.record P.fernet c.clientId).encryptedToken = some token)
      (wrong : loads c.clientSecret token = none) :
      TokenRun P s req [⟨.select c.clientId, some row⟩] (.error notKnown)
  | stored {c : ClientCredentials P.fernet} {row : Row τ} {stored : Document} (presents : Presents P req c)
      (opens : Opens c row stored) (noRefresh : stored.has "refresh_token" = .ok false) :
      TokenRun P s req [⟨.select c.clientId, some row⟩] (.ok (jsonify 200 stored))
  | malformed {c : ClientCredentials P.fernet} {row : Row τ} {v : NonObject} {e : PyError}
      (presents : Presents P req c) (opens : Opens c row (.other v)) :
      TokenRun P s req [⟨.select c.clientId, some row⟩] (.error (.python e))
  | raised {c : ClientCredentials P.fernet} {stored : Payload} {t : Trace (bridge P.fernet)} {p : PyError}
      (granted : Granted P s req c stored t)
      (raises : FetchRaised P s.fetch (refreshExchange s (stored.getOrNull "refresh_token")) (seen t) p) :
      TokenRun P s req t (.error (.python p))
  | refreshed {c : ClientCredentials P.fernet} {stored refreshed : Payload} {t t' : Trace (bridge P.fernet)}
      {r : Except Exc Response} (granted : Granted P s req c stored t)
      (returned : Returned P s.fetch (seen t) refreshed) (ends : Refreshed P s c stored refreshed t' r)
      (sendable : Sendable s stored) :
      TokenRun P s req (t ++ t') r

/-! ### The contract, function by function -/

section Contract
variable {β : Type} {Φ : Trace (bridge P.fernet) → Op τ → Prop}
  {Q : Trace (bridge P.fernet) → Except Exc Response → Prop}

theorem authenticate_bind_ensures {f : ClientCredentials P.fernet → Action P.fernet Response}
    (error : (∀ c, ¬Presents P req c) → Q [] (.error (credentialError P req)))
    (next : ∀ c, Presents P req c → (f c).Ensures Op.silent Φ Q) :
    (authenticate P req >>= f).Ensures Op.silent Φ Q := by
  unfold authenticate
  cases hp : presentedCredentials req with
  | error e =>
    have absent : ∀ c, ¬Presents P req c := by
      rintro c ⟨id, secret, presented, _⟩
      cases hp.symm.trans presented
    simpa [raiseError_eq, credentialError, hp] using error absent
  | ok presented =>
    obtain ⟨id, secret⟩ := presented
    cases hv : validateCredentials P id secret with
    | error e =>
      have absent : ∀ c, ¬Presents P req c := by
        rintro c ⟨id', secret', presented, valid⟩
        obtain ⟨rfl, rfl⟩ : id = id' ∧ secret = secret' := by simpa using hp.symm.trans presented
        cases hv.symm.trans valid
      have failed := error absent
      cases e with
      | clientId => cases id <;> simpa [raiseError_eq, credentialError, hp, hv, recordInvalidClientId] using failed
      | clientSecret | credential message => simpa [raiseError_eq, credentialError, hp, hv] using failed
    | ok c => simpa [setClientId, hv] using next c ⟨id, secret, hp, hv⟩

theorem update_bind_ensures {F : Fernet τ} {Φ : Trace (bridge F) → Op τ → Prop} {α : Type}
    {Q : Trace (bridge F) → Except Exc α → Prop} (id : ClientId) (token : Option τ)
    {f : Nat → Action F α} (may : ∀ now, Φ [] (.update id token now))
    (next : ∀ now n, (f n).Ensures Op.silent (fun t => Φ (⟨.update id token now, n⟩ :: t))
      (fun t => Q (⟨.update id token now, n⟩ :: t))) :
    (Db.update id token >>= f).Ensures Op.silent Φ Q := by
  unfold Db.update
  simp only [Program.bind_assoc]
  refine (ensures_perform_silent rfl _).mpr fun now => (ensures_perform rfl _).mpr ⟨may _, fun n => ?_⟩
  simp only [ensures_emit]
  split <;> simpa using next (prepareTimestamp now) n

theorem refreshFailed_ensures (c : ClientCredentials P.fernet) (stored : Payload) {refreshed : Payload}
    (failed : refreshed.contains "error" = true)
    (may : ∀ now, (secondOutcome P s refreshed).invalidateRefreshToken = true → Φ [] (.update c.clientId none now)) :
    (refreshFailed c.clientId refreshed (secondOutcome P s refreshed) : Action P.fernet Response).Ensures
      Op.silent Φ (fun t r => Refreshed P s c stored refreshed t r) := by
  unfold refreshFailed noteFailedRefresh
  cases invalid : (secondOutcome P s refreshed).invalidateRefreshToken
  · simp only [raiseError_eq, Bool.false_eq_true, if_false]
    split <;> simpa [refreshError] using Refreshed.failed failed invalid
  · simp only [if_true, Program.bind_assoc, raiseError_eq]
    refine update_bind_ensures c.clientId none (fun now => may now invalid) (fun now n => ?_)
    simpa [refreshError] using Refreshed.revoked now n failed invalid

theorem refreshSucceeded_ensures (s : Settings) (c : ClientCredentials P.fernet) (createdAt : Option Int)
    {stored refreshed : Payload} (noError : refreshed.contains "error" = false)
    (mayDraw : Accepted refreshed → Φ [] .nonce)
    (mayStore : ∀ nonce now, Accepted refreshed → tokenChanged stored refreshed = true →
      Φ [⟨.nonce, nonce⟩] (.update c.clientId
        (some (P.fernet.encrypt c.clientSecret.key nonce (modifiedToken stored refreshed))) now)) :
    (refreshSucceeded c createdAt stored refreshed : Action P.fernet Response).Ensures Op.silent Φ
      (fun t r => Refreshed P s c stored refreshed t r) := by
  unfold refreshSucceeded updateGrant
  cases valid : validateToken refreshed
  · simpa [raiseError_eq] using Refreshed.invalid noError valid
  · have accepted : Accepted refreshed := ⟨noError, valid⟩
    cases changed : tokenChanged stored refreshed
    · cases createdAt <;> simpa [observeTokenGrantAge] using Refreshed.unchanged accepted changed
    · simp only [if_true, Program.bind_assoc, ensures_log, ensures_emit, dumps]
      refine (ensures_perform rfl _).mpr ⟨mayDraw accepted, fun nonce => ?_⟩
      simp only [pure_eq, pure_bind]
      refine update_bind_ensures c.clientId _ (fun now => mayStore nonce now accepted changed) (fun now n => ?_)
      cases createdAt <;>
        simpa [observeTokenGrantAge] using Refreshed.updated nonce now n accepted changed

theorem refreshGrant_ensures {c : ClientCredentials P.fernet} {row : Row τ} {stored : Payload}
    (presents : Presents P req c) (opens : Opens c row (.object stored))
    (refreshable : stored.contains "refresh_token" = true) (createdAt : Option Int) :
    (refreshGrant P s c createdAt stored).Ensures Op.silent
      (fun t => TokenOp P s req (⟨.select c.clientId, some row⟩ :: t))
      (fun t => TokenRun P s req (⟨.select c.clientId, some row⟩ :: t)) := by
  have granted : ∀ t, FetchTrace (refreshUri s) (refreshExchange s (stored.getOrNull "refresh_token")) t →
      Granted P s req c stored (⟨.select c.clientId, some row⟩ :: t) :=
    fun t trace => ⟨row, t, presents, opens, refreshable, trace, rfl⟩
  unfold refreshGrant
  refine fetch_bind_ensures (fun t low high trace => .draw low high (granted t trace))
    (fun t w k trace before => .send w (granted t trace) before)
    (fun t p trace raises => .raised (granted t trace) raises) (fun t refreshed trace prepared returned => ?_)
  simp only [classify_object, liftPy_ok_bind]
  have grant := granted t trace
  cases failed : refreshed.contains "error"
  · simp only [Bool.false_eq_true, if_false]
    refine (refreshSucceeded_ensures s c createdAt failed (fun accepted => ?_)
      (fun nonce now accepted changed => ?_)).mono (fun _ _ h => h) (fun t' r ends => ?_)
    · simpa using TokenOp.nonce grant returned accepted
    · simpa using TokenOp.update nonce now grant returned accepted changed
    · exact .refreshed grant returned ends prepared
  · simp only [if_true]
    refine (refreshFailed_ensures c stored failed (fun now invalid => ?_)).mono (fun _ _ h => h) (fun t' r ends => ?_)
    · simpa using TokenOp.revoke now grant returned failed invalid
    · exact .refreshed grant returned ends prepared

theorem serveGrant_ensures {c : ClientCredentials P.fernet} {row : Row τ} {stored : Document}
    (presents : Presents P req c) (opens : Opens c row stored) (createdAt : Option Int) :
    (serveGrant P s c createdAt stored).Ensures Op.silent
      (fun t => TokenOp P s req (⟨.select c.clientId, some row⟩ :: t))
      (fun t => TokenRun P s req (⟨.select c.clientId, some row⟩ :: t)) := by
  unfold serveGrant
  cases has : stored.has "refresh_token" with
  | error e =>
    cases stored with
    | object p => cases has
    | other v => exact .malformed presents opens
  | ok refreshable =>
    cases refreshable
    · cases createdAt <;> simpa [observeTokenGrantAge] using TokenRun.stored presents opens has
    · cases stored with
      | object p => exact refreshGrant_ensures presents opens (by simpa using has) createdAt
      | other v => exact .malformed presents opens

/-- The contract of `/token`. -/
theorem token_ensures (P : Platform τ) (s : Settings) (req : TokenRequest) :
    (token P s req).Ensures Op.silent (TokenOp P s req) (TokenRun P s req) := by
  unfold token
  refine authenticate_bind_ensures .unauthenticated fun c presents => ?_
  unfold Db.lookup
  simp only [Program.bind_assoc]
  refine (ensures_perform rfl _).mpr ⟨.select presents, fun row => ?_⟩
  cases row with
  | none => simpa [raiseError_eq, notKnown] using TokenRun.missing presents
  | some row =>
    simp only [Option.map_some, pure_eq, Program.pure_bind]
    cases null : (row.record P.fernet c.clientId).encryptedToken with
    | none =>
      unfold revokedGrant
      have ends : TokenRun P s req _ _ := .revoked presents null
      unfold revokedAnswer at ends
      cases hw : revokedGrantWorkaround P s req.userAgent <;> simpa [raiseError_eq, hw] using ends
    | some token =>
      cases opened : loads c.clientSecret token with
      | none =>
        have ends : TokenRun P s req _ _ := .wrongSecret presents null opened
        simpa [raiseError_eq, notKnown, opened] using ends
      | some stored =>
        simp only [opened]
        exact serveGrant_ensures presents ⟨token, null, opened⟩ _

end Contract
end OAuthClientBridge
