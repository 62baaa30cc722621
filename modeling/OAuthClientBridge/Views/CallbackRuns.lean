import OAuthClientBridge.Views.Served
import OAuthClientBridge.Views.Callback

/-! The runs of `/callback`: which operations it performs when, and how it ends. -/

namespace OAuthClientBridge
open Python Effect Program

variable {τ : Type} {P : Platform τ} {s : Settings} {args : List (String × String)}

def pageAnswer (s : Settings) (error : PageError) (description : String) (state : Option String)
    (retryAfter : Json) : Except PyError Response := do
  let description ← error.describe description
  pageRetryAfter (render s error.status { state, error := some error.code, description := some description })
    retryAfter

theorem PageError.status_unavailable {error : PageError} :
    error.status = 503 ↔ error.code = OAuthError.temporarilyUnavailable.value := by
  unfold PageError.status
  by_cases client : error.code = OAuthError.invalidClient.value
  · rw [if_pos client, client]
    decide
  · rw [if_neg client]
    split <;> simp [*]

theorem pageAnswer_cases (s : Settings) {error : PageError} {description shown : String}
    (described : error.describe description = .ok shown) (state : Option String) (retryAfter : Json) :
    ((error.code = OAuthError.temporarilyUnavailable.value → HeaderReady retryAfter) ∧
        ∃ r, pageAnswer s error description state retryAfter = .ok r ∧ r.status = error.status ∧
          ∃ context, r.body = .page s.callbackTemplate context ∧ context.error = some error.code) ∨
      ¬(error.code = OAuthError.temporarilyUnavailable.value → HeaderReady retryAfter) ∧
        ∃ p, pageAnswer s error description state retryAfter = .error p := by
  simp only [pageAnswer, described, ok_bind, pageRetryAfter]
  generalize hr : render s error.status _ = page
  have status : page.status = error.status := hr ▸ rfl
  have body : ∃ context, page.body = .page s.callbackTemplate context ∧ context.error = some error.code :=
    ⟨{ state, error := some error.code, description := some shown }, hr ▸ rfl, rfl⟩
  rw [← PageError.status_unavailable, status]
  split
  · rename_i unavailable
    rcases setRetryAfter_ready page retryAfter with ⟨ready, r, set, status', same⟩ | ⟨unready, p, set⟩
    · exact .inl ⟨fun _ => ready, r, set, status'.trans status, by rw [same]; exact body⟩
    · exact .inr ⟨fun imp => unready (imp unavailable), p, set⟩
  · rename_i available
    exact .inl ⟨fun h => absurd h available, page, rfl, status, body⟩

def issuedPage (s : Settings) (clientId : ClientId) {F : Fernet τ} (clientSecret : ClientSecret F)
    (clientState : Option String) : Response :=
  render s 200
    { clientId := some clientId.str, clientSecret := some clientSecret.text, state := clientState }

/-- What `/callback` has done before the exchange: it took both values out of the session. -/
def popped {F : Fernet τ} (clientState state : Option String) : Trace (bridge F) :=
  [⟨.sessionPop "client_state", clientState⟩, ⟨.sessionPop "state", state⟩]

/-- The request passed its validation, and the view did nothing since but ask the provider. -/
def Checked {F : Fernet τ} (s : Settings) (args : List (String × String)) (clientState : Option String)
    (code : String) (t : Trace (bridge F)) : Prop :=
  ∃ state tf, callbackCheck s args state = .ok (.ok code) ∧
    FetchTrace s.oauth.tokenUri (codeExchange s code) tf ∧ t = popped clientState state ++ tf

/-- The provider handed out a token that the view takes. -/
def Exchanged (P : Platform τ) {F : Fernet τ} (s : Settings) (args : List (String × String))
    (clientState : Option String) (result : Payload) (t : Trace (bridge F)) : Prop :=
  ∃ code, Checked s args clientState code t ∧ Returned P s.fetch (seen t) result ∧ exchangeError s result = .ok none

def drawn {F : Fernet τ} (secret : ClientSecret F) (nonce : Nonce) (id : ClientId) : Trace (bridge F) :=
  [⟨.generateKey, secret⟩, ⟨.nonce, nonce⟩, ⟨.generateId, id⟩]

section
variable {F : Fernet τ}

/-- The operations of `/callback`, each with what came before it. -/
inductive CallbackOp (P : Platform τ) (s : Settings) (args : List (String × String)) :
    Trace (bridge F) → Op τ → Prop where
  | popClientState : CallbackOp P s args [] (.sessionPop "client_state")
  | popState (clientState : Option String) :
      CallbackOp P s args [⟨.sessionPop "client_state", clientState⟩] (.sessionPop "state")
  | send {clientState : Option String} {code : String} {t : Trace (bridge F)} {k : Settled} (w : ℚ)
      (checked : Checked s args clientState code t) (before : Retrying P s.fetch unknownResult (seen t) k) :
      CallbackOp P s args t (.send s.oauth.tokenUri (codeExchange s code) w)
  | draw {clientState : Option String} {code : String} {t : Trace (bridge F)} (low high : ℚ)
      (checked : Checked s args clientState code t) : CallbackOp P s args t (.uniform low high)
  | generateKey {clientState : Option String} {result : Payload} {t : Trace (bridge F)}
      (exchanged : Exchanged P s args clientState result t) : CallbackOp P s args t .generateKey
  | nonce {clientState : Option String} {result : Payload} {t : Trace (bridge F)} (secret : ClientSecret F)
      (exchanged : Exchanged P s args clientState result t) :
      CallbackOp P s args (t ++ [⟨.generateKey, secret⟩]) .nonce
  | generateId {clientState : Option String} {result : Payload} {t : Trace (bridge F)} (secret : ClientSecret F)
      (nonce : Nonce) (exchanged : Exchanged P s args clientState result t) :
      CallbackOp P s args (t ++ [⟨.generateKey, secret⟩, ⟨.nonce, nonce⟩]) .generateId
  | insert {clientState : Option String} {result : Payload} {t : Trace (bridge F)} (secret : ClientSecret F)
      (nonce : Nonce) (id : ClientId) (now : Int) (exchanged : Exchanged P s args clientState result t) :
      CallbackOp P s args (t ++ drawn secret nonce id)
        (.insert id (F.encrypt secret.key nonce (grantPayload result)) now)

inductive CallbackRun (P : Platform τ) (s : Settings) (args : List (String × String)) :
    Trace (bridge F) → Except Exc Response → Prop where
  | checkFailed {state : Option String} {e : PyError} (clientState : Option String)
      (failed : callbackCheck s args state = .error e) :
      CallbackRun P s args (popped clientState state) (.error (.python e))
  | rejected {state : Option String} {error : OAuthError} {desc : String} (clientState : Option String)
      (rejects : callbackCheck s args state = .ok (.error (error, desc))) :
      CallbackRun P s args (popped clientState state)
        (raised (pageAnswer s (.oauth error) desc clientState .null))
  | raised {clientState : Option String} {code : String} {t : Trace (bridge F)} {p : PyError}
      (checked : Checked s args clientState code t) (raises : Raised P s.fetch (seen t) p) :
      CallbackRun P s args t (.error (.python p))
  | unreadable {clientState : Option String} {code : String} {t : Trace (bridge F)} {result : Payload}
      {p : PyError} (checked : Checked s args clientState code t)
      (returned : Returned P s.fetch (seen t) result) (fails : exchangeError s result = .error p) :
      CallbackRun P s args t (.error (.python p))
  | failed {clientState : Option String} {code : String} {t : Trace (bridge F)} {result : Payload}
      {error : PageError} {desc : String} (checked : Checked s args clientState code t)
      (returned : Returned P s.fetch (seen t) result) (fails : exchangeError s result = .ok (some (error, desc))) :
      CallbackRun P s args t
        (OAuthClientBridge.raised (pageAnswer s error desc clientState (result.getOrNull "retry_after")))
  | issued {clientState : Option String} {t : Trace (bridge F)} {result : Payload} (secret : ClientSecret F)
      (nonce : Nonce) (id : ClientId) (now : Int) (exchanged : Exchanged P s args clientState result t) :
      CallbackRun P s args (t ++ drawn secret nonce id ++
          [⟨.insert id (F.encrypt secret.key nonce (grantPayload result)) now, .inserted⟩])
        (.ok (issuedPage s id secret clientState))
  | taken {clientState : Option String} {t : Trace (bridge F)} {result : Payload} (secret : ClientSecret F)
      (nonce : Nonce) (id : ClientId) (now : Int) (exchanged : Exchanged P s args clientState result t) :
      CallbackRun P s args (t ++ drawn secret nonce id ++
          [⟨.insert id (F.encrypt secret.key nonce (grantPayload result)) now, .integrityError⟩])
        (OAuthClientBridge.raised
          (pageAnswer s (.text "integrity_error") "Database integrity error." clientState .null))

/-! ### The contract, function by function -/

variable {Φ : Trace (bridge F) → Op τ → Prop} {Q : Trace (bridge F) → Except Exc Response → Prop}

theorem errorPage_ensures (error : PageError) (description : String) (state : Option String) (retryAfter : Json)
    (ends : Q [] (raised (pageAnswer s error description state retryAfter))) :
    (errorPage s error description state retryAfter : Action F Response).Ensures Op.silent Φ Q := by
  unfold errorPage
  unfold pageAnswer at ends
  cases hd : error.describe description with
  | error e => simpa [hd] using ends
  | ok description => simpa [hd, ensures_liftPy] using ends

theorem issueGrant_ensures {result : Payload} {clientState : Option String} {t : Trace (bridge F)}
    (exchanged : Exchanged P s args clientState result t) :
    (issueGrant s result clientState : Action F Response).Ensures Op.silent
      (fun t' => CallbackOp P s args (t ++ t')) (fun t' => CallbackRun P s args (t ++ t')) := by
  unfold issueGrant dumps setClientId
  simp only [generateKey, Db.generateId, Db.insert, Program.bind_assoc]
  refine (ensures_perform rfl _).mpr ⟨by simpa using CallbackOp.generateKey exchanged, fun secret => ?_⟩
  refine (ensures_perform rfl _).mpr ⟨.nonce secret exchanged, fun nonce => ?_⟩
  simp only [pure_eq, Program.pure_bind]
  refine (ensures_perform rfl _).mpr ⟨.generateId secret nonce exchanged, fun id => ?_⟩
  simp only [ensures_emit, ensures_log]
  refine (ensures_perform_silent rfl _).mpr fun now => (ensures_perform rfl _).mpr ⟨?_, fun result => ?_⟩
  · exact .insert secret nonce id _ exchanged
  · cases result with
    | inserted => simpa [drawn, issuedPage] using CallbackRun.issued secret nonce id _ exchanged
    | integrityError =>
      simp only [Program.pure_bind, ensures_log]
      apply errorPage_ensures _ _ _ _
      simpa [drawn] using CallbackRun.taken secret nonce id (prepareTimestamp now) exchanged

theorem prepare_codeExchange (s : Settings) (code : String) : prepare (codeExchange s code) = .ok () :=
  prepare_texts (by simp [codeExchange])

theorem exchangeCode_ensures {P : Platform τ} {state clientState : Option String} {code : String}
    (checked : callbackCheck s args state = .ok (.ok code)) :
    (exchangeCode P s clientState code : Action F Response).Ensures Op.silent
      (fun t => CallbackOp P s args (popped clientState state ++ t))
      (fun t => CallbackRun P s args (popped clientState state ++ t)) := by
  have checks : ∀ t : Trace (bridge F), FetchTrace s.oauth.tokenUri (codeExchange s code) t →
      Checked s args clientState code (popped clientState state ++ t) :=
    fun t trace => ⟨state, t, checked, trace, rfl⟩
  unfold exchangeCode
  refine fetch_bind_ensures (fun t low high trace => .draw low high (checks t trace))
    (fun t w k trace before => .send w (checks t trace) before)
    (fun t p trace raises => .raised (checks t trace) (raises.raised (prepare_codeExchange s code)))
    (fun t result trace _ returned => ?_)
  cases he : exchangeError s result with
  | error p => simpa using CallbackRun.unreadable (checks t trace) returned he
  | ok failure =>
    simp only [liftPy_ok_bind]
    cases failure with
    | none =>
      refine (issueGrant_ensures ⟨code, checks t trace, returned, he⟩).mono (fun t' o may => ?_)
        (fun t' r ends => ?_)
      · simpa using may
      · simpa using ends
    | some failure =>
      obtain ⟨error, desc⟩ := failure
      simp only [exchangeFailed, ensures_log, ensures_emit]
      apply errorPage_ensures _ _ _ _
      simpa using CallbackRun.failed (checks t trace) returned he

/-- The contract of `/callback`. -/
theorem callback_ensures (P : Platform τ) (s : Settings) (args : List (String × String)) :
    (callback P s args : Action F Response).Ensures Op.silent (CallbackOp P s args) (CallbackRun P s args) := by
  unfold callback
  refine (ensures_perform rfl _).mpr ⟨.popClientState, fun clientState => ?_⟩
  refine (ensures_perform rfl _).mpr ⟨.popState clientState, fun state => ?_⟩
  cases hc : callbackCheck s args state with
  | error e => exact .checkFailed clientState hc
  | ok checked =>
    simp only [liftPy_ok_bind]
    cases checked with
    | ok code => exact exchangeCode_ensures hc
    | error rejection =>
      obtain ⟨error, desc⟩ := rejection
      simp only [callbackFailed, ensures_log]
      apply errorPage_ensures _ _ _ _
      exact .rejected clientState hc

end
end OAuthClientBridge
