import OAuthClientBridge.OAuth.Steps
import OAuthClientBridge.Views.CallbackRuns

/-! The views against an environment: their renderers, handlers and the grant that `/callback` issues. -/

namespace OAuthClientBridge
open Python Effect Program

variable {τ W : Type} {F : Fernet τ} {env : Environment (bridge F) W} {Φ : W → Op τ → Prop}
  {book : Emission → W → W} {w : W} {Q : Except Exc Response → W → Prop} {s : Settings}

theorem Audits.errorPage (audits : Audits env Φ book) (error : PageError) (description : String) (state : Option String)
    (retryAfter : Json) : (errorPage s error description state retryAfter : Action F Response).Safe env Φ Q w ↔
      Q (raised (pageAnswer s error description state retryAfter)) w := by
  unfold OAuthClientBridge.errorPage pageAnswer
  rw [safe_liftPy_bind]
  cases error.describe description with
  | error e => rfl
  | ok description =>
    rw [raised_ok, andThen_ok, audits.emit rfl, audits.emit rfl, audits.quietly rfl, safe_liftPy]
    rfl

theorem Audits.handleError (audits : Audits env Φ book) (e : Exc) :
    (handleError s e : Action F Response).Safe env Φ Q w ↔ Q (answered s (.error e)) w := by
  cases e with
  | python e => rfl
  | oauth e =>
    have answer : answered s (.error (.oauth e)) = raised (errorResponse s e) := rfl
    unfold OAuthClientBridge.handleError errorHandler
    rw [answer, safe_liftPy_bind]
    cases errorResponse s e with
    | error e => rfl
    | ok response =>
      rw [raised_ok, andThen_ok, audits.emit rfl, audits.emit rfl, audits.emit rfl, audits.emit rfl, audits.emit rfl,
        audits.quietly rfl]
      rfl

theorem Audits.serve (audits : Audits env Φ book) {view : Action F Response}
    (h : view.Safe env Φ (fun r w => Q (.ok (served s r)) w) w) : (serve s view).Safe env Φ Q w := by
  unfold OAuthClientBridge.serve handled
  refine safe_bind.mpr (safe_tryCatch.mpr (safe_tryCatch.mpr (h.mono (fun _ _ h => h) fun r w ended => ?_)))
  have fallback : ∀ e w, Q (.ok (nocache (jsonify 500 (.object fallbackPayload)))) w →
      (fallbackErrorHandler e : Action F Response).Safe env Φ
        (andThen env Φ (fun response => Program.pure (nocache response)) Q) w := by
    intro e w ended
    unfold fallbackErrorHandler
    rw [audits.quietly rfl, audits.emit rfl, audits.emit rfl, audits.emit rfl, safe_liftPy_bind]
    exact ended
  cases r with
  | ok response => exact ended
  | error e =>
    apply (audits.handleError e).mpr
    unfold served at ended
    cases answer : answered s (.error e) with
    | ok response =>
      rw [answer] at ended
      exact ended
    | error e =>
      rw [answer] at ended
      exact fallback e _ ended

end OAuthClientBridge
