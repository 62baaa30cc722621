import OAuthClientBridge.OAuth.Answers
import OAuthClientBridge.Views.Common

/-! What the application makes of the end of a view. -/

namespace OAuthClientBridge
open Python Effect Program

variable {τ : Type} {F : Fernet τ} {Φ : Trace (bridge F) → Op τ → Prop}
  {Q : Trace (bridge F) → Except Exc Response → Prop}

def oauthError (error : OAuthError) (description uri retryAfter : Json) : Exc :=
  match error.describe description with
  | .ok description => .oauth ⟨error, description, uri, retryAfter⟩
  | .error e => .python e

theorem raiseError_eq {α : Type} (error : OAuthError) (description uri retryAfter : Json) :
    (raiseError error description uri retryAfter : Action F α) =
      .throw (oauthError error description uri retryAfter) := by
  unfold raiseError oauthError
  cases error.describe description <;> rfl

def answered (s : Settings) : Except Exc Response → Except Exc Response
  | .ok r => .ok r
  | .error (.oauth e) => raised (errorResponse s e)
  | .error (.python e) => .error (.python e)

def fallbackPayload : Payload :=
  .ofList [("error", Json.str OAuthError.serverError.value), ("error_description", Json.str
    "The server encountered an unexpected condition that prevented it from fulfilling the request.")]

def served (s : Settings) (r : Except Exc Response) : Response :=
  nocache (match answered s r with
    | .ok response => response
    | .error _ => jsonify 500 (.object fallbackPayload))

/-! ### What a client sees -/

def ResponseBody.object? : ResponseBody → Option Payload
  | .json (.object b) => some b
  | _ => none

/-- The response hands out a token. -/
def HandsOut (r : Response) : Prop := r.status = 200 ∧ ∃ b, r.body.object? = some b ∧ validateToken b = true

theorem handsOut_iff (r : Response) : HandsOut r ↔ r.status = 200 ∧ r.body.object?.any validateToken = true := by
  simp [HandsOut, Option.any_eq_true]

instance : DecidablePred HandsOut := fun r => decidable_of_iff _ (handsOut_iff r).symm

/-- The response is the JSON form of the error. -/
def Surfaces (e : OAuthError) (r : Response) : Prop :=
  r.status = errorStatus e ∧ ∃ b, r.body.object? = some b ∧ b["error"]? = some (.str e.value)

/-- The response is the page of the error. -/
def ShowsError (e : OAuthError) (r : Response) : Prop :=
  r.status = errorStatus e ∧ ∃ template context, r.body = .page template context ∧ context.error = some e.value

/-- A value that a `Retry-After` header can be made of, or that leaves it out. -/
def HeaderReady (retryAfter : Json) : Prop := retryAfter = .null ∨ ∃ n, retryAfter.toInt = .ok n

@[simp] theorem nocache_status (r : Response) : (nocache r).status = r.status := by
  unfold nocache
  split <;> rfl

@[simp] theorem nocache_body (r : Response) : (nocache r).body = r.body := by
  unfold nocache
  split <;> rfl

theorem errorStatus_ne (e : OAuthError) : errorStatus e ≠ 200 ∧ errorStatus e ≠ 500 := by
  unfold errorStatus
  split <;> [decide; split <;> decide]

theorem Surfaces.unique {e e' : OAuthError} {r : Response} (h : Surfaces e r) (h' : Surfaces e' r) : e' = e := by
  obtain ⟨_, b, body, error⟩ := h
  obtain ⟨_, b', body', error'⟩ := h'
  cases body.symm.trans body'
  exact OAuthError.value_injective (Json.str.inj (Option.some.inj (error'.symm.trans error)))

theorem setRetryAfter_of_ne {retryAfter : Json} (h : retryAfter ≠ .null) (r : Response) :
    setRetryAfter r retryAfter =
      retryAfter.toInt.map fun seconds => r.withHeader "Retry-After" (toString seconds) := by
  unfold setRetryAfter
  split
  · exact absurd rfl h
  · rfl

theorem setRetryAfter_ready (r : Response) (retryAfter : Json) :
    (HeaderReady retryAfter ∧ ∃ r', setRetryAfter r retryAfter = .ok r' ∧ r'.status = r.status ∧ r'.body = r.body) ∨
      ¬HeaderReady retryAfter ∧ ∃ p, setRetryAfter r retryAfter = .error p := by
  by_cases null : retryAfter = .null
  · subst null
    exact .inl ⟨.inl rfl, r, rfl, rfl, rfl⟩
  rw [setRetryAfter_of_ne null]
  cases value : retryAfter.toInt with
  | ok n => exact .inl ⟨.inr ⟨n, value⟩, _, rfl, rfl, rfl⟩
  | error p => exact .inr ⟨by simp [HeaderReady, null, value], p, rfl⟩

theorem errorBody_error (e : OAuthException) : (errorBody e)["error"]? = some (.str e.error.value) := by
  unfold errorBody
  split
  · rfl
  · rw [Std.ExtTreeMap.getElem?_insert, if_neg (by decide)]
    rfl

theorem errorResponse_cases (s : Settings) (e : OAuthException) :
    ((e.error = .temporarilyUnavailable → HeaderReady e.retryAfter) ∧
        ∃ r, errorResponse s e = .ok r ∧ Surfaces e.error r) ∨
      ¬(e.error = .temporarilyUnavailable → HeaderReady e.retryAfter) ∧ ∃ p, errorResponse s e = .error p := by
  unfold errorResponse
  have error := errorBody_error e
  generalize errorBody e = body at error
  dsimp only
  split
  · rename_i client
    exact .inl ⟨by simp [client], _, rfl, rfl, body, rfl, error⟩
  split
  · rename_i unavailable
    obtain ⟨ready, r, set, status, same⟩ | ⟨unready, p, set⟩ :=
      setRetryAfter_ready (jsonify (errorStatus e.error) (.object body)) e.retryAfter
    · exact .inl ⟨fun _ => ready, r, set, status, body, by rw [same]; rfl, error⟩
    · exact .inr ⟨fun imp => unready (imp unavailable), p, set⟩
  · rename_i available
    exact .inl ⟨fun h => absurd h available, _, rfl, rfl, body, rfl, error⟩

theorem answered_oauthError {e : OAuthError} (stock : e.description?.isSome) (s : Settings)
    (description uri retryAfter : Json) :
    ((e = .temporarilyUnavailable → HeaderReady retryAfter) ∧
        ∃ r, answered s (.error (oauthError e description uri retryAfter)) = .ok r ∧ Surfaces e r) ∨
      ¬(e = .temporarilyUnavailable → HeaderReady retryAfter) ∧
        ∃ p, answered s (.error (oauthError e description uri retryAfter)) = .error (.python p) := by
  obtain ⟨described, text⟩ := OAuthError.describe_ok stock description
  simp only [oauthError, text, answered]
  obtain ⟨ready, r, answer, surfaces⟩ | ⟨unready, p, answer⟩ :=
    errorResponse_cases s ⟨e, described, uri, retryAfter⟩
  · exact .inl ⟨ready, r, by simp [answer], surfaces⟩
  · exact .inr ⟨unready, p, by simp [answer]⟩

theorem served_surfaces {e e' : OAuthError} (stock : e.description?.isSome) (s : Settings)
    (description uri retryAfter : Json) :
    Surfaces e' (served s (.error (oauthError e description uri retryAfter))) ↔
      e' = e ∧ (e = .temporarilyUnavailable → HeaderReady retryAfter) := by
  unfold served
  rcases answered_oauthError stock s description uri retryAfter with ⟨ready, r, answer, surfaces⟩ | ⟨unready, p, answer⟩
  · have surfaces : Surfaces e (nocache r) := by simpa [Surfaces] using surfaces
    rw [answer]
    exact ⟨fun h => ⟨surfaces.unique h, ready⟩, fun h => h.1 ▸ surfaces⟩
  · rw [answer]
    refine iff_of_false (fun h => ?_) (fun h => unready h.2)
    exact (errorStatus_ne e').2 (by simpa [jsonify] using h.1.symm)

theorem served_error_not_handsOut (s : Settings) (e : Exc) : ¬HandsOut (served s (.error e)) := by
  rintro ⟨status, _⟩
  unfold served answered at status
  cases e with
  | python e => simp [jsonify] at status
  | oauth e =>
    rcases errorResponse_cases s e with ⟨_, r, answer, surfaces⟩ | ⟨_, p, answer⟩
    · exact (errorStatus_ne e.error).1 (surfaces.1.symm.trans (by simpa [answer] using status))
    · simp [answer, jsonify] at status

theorem served_python (s : Settings) (e : PyError) :
    served s (.error (.python e)) = nocache (jsonify 500 (.object fallbackPayload)) := rfl

theorem served_python_not_surfaces (s : Settings) (p : PyError) (e : OAuthError) :
    ¬Surfaces e (served s (.error (.python p))) :=
  fun h => (errorStatus_ne e).2 (by simpa [served_python, jsonify] using h.1.symm)

theorem handled_ensures {view : Action F Response} (s : Settings) (h : view.Ensures Op.silent Φ Q) :
    (handled s view).Ensures Op.silent Φ (fun t r => ∃ r₀, Q t r₀ ∧ r = answered s r₀) := by
  refine h.tryCatch (fun t a ended => ⟨_, ended, rfl⟩) (fun t e ended => ?_)
  cases e with
  | python e => exact ⟨_, by simpa using ended, rfl⟩
  | oauth e =>
    unfold handleError errorHandler
    have answer : answered s (.error (.oauth e)) = raised (errorResponse s e) := rfl
    cases hr : errorResponse s e <;> simpa [hr] using ⟨_, ended, by rw [answer, hr]; rfl⟩

theorem serve_ensures {view : Action F Response} (s : Settings) (h : view.Ensures Op.silent Φ Q) :
    (serve s view).Ensures Op.silent Φ (fun t r => ∃ r₀, Q t r₀ ∧ r = .ok (served s r₀)) := by
  have caught : ((handled s view).tryCatch fallbackErrorHandler).Ensures Op.silent Φ
      (fun t r => ∃ r₀ response, Q t r₀ ∧ r = .ok response ∧ served s r₀ = nocache response) := by
    refine (handled_ensures s h).tryCatch (fun t a ended => ?_) (fun t e ended => ?_)
    · obtain ⟨r₀, ended, returned⟩ := ended
      exact ⟨r₀, a, ended, rfl, by simp [served, ← returned]⟩
    · obtain ⟨r₀, ended, thrown⟩ := ended
      have body : OAuthError.serverError.json .null = .ok fallbackPayload := rfl
      simp only [fallbackErrorHandler, body, ensures_record, ensures_emit, liftPy_ok_bind]
      exact ⟨r₀, _, by simpa using ended, rfl, by simp [served, ← thrown]⟩
  refine caught.bind (fun t e ended => ?_) (fun t a ended => ?_)
  · obtain ⟨_, _, _, returned, _⟩ := ended
    cases returned
  · obtain ⟨r₀, _, ended, returned, answer⟩ := ended
    cases returned
    exact ⟨r₀, by simpa using ended, by rw [answer]⟩

end OAuthClientBridge
