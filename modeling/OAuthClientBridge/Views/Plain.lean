import OAuthClientBridge.Effect.Coupling
import OAuthClientBridge.Views.TokenRuns

/-! Programs that leave the table alone and count nothing that the views count. -/

namespace OAuthClientBridge
open Python Effect Program

/-- What the views count, and the request for new token counts. -/
def Emission.journaled : Emission → Bool
  | .requestRefresh | .metric (.refreshTokenInvalidation _) | .metric (.workaround _) | .metric (.serverError _ _)
  | .metric (.tokenGrantAge _) => true
  | _ => false

def Op.plain {τ : Type} : Op τ → Bool
  | .select _ | .insert _ _ _ | .update _ _ _ => false
  | .emit e => !e.journaled
  | _ => true

section
variable {τ : Type} {F : Fernet τ} {α β : Type}

abbrev Plain (p : Action F α) : Prop := p.Only fun o : Op τ => o.plain = true

section Rules

@[simp] theorem plain_pure (a : α) : Plain (.pure a : Action F α) := trivial

@[simp] theorem plain_throw (e : Exc) : Plain (.throw e : Action F α) := trivial

theorem plain_perform {o : Op τ} (h : o.plain = true) {f : Answer F o → Action F β} (next : ∀ answer, Plain (f answer)) :
    Plain (perform o >>= f) := ⟨h, next⟩

@[simp] theorem plain_emit_bind (e : Emission) (f : Unit → Action F β) :
    Plain (emit e >>= f) ↔ e.journaled = false ∧ Plain (f ()) := by
  constructor
  · intro ⟨quiet, next⟩
    exact ⟨by simpa [Op.plain] using quiet, next ()⟩
  · intro ⟨quiet, next⟩
    exact ⟨by simpa [Op.plain] using quiet, fun _ => next⟩

@[simp] theorem plain_emit (e : Emission) : Plain (emit e : Action F Unit) ↔ e.journaled = false :=
  (plain_emit_bind e .pure).trans (and_iff_left trivial)

@[simp] theorem plain_log_bind (l : LogLevel) (event : String) (arguments : List LogValue)
    (fields : List (String × LogValue)) (f : Unit → Action F β) :
    Plain (log l event arguments fields >>= f) ↔ Plain (f ()) :=
  (plain_emit_bind _ f).trans (and_iff_right rfl)

@[simp] theorem plain_log (l : LogLevel) (event : String) (arguments : List LogValue)
    (fields : List (String × LogValue)) : Plain (log l event arguments fields : Action F Unit) :=
  (plain_emit _).mpr rfl

@[simp] theorem plain_record_bind (m : Metric) (f : Unit → Action F β) :
    Plain (record m >>= f) ↔ (Emission.metric m).journaled = false ∧ Plain (f ()) := plain_emit_bind _ f

@[simp] theorem plain_record (m : Metric) : Plain (record m : Action F Unit) ↔ (Emission.metric m).journaled = false :=
  plain_emit _

@[simp] theorem plain_liftPy (r : Except PyError α) : Plain (liftPy r : Action F α) := by
  cases r <;> trivial

@[simp] theorem plain_liftPy_bind (r : Except PyError α) (f : α → Action F β) :
    Plain (liftPy r >>= f) ↔ ∀ a, r = .ok a → Plain (f a) := by
  cases r with
  | ok a =>
    rw [liftPy_ok_bind]
    exact ⟨fun h b same => Except.ok.inj same ▸ h, fun h => h a rfl⟩
  | error e => exact ⟨nofun, fun _ => trivial⟩

theorem Plain.bind {p : Action F α} {f : α → Action F β} (h : Plain p) (next : ∀ a, Plain (f a)) : Plain (p >>= f) :=
  Only.bind h next

@[simp] theorem plain_raiseError (error : OAuthError) (description uri retryAfter : Json) :
    Plain (raiseError error description uri retryAfter : Action F α) := by
  simp [raiseError]

end Rules

/-! ### `fetch` -/

section Fetch
variable {P : Platform τ} {s : FetchSettings} {uri endpoint : String} {data : List (String × Json)}

theorem plain_decode (r : UpstreamResponse) : Plain (decode s uri r : Action F _) := by
  unfold decode
  split <;> simp [Emission.journaled]

theorem plain_fetchFailed (kind : FailureKind) (response : Option UpstreamResponse) :
    Plain (fetchFailed uri endpoint kind response : Action F _) := by
  simp [fetchFailed, Emission.journaled]

theorem plain_fetchAnswered (r : UpstreamResponse) : Plain (fetchAnswered s uri endpoint r : Action F _) := by
  unfold fetchAnswered resetSession
  apply (plain_decode r).bind
  intro result
  simp only [plain_liftPy_bind]
  intro status _ retryAfter _
  apply Plain.bind
  · split <;> simp [Emission.journaled]
  · simp [Emission.journaled]

theorem plain_fetchOnce (timeout : ℚ) : Plain (fetchOnce s uri endpoint data timeout : Action F _) := by
  apply plain_perform rfl
  intro answer
  cases answer with
  | response r => exact plain_fetchAnswered r
  | failure kind response _ => exact plain_fetchFailed kind response
  | raised e _ => exact plain_throw _

theorem plain_tokenEndpointOutcome (status : Option HTTPStatus) (result : Document) :
    Plain (tokenEndpointOutcome P s endpoint status result : Action F _) := by
  simp only [tokenEndpointOutcome, warnUnexpected, plain_liftPy_bind]
  intro issue _
  cases issue <;> simp

theorem plain_skipRetry (reason : RetryReason) (event message name : String) :
    Plain (skipRetry endpoint reason event message name : Action F Unit) := by
  simp [skipRetry, Emission.journaled]

theorem plain_retryable (name : String) (st : LoopState) (outcome : TokenEndpointOutcome) :
    Plain (retryable s endpoint name st outcome : Action F LoopState) := by
  unfold retryable
  apply Plain.bind
  · unfold retryableEvent
    split <;> simp [Emission.journaled]
  intro _
  simp only [plain_liftPy_bind]
  intro result _ error _
  apply Plain.bind
  · unfold recordClientError
    split <;> simp [Emission.journaled]
  · simp

theorem plain_conclude (st : LoopState) : Plain (conclude st : Action F LoopState) := by
  unfold conclude
  dsimp only
  split <;> simp [Emission.journaled]

theorem plain_sleepBeforeRetry (name : String) (deadline sleepFor : ℚ) (decision : RetryDecision) :
    Plain (sleepBeforeRetry endpoint name deadline sleepFor decision : Action F _) := by
  unfold sleepBeforeRetry
  simp only [plain_record_bind, plain_emit_bind, plain_log_bind]
  refine ⟨rfl, rfl, Plain.bind ?_ fun _ => ?_⟩
  · unfold sleep
    split
    · exact plain_throw _
    · exact ⟨rfl, fun _ => plain_pure _⟩
  apply plain_perform rfl
  intro now
  split
  · exact (plain_skipRetry _ _ _ _).bind fun _ => plain_pure _
  · exact plain_pure _

theorem plain_admitRetry (name : String) (deadline remaining backoff : ℚ) (retry : Nat) (decision : RetryDecision) :
    Plain (admitRetry s endpoint name deadline remaining backoff retry decision : Action F _) := by
  have refused : ∀ reason event message, Plain (do
      skipRetry endpoint reason event message name
      return none : Action F (Option (ℚ × Nat))) :=
    fun _ _ _ => (plain_skipRetry _ _ _ _).bind fun _ => plain_pure _
  unfold admitRetry
  dsimp only
  generalize (if retry ≠ 0 then (retry : ℚ) else backoff) = delay
  split
  · exact refused _ _ _
  split
  · apply plain_perform rfl
    intro granted
    split
    · apply plain_perform rfl
      intro u
      simp only [pure_eq]
      generalize (if retry ≠ 0 then _ else _ : ℚ) = sleepFor
      split
      · exact refused _ _ _
      · exact plain_sleepBeforeRetry _ _ _ _
    · exact refused _ _ _
  · exact plain_pure _

theorem plain_attempt (name : String) (remaining : ℚ) (st : LoopState) :
    Plain (attempt P s uri endpoint data name remaining st : Action F _) := by
  unfold attempt
  simp only [plain_record_bind]
  refine ⟨rfl, ?_⟩
  split
  · exact (plain_skipRetry _ _ _ _).bind fun _ => plain_pure _
  apply (plain_fetchOnce remaining).bind
  intro received
  apply (plain_tokenEndpointOutcome _ _).bind
  intro outcome
  split
  · exact (plain_retryable _ _ _).bind fun _ => plain_pure _
  · exact (plain_conclude _).bind fun _ => plain_pure _

theorem plain_iteration (deadline : ℚ) (i : Nat) (st : LoopState) :
    Plain (iteration P s uri endpoint data deadline i st : Action F _) := by
  apply plain_perform rfl
  intro now
  dsimp only
  split
  · exact plain_attempt _ _ _
  apply (plain_admitRetry _ _ _ _ _ _).bind
  intro admitted
  split
  · exact plain_pure _
  · exact plain_attempt _ _ _

theorem plain_retryLoop (deadline : ℚ) (n i : Nat) (st : LoopState) :
    Plain (retryLoop P s uri endpoint data deadline n i st : Action F _) := by
  induction n generalizing i st with
  | zero =>
    unfold retryLoop attemptsUsedUp
    dsimp only
    split <;> simp [Emission.journaled]
  | succ n ih =>
    unfold retryLoop
    apply (plain_iteration _ _ _).bind
    intro again
    split
    · exact ih _ _
    · exact plain_pure _

theorem plain_finishFetch (st : LoopState) : Plain (finishFetch P endpoint st : Action F Payload) := by
  unfold finishFetch
  simp only [plain_record_bind, plain_liftPy_bind]
  refine ⟨rfl, fun result _ => ?_⟩
  cases (result.getOrNull "error").truthy <;> cases st.status.isSome <;> simp [Emission.journaled]

theorem plain_fetch : Plain (fetch P s uri endpoint data : Action F Payload) := by
  apply (plain_liftPy_bind _ _).mpr
  intro _ _
  apply plain_perform rfl
  intro _
  apply plain_perform rfl
  intro now
  apply (plain_liftPy_bind _ _).mpr
  intro result _
  exact (plain_retryLoop _ _ _ _).bind fun _ => plain_finishFetch _

end Fetch

/-! ### The credentials -/

theorem plain_setClientId (id : ClientId) : Plain (setClientId id : Action F Unit) := by
  simp [setClientId, Emission.journaled]

theorem plain_authenticate {P : Platform τ} (req : TokenRequest) : Plain (authenticate P req) := by
  unfold authenticate
  split
  · exact plain_raiseError _ _ _ _
  split
  · apply Plain.bind
    · unfold recordInvalidClientId
      split <;> simp [Emission.journaled]
    · exact fun _ => plain_raiseError _ _ _ _
  · exact plain_raiseError _ _ _ _
  · exact plain_raiseError _ _ _ _
  · exact (plain_setClientId _).bind fun _ => plain_pure _

end
end OAuthClientBridge
