import OAuthClientBridge.Effect.Safe
import OAuthClientBridge.OAuth.Settled

/-!
The loop of `fetch` against an environment, piece by piece: what each piece needs of the state it
starts from, as an equivalence.
-/

namespace OAuthClientBridge
open Python Effect Program

/-- The emissions that count attempts, retry decisions and retries. -/
def Emission.booked : Emission → Bool
  | .metric (.clientAttempt _ _) | .metric (.retryDecision _ _) | .metric (.clientRetries _ _ _) => true
  | _ => false

def Op.isSend {τ : Type} : Op τ → Bool
  | .send _ _ _ => true
  | _ => false

variable {τ W : Type} {F : Fernet τ}

/-- The calls of `session.send`, each with whatever redirects it follows. -/
def sends (t : Trace (bridge F)) : Nat := t.countP fun e => e.op.isSend

/-- An environment that enters the booked emissions by `book` and lets the others pass. -/
structure Audits (env : Environment (bridge F) W) (Φ : W → Op τ → Prop) (book : Emission → W → W) : Prop where
  emits : ∀ e w w', env w ⟨.emit e, ()⟩ w' ↔ w' = book e w
  unbooked : ∀ e, e.booked = false → ∀ w, book e w = w
  allowed : ∀ w e, Φ w (.emit e)

section Rules
variable {env : Environment (bridge F) W} {Φ : W → Op τ → Prop} {book : Emission → W → W} {α β : Type}
  {Q : Except Exc α → W → Prop} {w : W}

theorem safe_perform (o : Op τ) (f : Answer F o → Action F α) : (perform o >>= f).Safe env Φ Q w ↔
    Φ w o ∧ ∀ answer w', env w ⟨o, answer⟩ w' → (f answer).Safe env Φ Q w' := .rfl

theorem safe_liftPy (r : Except PyError α) : (liftPy r : Action F α).Safe env Φ Q w ↔ Q (raised r) w := by
  cases r <;> rfl

theorem safe_liftPy_bind (r : Except PyError β) (f : β → Action F α) :
    (liftPy r >>= f).Safe env Φ Q w ↔ andThen env Φ f Q (raised r) w := by
  cases r <;> rfl

variable (audits : Audits env Φ book)
include audits

theorem Audits.record (m : Metric) (f : Unit → Action F α) :
    (record m >>= f).Safe env Φ Q w ↔ (f ()).Safe env Φ Q (book (.metric m) w) := by
  refine (safe_perform _ f).trans ⟨fun h => h.2 () _ ((audits.emits _ _ _).mpr rfl), fun h => ⟨audits.allowed _ _, ?_⟩⟩
  intro _ w' now
  obtain rfl := (audits.emits _ _ _).mp now
  exact h

theorem Audits.emit {e : Emission} (quiet : e.booked = false) (f : Unit → Action F α) :
    (emit e >>= f).Safe env Φ Q w ↔ (f ()).Safe env Φ Q w := by
  refine (safe_perform _ f).trans ⟨fun h => ?_, fun h => ⟨audits.allowed _ _, ?_⟩⟩
  · have now := h.2 () _ ((audits.emits _ _ _).mpr rfl)
    rwa [audits.unbooked e quiet] at now
  · intro _ w' now
    obtain rfl := (audits.emits _ _ _).mp now
    rwa [audits.unbooked e quiet]

theorem Audits.log (level : LogLevel) (event : String) (arguments : List LogValue)
    (fields : List (String × LogValue)) (f : Unit → Action F α) :
    (log level event arguments fields >>= f).Safe env Φ Q w ↔ (f ()).Safe env Φ Q w :=
  audits.emit rfl f

theorem Audits.quietly {m : Metric} (quiet : (Emission.metric m).booked = false) (f : Unit → Action F α) :
    (OAuthClientBridge.record m >>= f).Safe env Φ Q w ↔ (f ()).Safe env Φ Q w :=
  audits.emit quiet f

end Rules

/-! ### The delay before a retry -/

/-- `retry or backoff`. -/
def baseDelay (retry : Nat) (backoff : ℚ) : ℚ := if retry ≠ 0 then retry else backoff

/-- The delay after its jitter, not below a `Retry-After`. -/
def jittered (retry : Nat) (backoff u : ℚ) : ℚ :=
  if retry ≠ 0 then max (retry : ℚ) (baseDelay retry backoff * u) else baseDelay retry backoff * u

def jitterFloor (s : FetchSettings) (preserveFloor : Bool) : ℚ :=
  if preserveFloor then max 1 s.backoffJitterMin else s.backoffJitterMin

theorem le_jittered {retry : Nat} (floor : retry ≠ 0) (backoff u : ℚ) : (retry : ℚ) ≤ jittered retry backoff u := by
  unfold jittered
  rw [if_pos floor]
  exact le_max_left _ _

/-- What a loop iteration leaves behind when its request was answered by `a`. -/
def attempted (P : Platform τ) (s : FetchSettings) (st : LoopState) (a : Upstream) :
    Except PyError (LoopState × Bool) := do
  let (result, status, retry) ← received s a
  let outcome ← judged P s status result
  if outcome.retryable then
    return ({ st with
      result := ← unavailableInstead result outcome
      status, retry
      pendingRetryDecision := some ⟨.retry, outcome.retryReason.getD .unknown⟩ }, true)
  else return ({ st with result, status, retry, pendingRetryDecision := none }, false)

theorem attempted_eq (P : Platform τ) (s : FetchSettings) (st : LoopState) (a : Upstream) :
    (∃ e, settle P s a = .error e ∧ attempted P s st a = .error e) ∨
      ∃ k pending, settle P s a = .ok k ∧ (pending.isSome = k.retryable) ∧ (∀ d, pending = some d → d.action = .retry) ∧
        attempted P s st a = .ok (⟨k.retry, st.completedRetries, k.status, pending, k.result⟩, k.retryable) := by
  unfold settle attempted
  rcases received s a with e | ⟨result, status, retry⟩
  · exact .inl ⟨e, rfl, rfl⟩
  simp only [ok_bind]
  rcases judged P s status result with e | outcome
  · exact .inl ⟨e, rfl, rfl⟩
  simp only [ok_bind]
  split
  · rcases unavailableInstead result outcome with e | instead
    · exact .inl ⟨e, rfl, rfl⟩
    · exact .inr ⟨_, some ⟨.retry, outcome.retryReason.getD .unknown⟩, rfl, rfl, by simp, rfl⟩
  · exact .inr ⟨_, none, rfl, rfl, by simp, rfl⟩

/-! ### The pieces of the loop -/

section Pieces
variable {env : Environment (bridge F) W} {Φ : W → Op τ → Prop} {book : Emission → W → W} {w : W}
  {P : Platform τ} {s : FetchSettings} {uri endpoint : String} {data : List (String × Json)}
  (audits : Audits env Φ book)
include audits

theorem Audits.decode {Q : Except Exc Document → W → Prop} (r : UpstreamResponse) :
    (decode s uri r : Action F _).Safe env Φ Q w ↔ Q (raised (decoded s r)) w := by
  unfold OAuthClientBridge.decode decoded
  cases r.body with
  | document d => rfl
  | undecodable =>
    dsimp only
    rw [audits.emit rfl, audits.log, safe_liftPy_bind]
    cases undecodableError s r.statusCode <;> rfl

theorem Audits.fetchAnswered {Q : Except Exc (Document × Option HTTPStatus × Nat) → W → Prop} (r : UpstreamResponse) :
    (fetchAnswered s uri endpoint r : Action F _).Safe env Φ Q w ↔ Q (raised (received s (.response r))) w := by
  unfold OAuthClientBridge.fetchAnswered received
  dsimp only
  rw [safe_bind, audits.decode]
  cases decoded s r with
  | error e => rfl
  | ok result =>
    simp only [raised_ok, andThen_ok, ok_bind, safe_liftPy_bind]
    cases HTTPStatus.ofCode r.statusCode with
    | error e => rfl
    | ok status =>
      simp only [raised_ok, andThen_ok, ok_bind, safe_liftPy_bind]
      cases parseRetry r.receivedAt r.retryAfter with
      | error e => rfl
      | ok retryAfter =>
        simp only [raised_ok, andThen_ok, ok_bind, resetSession]
        split
        · rw [bind_assoc, audits.emit rfl, audits.emit rfl, audits.quietly rfl]
          rfl
        · rw [pure_bind, audits.quietly rfl]
          rfl

theorem Audits.fetchFailed {Q : Except Exc (Document × Option HTTPStatus × Nat) → W → Prop} (kind : FailureKind)
    (response : Option UpstreamResponse) (redirects : Nat) :
    (fetchFailed uri endpoint kind response : Action F _).Safe env Φ Q w ↔
      Q (raised (received s (.failure kind response redirects))) w := by
  unfold OAuthClientBridge.fetchFailed received
  dsimp only
  rw [audits.emit rfl, audits.emit rfl, audits.emit rfl, safe_liftPy_bind]
  cases failureStatus response with
  | error e => rfl
  | ok status =>
    simp only [raised_ok, andThen_ok, ok_bind, safe_liftPy_bind, audits.log]
    cases OAuthError.serverError.json (.str kind.describe.1) with
    | error e => rfl
    | ok result =>
      simp only [raised_ok, andThen_ok, ok_bind, safe_liftPy_bind]
      cases failureRetry kind response with
      | error e => rfl
      | ok retryAfter =>
        rw [raised_ok, andThen_ok, audits.quietly rfl]
        rfl

theorem Audits.fetchOnce {Q : Except Exc (Document × Option HTTPStatus × Nat) → W → Prop} (timeout : ℚ) :
    (fetchOnce s uri endpoint data timeout : Action F _).Safe env Φ Q w ↔
      Φ w (.send uri data (min s.timeout timeout)) ∧
        ∀ a w', env w ⟨.send uri data (min s.timeout timeout), a⟩ w' → Q (raised (received s a)) w' := by
  refine (safe_perform _ _).trans (and_congr_right' (forall₃_congr fun a w' now => ?_))
  cases a with
  | response r => exact audits.fetchAnswered r
  | failure kind response redirects => exact audits.fetchFailed kind response redirects
  | raised e redirects => rfl

theorem Audits.tokenEndpointOutcome {Q : Except Exc TokenEndpointOutcome → W → Prop} (status : Option HTTPStatus)
    (result : Document) : (tokenEndpointOutcome P s endpoint status result : Action F _).Safe env Φ Q w ↔
      Q (raised (judged P s status result)) w := by
  unfold OAuthClientBridge.tokenEndpointOutcome judged
  rw [safe_liftPy_bind]
  cases unexpectedTokenEndpointIssue s.retryStatusCodes status result with
  | error e => rfl
  | ok issue => cases issue <;> simp [warnUnexpected, audits.log, safe_liftPy]

theorem Audits.retryable {Q : Except Exc LoopState → W → Prop} (name : String) (st : LoopState)
    (outcome : TokenEndpointOutcome) : (retryable s endpoint name st outcome : Action F _).Safe env Φ Q w ↔
      Q (raised ((unavailableInstead st.result outcome).map fun result => { st with
        result, pendingRetryDecision := some ⟨.retry, outcome.retryReason.getD .unknown⟩ })) w := by
  have onward : ∀ f : Unit → Action F LoopState, (retryableEvent st.status >>= f).Safe env Φ Q w ↔
      (f ()).Safe env Φ Q w := by
    intro f
    unfold retryableEvent
    cases st.status <;> exact audits.emit rfl f
  unfold OAuthClientBridge.retryable unavailableInstead
  rw [onward]
  simp only [safe_liftPy_bind]
  cases st.result.asDict with
  | error e => rfl
  | ok p =>
    simp only [raised_ok, andThen_ok, ok_bind, safe_liftPy_bind]
    cases (outcome.normalizedError.getD .serverError).json (p.getOrNull "error_description") with
    | error e => rfl
    | ok result =>
      simp only [raised_ok, andThen_ok, ok_bind]
      unfold recordClientError
      cases st.status with
      | none =>
        simp only [pure_bind, audits.log]
        rfl
      | some status =>
        rw [audits.quietly rfl, audits.log]
        rfl

theorem Audits.conclude {Q : Except Exc LoopState → W → Prop} (st : LoopState) :
    (conclude st : Action F _).Safe env Φ Q w ↔ Q (.ok { st with pendingRetryDecision := none }) w := by
  unfold OAuthClientBridge.conclude
  split <;> exact audits.emit rfl _

def skipped (book : Emission → W → W) (endpoint : String) (reason : RetryReason) : W → W :=
  book (.metric (.retryDecision endpoint ⟨.skip, reason⟩))

theorem Audits.skipRetry {α : Type} {Q : Except Exc α → W → Prop} (reason : RetryReason)
    (event message name : String) (f : Unit → Action F α) :
    (skipRetry endpoint reason event message name >>= f).Safe env Φ Q w ↔
      (f ()).Safe env Φ Q (skipped book endpoint reason w) := by
  unfold OAuthClientBridge.skipRetry
  rw [bind_assoc, audits.record, bind_assoc, audits.emit rfl, audits.log]
  rfl

theorem Audits.attempt {Q : Except Exc (LoopState × Bool) → W → Prop} (name : String) (remaining : ℚ)
    (st : LoopState) : (attempt P s uri endpoint data name remaining st : Action F _).Safe env Φ Q w ↔
      let began := book (.metric (.clientAttempt endpoint (if st.completedRetries > 0 then .retry else .initial))) w
      if remaining ≤ 0 then Q (.ok (st, false)) (skipped book endpoint .deadlineExceeded began)
      else Φ began (.send uri data (min s.timeout remaining)) ∧
        ∀ a w', env began ⟨.send uri data (min s.timeout remaining), a⟩ w' → Q (raised (attempted P s st a)) w' := by
  unfold OAuthClientBridge.attempt
  rw [audits.record]
  split
  · exact audits.skipRetry _ _ _ _ _
  · rw [safe_bind, audits.fetchOnce]
    refine and_congr_right' (forall₃_congr fun a w' now => ?_)
    unfold attempted
    rcases received s a with e | ⟨result, status, retry⟩
    · rfl
    simp only [raised_ok, andThen_ok, ok_bind]
    rw [safe_bind, audits.tokenEndpointOutcome]
    rcases judged P s status result with e | outcome
    · rfl
    simp only [raised_ok, andThen_ok, ok_bind]
    split
    · rw [safe_bind, audits.retryable]
      rcases unavailableInstead result outcome with e | instead <;> rfl
    · rw [safe_bind, audits.conclude]
      rfl

theorem Audits.sleepBeforeRetry {Q : Except Exc (Option (ℚ × Nat)) → W → Prop} (name : String)
    (deadline sleepFor : ℚ) (decision : RetryDecision) :
    (sleepBeforeRetry endpoint name deadline sleepFor decision : Action F _).Safe env Φ Q w ↔
      let decided := book (.metric (.retryDecision endpoint decision)) w
      if sleepFor < 0 then Q (.error (.python .valueError)) decided
      else Φ decided (.sleep sleepFor) ∧ ∀ u slept, env decided ⟨.sleep sleepFor, u⟩ slept →
        Φ slept .monotonic ∧ ∀ now woken, env slept ⟨.monotonic, now⟩ woken →
          if deadline - now ≤ 0 then Q (.ok none) (skipped book endpoint .deadlineExceeded woken)
          else Q (.ok (some (deadline - now, 1))) woken := by
  unfold OAuthClientBridge.sleepBeforeRetry
  rw [audits.record, audits.emit rfl, audits.log]
  unfold OAuthClientBridge.sleep
  dsimp only
  split
  · rfl
  · refine (safe_perform _ _).trans (and_congr_right' (forall₃_congr fun u slept _ => ?_))
    refine (safe_perform _ _).trans (and_congr_right' (forall₃_congr fun now woken _ => ?_))
    split
    · exact audits.skipRetry _ _ _ _ _
    · rfl

theorem Audits.admitRetry {Q : Except Exc (Option (ℚ × Nat)) → W → Prop} (name : String)
    (deadline remaining backoff : ℚ) (retry : Nat) (decision : RetryDecision) :
    (admitRetry s endpoint name deadline remaining backoff retry decision : Action F _).Safe env Φ Q w ↔
      if baseDelay retry backoff > remaining then Q (.ok none) (skipped book endpoint .deadlineExceeded w)
      else if baseDelay retry backoff > 0 then
        Φ w .budgetConsume ∧ ∀ (granted : Bool) w₁, env w ⟨.budgetConsume, granted⟩ w₁ →
          if granted then
            Φ w₁ (.uniform (jitterFloor s (retry > 0)) s.backoffJitterMax) ∧
              ∀ u w₂, env w₁ ⟨.uniform (jitterFloor s (retry > 0)) s.backoffJitterMax, u⟩ w₂ →
                if jittered retry backoff u > remaining then Q (.ok none) (skipped book endpoint .deadlineExceeded w₂)
                else (OAuthClientBridge.sleepBeforeRetry endpoint name deadline (jittered retry backoff u) decision :
                  Action F _).Safe env Φ Q w₂
          else Q (.ok none) (skipped book endpoint .resourceExhausted w₁)
      else Q (.ok (some (remaining, 0))) w := by
  unfold OAuthClientBridge.admitRetry jittered jitterFloor baseDelay
  dsimp only
  generalize (if retry ≠ 0 then (retry : ℚ) else backoff) = delay
  split
  · exact audits.skipRetry _ _ _ _ _
  split
  swap
  · rfl
  refine (safe_perform _ _).trans (and_congr_right' (forall₃_congr fun granted w₁ _ => ?_))
  cases granted
  · exact audits.skipRetry _ _ _ _ _
  simp only [if_true, jitterDelay, uniform, Program.bind_assoc]
  refine (safe_perform _ _).trans (and_congr_right' (forall₃_congr fun u w₂ _ => ?_))
  simp only [pure_eq, pure_bind]
  generalize (if retry ≠ 0 then max (retry : ℚ) (delay * u) else delay * u) = sleepFor
  split
  · exact audits.skipRetry _ _ _ _ _
  · rfl

theorem Audits.attemptsUsedUp {Q : Except Exc LoopState → W → Prop} (st : LoopState) :
    (attemptsUsedUp endpoint st : Action F _).Safe env Φ Q w ↔
      Q (.ok st) (match st.pendingRetryDecision with
        | some decision => skipped book endpoint decision.reason w
        | none => w) := by
  unfold OAuthClientBridge.attemptsUsedUp
  cases st.pendingRetryDecision with
  | none => rfl
  | some decision => exact audits.record _ _

theorem Audits.finishFetch {Q : Except Exc Payload → W → Prop} (st : LoopState) :
    (finishFetch P endpoint st : Action F _).Safe env Φ Q w ↔
      Q (raised ((⟨st.result, st.status, st.retry, false⟩ : Settled).payload P))
        (book (.metric (.clientRetries endpoint st.status st.completedRetries)) w) := by
  unfold OAuthClientBridge.finishFetch Settled.payload
  rw [audits.record, safe_liftPy_bind]
  rcases st.result.asDict with e | result
  · rfl
  simp only [raised_ok, andThen_ok, ok_bind]
  have measured : ∀ w : W, (liftPy (measure P (result.getOrNull "error")) >>= fun _ =>
        (Pure.pure (withRetryAfter st.retry result) : Action F Payload)).Safe env Φ Q w ↔
      Q (raised (measure P (result.getOrNull "error") >>= fun _ => Pure.pure (withRetryAfter st.retry result))) w := by
    intro w
    rw [safe_liftPy_bind]
    cases measure P (result.getOrNull "error") <;> rfl
  have labelled (key : String) (value : LogValue) : ∀ (f : Unit → Action F Payload) (w : W),
      (OAuthClientBridge.emit (.spanAttribute key value) >>= f).Safe env Φ Q w ↔ (f ()).Safe env Φ Q w :=
    fun f _ => audits.emit rfl f
  cases (result.getOrNull "error").truthy
  · cases st.status.isSome <;>
      simp only [labelled, if_true, Bool.false_eq_true, if_false, pure_eq, Program.pure_bind] <;> exact measured _
  · apply (audits.emit rfl _).trans
    cases st.status.isSome <;>
      simp only [labelled, if_true, Bool.false_eq_true, if_false, pure_eq, Program.pure_bind] <;> exact measured _

end Pieces

/-! ### The loop -/

section Loop
variable {env : Environment (bridge F) W} {Φ : W → Op τ → Prop} {w : W} {P : Platform τ} {s : FetchSettings}
  {uri endpoint : String} {data : List (String × Json)}

theorem iteration_safe {Q : Except Exc (LoopState × Bool) → W → Prop} (deadline : ℚ) (i : Nat) (st : LoopState) :
    (iteration P s uri endpoint data deadline i st : Action F _).Safe env Φ Q w ↔
      Φ w .monotonic ∧ ∀ (now : ℚ) w', env w ⟨.monotonic, now⟩ w' →
        match st.pendingRetryDecision with
        | none => (attempt P s uri endpoint data (attemptName i uri) (deadline - now) st : Action F _).Safe env Φ Q w'
        | some decision => (admitRetry s endpoint (attemptName i uri) deadline (deadline - now)
            ((2 ^ i - 1) * s.backoffFactor) st.retry decision : Action F _).Safe env Φ (fun r w => match r with
              | .error e => Q (.error e) w
              | .ok none => Q (.ok (st, false)) w
              | .ok (some (remaining, completed)) =>
                (attempt P s uri endpoint data (attemptName i uri) remaining
                  { st with completedRetries := st.completedRetries + completed, pendingRetryDecision := none } :
                  Action F _).Safe env Φ Q w) w' := by
  refine (safe_perform _ _).trans (and_congr_right' (forall₃_congr fun now w' _ => ?_))
  simp only [pure_eq]
  cases st.pendingRetryDecision with
  | none => rfl
  | some decision =>
    refine safe_bind.trans (iff_of_eq (congrFun (congrFun (congrArg _ ?_) _) _))
    funext r w
    obtain _ | (_ | ⟨remaining, completed⟩) := r <;> rfl

/-- What has to hold after an iteration: `I` when the loop goes on, `R` when it ends. -/
def onward (I : LoopState → W → Prop) (R : Except Exc LoopState → W → Prop) : Except Exc (LoopState × Bool) → W → Prop
  | .ok (st, true), w => I st w
  | .ok (st, false), w => R (.ok st) w
  | .error e, w => R (.error e) w

theorem onward_mono {I J : LoopState → W → Prop} {R R' : Except Exc LoopState → W → Prop}
    (again : ∀ st w, I st w → J st w) (ends : ∀ r w, R r w → R' r w) {r : Except Exc (LoopState × Bool)}
    (h : onward I R r w) : onward J R' r w := by
  rcases r with e | ⟨st, _ | _⟩
  · exact ends _ _ h
  · exact ends _ _ h
  · exact again _ _ h

/-- The rule of the loop: `I n i` holds with `n` iterations left, the next one being the `i`-th. -/
theorem retryLoop_safe {deadline : ℚ} {I : Nat → Nat → LoopState → W → Prop} {R : Except Exc LoopState → W → Prop}
    (usedUp : ∀ i st w, I 0 i st w → (attemptsUsedUp endpoint st : Action F _).Safe env Φ R w)
    (iterates : ∀ n i st w, I (n + 1) i st w →
      (iteration P s uri endpoint data deadline i st : Action F _).Safe env Φ (onward (I n (i + 1)) R) w) (n i : Nat) (st : LoopState) (h : I n i st w) :
    (retryLoop P s uri endpoint data deadline n i st : Action F _).Safe env Φ R w := by
  induction n generalizing i st w with
  | zero => exact usedUp i st w h
  | succ n ih =>
    refine (iterates n i st w h).bind (fun e w ended => ended) (fun next w ended => ?_)
    obtain ⟨st, goesOn⟩ := next
    cases goesOn with
    | true => exact ih (i + 1) st ended
    | false => exact ended

theorem fetch_safe {Q : Except Exc Payload → W → Prop} :
    (fetch P s uri endpoint data : Action F _).Safe env Φ Q w ↔ (∀ p, prepare data = .error p → Q (.error (.python p)) w) ∧
      (prepare data = .ok () → Φ w (.budgetAdd s.retryBudgetRefillPerInitial) ∧
        ∀ u w₁, env w ⟨.budgetAdd s.retryBudgetRefillPerInitial, u⟩ w₁ → Φ w₁ .monotonic ∧
          ∀ (now : ℚ) w₂, env w₁ ⟨.monotonic, now⟩ w₂ →
            (retryLoop P s uri endpoint data (now + s.totalTimeout) (s.totalRetries + 1).toNat 0
              { result := .object unknownResult } : Action F _).Safe env Φ (andThen env Φ (finishFetch P endpoint) Q) w₂) := by
  unfold fetch
  rw [serverError_unknown]
  cases prepare data with
  | error p => exact ⟨fun failed => ⟨fun _ same => Except.error.inj same ▸ failed, nofun⟩, fun h => h.1 p rfl⟩
  | ok _ =>
  refine Iff.trans ?_ ((and_iff_right nofun).trans (forall_prop_of_true rfl)).symm
  refine (safe_perform _ _).trans (and_congr_right' (forall₃_congr fun u w₁ _ => ?_))
  refine (safe_perform _ _).trans (and_congr_right' (forall₃_congr fun now w₂ _ => ?_))
  rw [← safe_bind]
  rfl

end Loop

/-! ### An environment that a call passes through -/

def Leaves (env : Environment (bridge F) W) (Φ : W → Op τ → Prop) (w : W) (o : Op τ) : Prop :=
  Φ w o ∧ ∀ answer w', env w ⟨o, answer⟩ w' → w' = w

def Op.looping : Op τ → Bool
  | .monotonic | .sleep _ | .uniform _ _ | .budgetConsume | .send _ _ _ => true
  | _ => false

def Idles (env : Environment (bridge F) W) (Φ : W → Op τ → Prop) (w : W) : Prop :=
  ∀ o, o.looping = true → Leaves env Φ w o

section Idle
variable {env : Environment (bridge F) W} {Φ : W → Op τ → Prop} {w : W} {P : Platform τ} {s : FetchSettings}
  {uri endpoint : String} {data : List (String × Json)} (audits : Audits env Φ fun _ w => w) (idles : Idles env Φ w)
include audits idles

theorem attempt_idle (name : String) (remaining : ℚ) (st : LoopState) :
    (attempt P s uri endpoint data name remaining st : Action F _).Safe env Φ (fun _ w' => w' = w) w := by
  rw [audits.attempt]
  dsimp only
  split
  · rfl
  · obtain ⟨may, same⟩ := idles (.send uri data (min s.timeout remaining)) rfl
    exact ⟨may, fun a w' now => same a w' now⟩

theorem sleepBeforeRetry_idle (name : String) (deadline sleepFor : ℚ) (decision : RetryDecision) :
    (sleepBeforeRetry endpoint name deadline sleepFor decision : Action F _).Safe env Φ (fun _ w' => w' = w) w := by
  rw [audits.sleepBeforeRetry]
  dsimp only
  split
  · rfl
  obtain ⟨maySleep, sleeps⟩ := idles (.sleep sleepFor) rfl
  obtain ⟨mayRead, reads⟩ := idles .monotonic rfl
  refine ⟨maySleep, fun u slept now => ?_⟩
  obtain rfl := sleeps u slept now
  refine ⟨mayRead, fun clock woken now => ?_⟩
  obtain rfl := reads clock woken now
  split <;> rfl

theorem admitRetry_idle (name : String) (deadline remaining backoff : ℚ) (retry : Nat) (decision : RetryDecision) :
    (admitRetry s endpoint name deadline remaining backoff retry decision : Action F _).Safe env Φ
      (fun _ w' => w' = w) w := by
  rw [audits.admitRetry]
  split
  · rfl
  split
  swap
  · rfl
  obtain ⟨mayConsume, consumes⟩ := idles .budgetConsume rfl
  obtain ⟨mayDraw, draws⟩ := idles (.uniform (jitterFloor s (retry > 0)) s.backoffJitterMax) rfl
  refine ⟨mayConsume, fun granted w₁ now => ?_⟩
  obtain rfl := consumes granted w₁ now
  cases granted
  · rfl
  refine ⟨mayDraw, fun u w₂ now => ?_⟩
  obtain rfl := draws u w₂ now
  split
  · rfl
  · exact sleepBeforeRetry_idle audits idles name deadline _ decision

theorem iteration_idle (deadline : ℚ) (i : Nat) (st : LoopState) :
    (iteration P s uri endpoint data deadline i st : Action F _).Safe env Φ (fun _ w' => w' = w) w := by
  obtain ⟨mayRead, reads⟩ := idles .monotonic rfl
  refine (iteration_safe deadline i st).mpr ⟨mayRead, fun clock w' now => ?_⟩
  obtain rfl := reads clock w' now
  cases st.pendingRetryDecision with
  | none => exact attempt_idle audits idles _ _ st
  | some decision =>
    refine (admitRetry_idle audits idles _ _ _ _ _ decision).mono (fun _ _ h => h) fun r w same => ?_
    subst same
    rcases r with _ | (_ | ⟨remaining, completed⟩)
    · rfl
    · rfl
    · exact attempt_idle audits idles _ _ _

theorem retryLoop_idle (deadline : ℚ) (n i : Nat) (st : LoopState) :
    (retryLoop P s uri endpoint data deadline n i st : Action F _).Safe env Φ (fun _ w' => w' = w) w := by
  refine retryLoop_safe (I := fun _ _ _ w' => w' = w) (fun i st w' same => ?_) (fun n i st w' same => ?_) n i st rfl
  · subst same
    rw [audits.attemptsUsedUp]
    cases st.pendingRetryDecision <;> rfl
  · subst same
    refine (iteration_idle audits idles deadline i st).mono (fun _ _ h => h) fun r w same => ?_
    obtain _ | ⟨st, _ | _⟩ := r <;> exact same

end Idle

theorem fetch_idle {env : Environment (bridge F) W} {Φ : W → Op τ → Prop} {w : W} {P : Platform τ} {s : FetchSettings}
    {uri endpoint : String} {data : List (String × Json)} {Q : Except Exc Payload → W → Prop}
    (audits : Audits env Φ fun _ w => w) (unsent : ∀ p, Q (.error (.python p)) w) (may : Φ w (.budgetAdd s.retryBudgetRefillPerInitial))
    (refilled : ∀ u w', env w ⟨.budgetAdd s.retryBudgetRefillPerInitial, u⟩ w' →
      Idles env Φ w' ∧ ∀ r, Q r w') : (fetch P s uri endpoint data : Action F _).Safe env Φ Q w := by
  refine fetch_safe.mpr ⟨fun p _ => unsent p, fun _ => ⟨may, fun u w₁ now => ?_⟩⟩
  obtain ⟨idles, ends⟩ := refilled u w₁ now
  obtain ⟨mayRead, reads⟩ := idles .monotonic rfl
  refine ⟨mayRead, fun clock w₂ now => ?_⟩
  obtain rfl := reads clock w₂ now
  refine (retryLoop_idle audits idles _ _ 0 _).mono (fun _ _ h => h) fun r w same => ?_
  subst same
  cases r with
  | error e => exact ends _
  | ok st => exact (audits.finishFetch st).mpr (ends _)

end OAuthClientBridge
