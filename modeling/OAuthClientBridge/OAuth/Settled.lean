import OAuthClientBridge.Observed
import OAuthClientBridge.OAuth.Fetch

/-!
The contract of `fetch`: what each answer of the provider is worth, and how a run of the retry
loop comes to its end.
-/

namespace OAuthClientBridge
open Python Effect Program

theorem encodeTexts_ok {values : List Json} (encode : ∀ v ∈ values, encodeText v = .ok ()) :
    values.forM encodeText = .ok () := by
  induction values with
  | nil => rfl
  | cons v values ih =>
    have first : encodeText v = .ok () := encode v List.mem_cons_self
    have rest := ih fun w member => encode w (List.mem_cons_of_mem v member)
    simp [List.forM, first, rest]

theorem prepare_texts {data : List (String × Json)} (texts : ∀ field ∈ data, ∃ text, field.2 = .str text) :
    prepare data = .ok () := by
  have values : ∀ v ∈ data.flatMap (fun field => formValues field.2), ∃ text, v = .str text := by
    intro v member
    obtain ⟨field, among, now⟩ := List.mem_flatMap.mp member
    obtain ⟨text, same⟩ := texts field among
    rw [same] at now
    exact ⟨text, List.mem_singleton.mp now⟩
  have first : (data.flatMap fun field => formValues field.2).forM encodeText = .ok () := by
    apply encodeTexts_ok
    intro v member
    obtain ⟨text, rfl⟩ := values v member
    rfl
  have rest : ((data.flatMap fun field => formValues field.2).flatMap formElements).forM encodeText = .ok () := by
    apply encodeTexts_ok
    intro v member
    obtain ⟨w, among, now⟩ := List.mem_flatMap.mp member
    obtain ⟨text, rfl⟩ := values w among
    cases now
  unfold prepare
  dsimp only
  rw [first, ok_bind, rest]

/-- The document that `_decode` makes of a body. -/
def decoded (s : FetchSettings) (r : UpstreamResponse) : Except PyError Document :=
  match r.body with
  | .document d => .ok d
  | .undecodable => (undecodableError s r.statusCode).map .object

def received (s : FetchSettings) : Upstream → Except PyError (Document × Option HTTPStatus × Nat)
  | .response r => do
    let result ← decoded s r
    let status ← HTTPStatus.ofCode r.statusCode
    return (result, some status, ← parseRetry r.receivedAt r.retryAfter)
  | .failure kind response _ => do
    let status ← failureStatus response
    let result ← OAuthError.serverError.json (.str kind.describe.1)
    return (.object result, status, ← failureRetry kind response)
  | .raised e _ => .error e

/-- What the loop of `fetch` knows after an answer. -/
structure Settled where
  result : Document
  status : Option HTTPStatus
  retry : Nat
  retryable : Bool

section
variable {τ : Type} (P : Platform τ) (s : FetchSettings)

/-- The error object that takes the place of a retryable result. -/
def unavailableInstead (result : Document) (outcome : TokenEndpointOutcome) : Except PyError Document := do
  let description := (← result.asDict).getOrNull "error_description"
  return .object (← (outcome.normalizedError.getD .serverError).json description)

/-- `token_endpoint_outcome` with a logger, less what it logs. -/
def judged (status : Option HTTPStatus) (result : Document) : Except PyError TokenEndpointOutcome := do
  let _ ← unexpectedTokenEndpointIssue s.retryStatusCodes status result
  classify P s status result

/-- One answer, through `_fetch` and `token_endpoint_outcome`. -/
def settle (a : Upstream) : Except PyError Settled := do
  let (result, status, retry) ← received s a
  let outcome ← judged P s status result
  if outcome.retryable then
    return ⟨← unavailableInstead result outcome, status, retry, true⟩
  else return ⟨result, status, retry, false⟩

def nothingReceived (initial : Payload) : Settled := ⟨.object initial, none, 0, true⟩

/-- The loop may still go on: what was seen, and what it knows. -/
inductive Retrying (initial : Payload) : List Seen → Settled → Prop where
  | start : Retrying initial [] (nothingReceived initial)
  | answer {l : List Seen} {k k' : Settled} {a : Upstream} (before : Retrying initial l k)
      (settled : settle P s a = .ok k') (again : k'.retryable = true) :
      Retrying initial (l ++ [.answer a]) k'
  | draw {l : List Seen} {k : Settled} {u : ℚ} (before : Retrying initial l k)
      (wait : ¬(u < 0 ∧ k.retry = 0)) : Retrying initial (l ++ [.draw u]) k

/-- How the loop ends: it gives up, it is answered, or an exception leaves it. -/
inductive Ended (initial : Payload) : List Seen → Except PyError Settled → Prop where
  | stopped {l : List Seen} {k : Settled} (before : Retrying P s initial l k) : Ended initial l (.ok k)
  | final {l : List Seen} {k k' : Settled} {a : Upstream} (before : Retrying P s initial l k)
      (settled : settle P s a = .ok k') (last : k'.retryable = false) :
      Ended initial (l ++ [.answer a]) (.ok k')
  | failed {l : List Seen} {k : Settled} {a : Upstream} {e : PyError} (before : Retrying P s initial l k)
      (settled : settle P s a = .error e) : Ended initial (l ++ [.answer a]) (.error e)
  /-- `time.sleep` refuses a negative delay. -/
  | refused {l : List Seen} {k : Settled} {u : ℚ} (before : Retrying P s initial l k)
      (negative : u < 0) (noFloor : k.retry = 0) : Ended initial (l ++ [.draw u]) (.error .valueError)

/-- What `fetch` returns when its loop knows `k`. -/
def Settled.payload (k : Settled) : Except PyError Payload := do
  let result ← k.result.asDict
  measure P (result.getOrNull "error")
  return withRetryAfter k.retry result

end

section Contract
variable {τ : Type} {F : Fernet τ} {P : Platform τ} {s : FetchSettings} {uri endpoint : String}
  {data : List (String × Json)} {Φ : Trace (bridge F) → Op τ → Prop}

theorem decode_ensures (r : UpstreamResponse) : (decode s uri r : Action F Document).Ensures Op.silent Φ
    (fun t result => t = [] ∧ result = raised (decoded s r)) := by
  unfold decode decoded
  cases r.body with
  | document d => simp
  | undecodable => cases h : undecodableError s r.statusCode <;> simp [Except.map]

section Silent
variable {α : Type} {Q : Trace (bridge F) → Except Exc α → Prop} (f : Unit → Action F α)

@[simp] theorem resetSession_bind_ensures (status : HTTPStatus) :
    (resetSession s status >>= f).Ensures Op.silent Φ Q ↔ (f ()).Ensures Op.silent Φ Q := by
  unfold resetSession
  split <;> simp

@[simp] theorem skipRetry_bind_ensures (reason : RetryReason) (event message name : String) :
    (skipRetry endpoint reason event message name >>= f).Ensures Op.silent Φ Q ↔
      (f ()).Ensures Op.silent Φ Q := by
  simp [skipRetry, log]

@[simp] theorem deadlineExceeded_bind_ensures (name : String) :
    (deadlineExceeded endpoint name >>= f).Ensures Op.silent Φ Q ↔ (f ()).Ensures Op.silent Φ Q :=
  skipRetry_bind_ensures f _ _ _ name

theorem sleep_bind_ensures (seconds : ℚ) : (sleep seconds >>= f).Ensures Op.silent Φ Q ↔
    if seconds < 0 then Q [] (.error (.python .valueError)) else (f ()).Ensures Op.silent Φ Q := by
  unfold sleep
  split
  · rfl
  · rw [ensures_perform_silent rfl]
    exact ⟨fun h => h (), fun h _ => h⟩

end Silent

theorem fetchAnswered_ensures (r : UpstreamResponse) :
    (fetchAnswered s uri endpoint r : Action F _).Ensures Op.silent Φ
      (fun t result => t = [] ∧ result = raised (received s (.response r))) := by
  unfold fetchAnswered received
  refine (decode_ensures r).bind (fun t e ended => ?_) (fun t result ended => ?_)
  · obtain ⟨rfl, ended⟩ := ended
    cases h : decoded s r <;> simp_all
  · obtain ⟨rfl, ended⟩ := ended
    have decoded : decoded s r = .ok result := by cases h : decoded s r <;> simp_all
    cases hs : HTTPStatus.ofCode r.statusCode with
    | error e => simp [decoded, hs]
    | ok status => cases hp : parseRetry r.receivedAt r.retryAfter <;> simp [decoded, hs, hp]

theorem fetchFailed_ensures (s : FetchSettings) (kind : FailureKind) (response : Option UpstreamResponse) (redirects : Nat) :
    (fetchFailed uri endpoint kind response : Action F _).Ensures Op.silent Φ
      (fun t result => t = [] ∧ result = raised (received s (.failure kind response redirects))) := by
  unfold fetchFailed received
  cases hs : failureStatus response with
  | error e => simp [hs]
  | ok status => cases hr : OAuthError.serverError.json (.str kind.describe.1) with
    | error e => simp [hs, hr]
    | ok result => cases hp : failureRetry kind response <;> simp [hs, hr, hp]

theorem fetchOnce_ensures (timeout : ℚ) (may : ∀ w, Φ [] (.send uri data w)) :
    (fetchOnce s uri endpoint data timeout : Action F _).Ensures Op.silent Φ
      (fun t result => ∃ w a, t = [⟨.send uri data w, a⟩] ∧ result = raised (received s a)) := by
  refine (ensures_perform rfl _).mpr ⟨may _, fun answer => ?_⟩
  cases answer with
  | response r => exact (fetchAnswered_ensures r).mono (fun _ _ h => h) (fun t result h => by simp [h])
  | failure kind response redirects =>
    refine (fetchFailed_ensures s kind response redirects).mono (fun _ _ h => h) (fun t result h => ?_)
    exact ⟨_, _, congrArg _ h.1, h.2⟩
  | raised e redirects => exact ⟨_, _, rfl, rfl⟩

theorem tokenEndpointOutcome_ensures (status : Option HTTPStatus) (result : Document) :
    (tokenEndpointOutcome P s endpoint status result : Action F _).Ensures Op.silent Φ
      (fun t r => t = [] ∧ r = raised (judged P s status result)) := by
  unfold tokenEndpointOutcome judged
  cases hi : unexpectedTokenEndpointIssue s.retryStatusCodes status result with
  | error e => simp
  | ok issue => cases issue <;> simp [warnUnexpected, ensures_liftPy]

def LoopState.Knows (st : LoopState) (k : Settled) : Prop :=
  st.result = k.result ∧ st.status = k.status ∧ st.retry = k.retry

theorem retryable_ensures (name : String) (st : LoopState) (outcome : TokenEndpointOutcome) :
    (retryable s endpoint name st outcome : Action F LoopState).Ensures Op.silent Φ (fun t r => t = [] ∧
      ((∃ e, unavailableInstead st.result outcome = .error e ∧ r = .error (.python e)) ∨
        ∃ result st', unavailableInstead st.result outcome = .ok result ∧ r = .ok st' ∧
          st'.Knows ⟨result, st.status, st.retry, true⟩)) := by
  unfold retryable unavailableInstead retryableEvent recordClientError LoopState.Knows
  cases hd : st.result.asDict with
  | error e => cases st.status <;> simp
  | ok p => cases hj : (outcome.normalizedError.getD .serverError).json (p.getOrNull "error_description") <;>
      cases st.status <;> simp [hj]

theorem attempt_ensures (name : String) (remaining : ℚ) (st : LoopState)
    (may : ∀ w, Φ [] (.send uri data w)) :
    (attempt P s uri endpoint data name remaining st : Action F _).Ensures Op.silent Φ (fun t r =>
      (t = [] ∧ r = .ok (st, false)) ∨ ∃ w a, t = [⟨.send uri data w, a⟩] ∧
        ((∃ e, settle P s a = .error e ∧ r = .error (.python e)) ∨
          ∃ k st', settle P s a = .ok k ∧ r = .ok (st', k.retryable) ∧ st'.Knows k)) := by
  unfold attempt
  simp only [ensures_record]
  split
  · simp
  · refine (fetchOnce_ensures remaining may).bind (fun t e ended => ?_) (fun t answered ended => ?_)
    · obtain ⟨w, a, rfl, ended⟩ := ended
      obtain ⟨p, got, rfl⟩ := error_eq_raised.mp ended
      exact .inr ⟨w, a, rfl, .inl ⟨p, by simp [settle, got], rfl⟩⟩
    · obtain ⟨w, a, rfl, ended⟩ := ended
      obtain ⟨result, status, retry⟩ := answered
      have got : received s a = .ok (result, status, retry) := ok_eq_raised.mp ended
      refine (tokenEndpointOutcome_ensures status result).bind (fun t e ended => ?_) (fun t outcome ended => ?_)
      · obtain ⟨rfl, ended⟩ := ended
        obtain ⟨p, judged, rfl⟩ := error_eq_raised.mp ended
        exact .inr ⟨w, a, rfl, .inl ⟨p, by simp [settle, got, judged], rfl⟩⟩
      · obtain ⟨rfl, ended⟩ := ended
        have judged := ok_eq_raised.mp ended
        split
        · rename_i again
          refine (retryable_ensures name _ outcome).bind (fun t e ended => ?_) (fun t st' ended => ?_)
          · obtain ⟨rfl, ⟨p, instead, ended⟩ | ⟨result, st', instead, ended, _⟩⟩ := ended
            · cases ended
              exact .inr ⟨w, a, rfl, .inl ⟨p, by simp [settle, got, judged, again, instead], rfl⟩⟩
            · cases ended
          · obtain ⟨rfl, ⟨p, instead, ended⟩ | ⟨result, st', instead, ended, knows⟩⟩ := ended
            · cases ended
            · cases ended
              exact .inr ⟨w, a, rfl, .inr ⟨_, st', by simp [settle, got, judged, again, instead], rfl, knows⟩⟩
        · rename_i last
          have concluded : settle P s a = .ok ⟨result, status, retry, false⟩ := by
            simp [settle, got, judged, last]
          unfold conclude
          split <;> simpa [concluded] using ⟨rfl, rfl, rfl⟩

theorem sleepBeforeRetry_ensures (name : String) (deadline sleepFor : ℚ) (decision : RetryDecision) :
    (sleepBeforeRetry endpoint name deadline sleepFor decision : Action F _).Ensures Op.silent Φ
      (fun t r => t = [] ∧ if sleepFor < 0 then r = .error (.python .valueError) else ∃ x, r = .ok x) := by
  unfold sleepBeforeRetry
  simp only [ensures_record, ensures_emit, ensures_log, sleep_bind_ensures]
  split
  · simp
  · refine (ensures_perform_silent rfl _).mpr fun now => ?_
    split <;> simp

theorem sleepFor_neg {retry : Nat} {delay u : ℚ} (positive : 0 < delay) :
    (if retry ≠ 0 then max (retry : ℚ) (delay * u) else delay * u) < 0 ↔ u < 0 ∧ retry = 0 := by
  split
  · rename_i floor
    have : (0 : ℚ) ≤ retry := Nat.cast_nonneg retry
    simp [floor, this.not_gt]
  · rename_i noFloor
    simp [not_not.mp noFloor, mul_neg_iff, positive, positive.not_gt]

theorem admitRetry_ensures (name : String) (deadline remaining backoff : ℚ) (retry : Nat)
    (decision : RetryDecision) (mayDraw : ∀ low high, Φ [] (.uniform low high)) :
    (admitRetry s endpoint name deadline remaining backoff retry decision : Action F _).Ensures Op.silent Φ
      (fun t r => (t = [] ∧ ∃ x, r = .ok x) ∨ ∃ low high u, t = [⟨.uniform low high, u⟩] ∧
        if u < 0 ∧ retry = 0 then r = .error (.python .valueError) else ∃ x, r = .ok x) := by
  unfold admitRetry
  dsimp only
  generalize (if retry ≠ 0 then (retry : ℚ) else backoff) = delay
  split
  · simp
  rename_i inTime
  split
  swap
  · simp
  rename_i positive
  refine (ensures_perform_silent rfl _).mpr fun admitted => ?_
  cases admitted
  · simp
  · simp only [jitterDelay, uniform, bind_assoc, ↓reduceIte]
    refine (ensures_perform rfl _).mpr ⟨mayDraw _ _, fun u => ?_⟩
    simp only [pure_eq, pure_bind]
    have negative := @sleepFor_neg retry delay u positive
    generalize (if retry ≠ 0 then max (retry : ℚ) (delay * u) else delay * u) = sleepFor at negative ⊢
    split
    · rename_i tooLong
      have notNegative : ¬(u < 0 ∧ retry = 0) := by rw [← negative]; linarith
      simp [notNegative]
    · refine (sleepBeforeRetry_ensures name deadline _ decision).mono (fun _ _ h => h) (fun t r ended => ?_)
      obtain ⟨rfl, ended⟩ := ended
      simp only [negative] at ended
      exact .inr ⟨_, _, u, rfl, ended⟩

section Loop
variable {initial : Payload} {l : List Seen} {k : Settled}

/-- What an iteration leaves behind after it saw `l`: the loop ends, or it goes on. -/
def Iterated (P : Platform τ) (s : FetchSettings) (initial : Payload) (l : List Seen)
    (r : Except Exc (LoopState × Bool)) : Prop :=
  (∃ e, Ended P s initial l (.error e) ∧ r = .error (.python e)) ∨
    ∃ k st goesOn, st.Knows k ∧ r = .ok (st, goesOn) ∧
      if goesOn then Retrying P s initial l k else Ended P s initial l (.ok k)

theorem attempt_iterated (name : String) (remaining : ℚ) {st : LoopState} (before : Retrying P s initial l k)
    (knows : st.Knows k) (may : ∀ w, Φ [] (.send uri data w)) :
    (attempt P s uri endpoint data name remaining st : Action F _).Ensures Op.silent Φ
      (fun t r => Iterated P s initial (l ++ seen t) r) := by
  refine (attempt_ensures name remaining st may).mono (fun _ _ h => h) (fun t r ended => ?_)
  rcases ended with ⟨rfl, rfl⟩ | ⟨w, a, rfl, ⟨e, failed, rfl⟩ | ⟨k', st', settled, rfl, knows'⟩⟩
  · exact .inr ⟨k, st, false, knows, rfl, by simpa using Ended.stopped before⟩
  · exact .inl ⟨e, .failed before failed, rfl⟩
  · refine .inr ⟨k', st', k'.retryable, knows', rfl, ?_⟩
    split
    · rename_i again
      exact .answer before settled again
    · rename_i last
      exact .final before settled (Bool.not_eq_true _ ▸ last)

theorem iteration_ensures (deadline : ℚ) (i : Nat) {st : LoopState} (before : Retrying P s initial l k)
    (knows : st.Knows k) (mayDraw : ∀ low high, Φ [] (.uniform low high))
    (maySend : ∀ t w k', Retrying P s initial (l ++ seen t) k' → Φ t (.send uri data w)) :
    (iteration P s uri endpoint data deadline i st : Action F _).Ensures Op.silent Φ
      (fun t r => Iterated P s initial (l ++ seen t) r) := by
  unfold iteration
  refine (ensures_perform_silent rfl _).mpr fun now => ?_
  cases st.pendingRetryDecision with
  | none => exact attempt_iterated _ _ before knows fun w => maySend [] w k (by simpa using before)
  | some decision =>
    refine (admitRetry_ensures _ deadline _ _ _ decision mayDraw).bind (fun t e ended => ?_)
      (fun t admitted ended => ?_)
    · rcases ended with ⟨rfl, x, ended⟩ | ⟨low, high, u, rfl, ended⟩
      · cases ended
      · split at ended
        · rename_i refusal
          cases ended
          exact .inl ⟨_, .refused before refusal.1 (knows.2.2 ▸ refusal.2), rfl⟩
        · obtain ⟨x, ended⟩ := ended
          cases ended
    · have waited : Retrying P s initial (l ++ seen t) k := by
        rcases ended with ⟨rfl, _⟩ | ⟨low, high, u, rfl, ended⟩
        · simpa using before
        · split at ended
          · cases ended
          · rename_i accepted
            exact .draw before (knows.2.2 ▸ accepted)
      cases admitted with
      | none => exact .inr ⟨k, st, false, knows, rfl, by simpa using Ended.stopped waited⟩
      | some left =>
        have knows' : LoopState.Knows { st with
            completedRetries := st.completedRetries + left.2, pendingRetryDecision := none } k := knows
        refine (attempt_iterated (attemptName i uri) left.1 waited knows' fun w => ?_).mono
          (fun _ _ h => h) (fun t' r ended => by simpa using ended)
        simpa using maySend t w k waited

/-- How `retryLoop` and `fetch` leave their caller after they saw `l`. -/
def Looped (P : Platform τ) (s : FetchSettings) (initial : Payload) (l : List Seen)
    (r : Except Exc LoopState) : Prop :=
  (∃ e, Ended P s initial l (.error e) ∧ r = .error (.python e)) ∨
    ∃ k st, Ended P s initial l (.ok k) ∧ st.Knows k ∧ r = .ok st

theorem retryLoop_ensures (deadline : ℚ) (n i : Nat) {st : LoopState} (before : Retrying P s initial l k)
    (knows : st.Knows k) (mayDraw : ∀ t low high, Φ t (.uniform low high))
    (maySend : ∀ t w k', Retrying P s initial (l ++ seen t) k' → Φ t (.send uri data w)) :
    (retryLoop P s uri endpoint data deadline n i st : Action F _).Ensures Op.silent Φ
      (fun t r => Looped P s initial (l ++ seen t) r) := by
  induction n generalizing i st l k Φ with
  | zero =>
    have ended : Looped P s initial (l ++ seen ([] : Trace (bridge F))) (.ok st) :=
      .inr ⟨k, st, by simpa using Ended.stopped before, knows, rfl⟩
    unfold retryLoop attemptsUsedUp
    cases st.pendingRetryDecision <;> simpa using ended
  | succ n ih =>
    refine (iteration_ensures deadline i before knows (mayDraw []) maySend).bind (fun t e ended => ?_)
      (fun t next ended => ?_)
    · rcases ended with ⟨p, ended, failed⟩ | ⟨k', st', goesOn, knows', ended, _⟩
      · cases failed
        exact .inl ⟨p, by simpa using ended, rfl⟩
      · cases ended
    · rcases ended with ⟨p, _, failed⟩ | ⟨k', st', goesOn, knows', returned, ended⟩
      · cases failed
      · cases returned
        cases goesOn with
        | false => exact .inr ⟨k', st', by simpa using ended, knows', rfl⟩
        | true =>
          refine (ih (i + 1) ended knows' (fun _ => mayDraw _) fun t' w k₂ now => ?_).mono
            (fun _ _ h => h) (fun t' r ended => by simpa using ended)
          exact maySend _ w k₂ (by simpa using now)

end Loop

theorem finishFetch_ensures {st : LoopState} {k : Settled} (knows : st.Knows k) :
    (finishFetch P endpoint st : Action F _).Ensures Op.silent Φ (fun t r => t = [] ∧ r = raised (k.payload P)) := by
  obtain ⟨result, status, retry⟩ := knows
  unfold finishFetch Settled.payload
  rw [result, retry, status]
  cases k.result.asDict with
  | error e => simp
  | ok p =>
    cases he : (p.getOrNull "error").truthy <;> cases k.status.isSome <;>
      cases measured : measure P (p.getOrNull "error") <;> simp [he, measured]

/-- The error object that `fetch` starts from. -/
def unknownResult : Payload :=
  .ofList [("error", Json.str OAuthError.serverError.value), ("error_description", Json.str unknownError)]

theorem serverError_unknown : OAuthError.serverError.json (.str unknownError) = .ok unknownResult := by
  simp [OAuthError.json, OAuthError.describe, Json.truthy, unknownError, unknownResult]

/-- How `fetch` ends, by what it saw: its form cannot be encoded, or its loop decides. -/
def FetchEnds (P : Platform τ) (s : FetchSettings) (data : List (String × Json)) (l : List Seen) (r : Except Exc Payload) : Prop :=
  (l = [] ∧ ∃ p, prepare data = .error p ∧ r = .error (.python p)) ∨
    prepare data = .ok () ∧ ∃ e, Ended P s unknownResult l e ∧ r = raised (e >>= Settled.payload P)

/-- The contract of `fetch`. -/
theorem fetch_ensures (mayDraw : ∀ t low high, Φ t (.uniform low high))
    (maySend : ∀ t w k, Retrying P s unknownResult (seen t) k → Φ t (.send uri data w)) :
    (fetch P s uri endpoint data : Action F _).Ensures Op.silent Φ
      (fun t r => FetchEnds P s data (seen t) r) := by
  unfold fetch
  cases prepared : prepare data with
  | error p => exact .inl ⟨rfl, p, prepared, rfl⟩
  | ok _ =>
  simp only [liftPy_ok_bind]
  refine (ensures_perform_silent rfl _).mpr fun _ => (ensures_perform_silent rfl _).mpr fun now => ?_
  simp only [serverError_unknown, liftPy_ok_bind]
  refine (retryLoop_ensures _ _ 0 .start ⟨rfl, rfl, rfl⟩ mayDraw maySend).bind (fun t e ended => ?_)
    (fun t st ended => ?_)
  · rcases ended with ⟨p, ended, failed⟩ | ⟨k, st, _, _, returned⟩
    · cases failed
      exact .inr ⟨prepared, _, ended, rfl⟩
    · cases returned
  · rcases ended with ⟨p, _, failed⟩ | ⟨k, st', ended, knows, returned⟩
    · cases failed
    · cases returned
      refine (finishFetch_ensures knows).mono (fun _ _ h => h) (fun t' r finished => ?_)
      exact .inr ⟨prepared, _, by simpa [finished.1] using ended, finished.2⟩

/-! ### `fetch` as a step of a view -/

inductive FetchOp (P : Platform τ) (s : FetchSettings) (uri : String) (data : List (String × Json))
    (t : Trace (bridge F)) : Op τ → Prop where
  | send (w : ℚ) {k : Settled} (before : Retrying P s unknownResult (seen t) k) :
      FetchOp P s uri data t (.send uri data w)
  | draw (low high : ℚ) : FetchOp P s uri data t (.uniform low high)

/-- A trace of posts of `data` to `uri` and jitter draws. -/
def FetchTrace (uri : String) (data : List (String × Json)) (t : Trace (bridge F)) : Prop :=
  ∀ e ∈ t, (∃ w, e.op = .send uri data w) ∨ ∃ low high, e.op = .uniform low high

theorem fetchTrace_of_past {t : Trace (bridge F)} (past : Past (FetchOp P s uri data) t) :
    FetchTrace uri data t := by
  intro e he
  obtain ⟨t₁, t₂, split⟩ := List.append_of_mem he
  have performed := past t₁ e t₂ split
  generalize e.op = o at performed
  cases performed with
  | send w before => exact .inl ⟨w, rfl⟩
  | draw low high => exact .inr ⟨low, high, rfl⟩

def Returned (P : Platform τ) (s : FetchSettings) (l : List Seen) (result : Payload) : Prop :=
  ∃ k, Ended P s unknownResult l (.ok k) ∧ k.payload P = .ok result

def Raised (P : Platform τ) (s : FetchSettings) (l : List Seen) (p : PyError) : Prop :=
  ∃ e, Ended P s unknownResult l e ∧ e >>= Settled.payload P = .error p

/-- `fetch` raised: its form could not be encoded, or its exchange failed. -/
def FetchRaised (P : Platform τ) (s : FetchSettings) (data : List (String × Json)) (l : List Seen) (p : PyError) : Prop :=
  l = [] ∧ prepare data = .error p ∨ prepare data = .ok () ∧ Raised P s l p

theorem FetchRaised.unseen {l : List Seen} {p : PyError} (h : FetchRaised P s data l p) (unsent : prepare data ≠ .ok ()) :
    l = [] :=
  h.elim And.left fun raises => absurd raises.1 unsent

theorem FetchRaised.asked {l : List Seen} {p : PyError} (h : FetchRaised P s data l p) (asked : answers l ≠ []) :
    Raised P s l p := by
  rcases h with ⟨rfl, _⟩ | ⟨_, raises⟩
  · exact absurd rfl asked
  · exact raises

theorem FetchRaised.raised {l : List Seen} {p : PyError} (h : FetchRaised P s data l p) (sent : prepare data = .ok ()) :
    Raised P s l p := by
  rcases h with ⟨_, unsent⟩ | ⟨_, raises⟩
  · cases unsent.symm.trans sent
  · exact raises

theorem fetch_bind_ensures {α : Type} {f : Payload → Action F α} {R : Trace (bridge F) → Except Exc α → Prop}
    (mayDraw : ∀ t low high, FetchTrace uri data t → Φ t (.uniform low high))
    (maySend : ∀ t w k, FetchTrace uri data t → Retrying P s unknownResult (seen t) k → Φ t (.send uri data w))
    (error : ∀ t p, FetchTrace uri data t → FetchRaised P s data (seen t) p → R t (.error (.python p)))
    (next : ∀ t result, FetchTrace uri data t → prepare data = .ok () → Returned P s (seen t) result →
      (f result).Ensures Op.silent (fun t' => Φ (t ++ t')) (fun t' => R (t ++ t'))) :
    (fetch P s uri endpoint data >>= f).Ensures Op.silent Φ R := by
  have contract : (fetch P s uri endpoint data : Action F Payload).Ensures Op.silent (FetchOp P s uri data)
      (fun t r => FetchEnds P s data (seen t) r) :=
    fetch_ensures (fun _ low high => .draw low high) (fun _ w _ before => .send w before)
  have traced : (fetch P s uri endpoint data : Action F Payload).Ensures Op.silent Φ
      (fun t r => FetchTrace uri data t ∧ FetchEnds P s data (seen t) r) := by
    refine contract.mono_past (fun t o past now => ?_) (fun t r past ended => ⟨fetchTrace_of_past past, ended⟩)
    cases now with
    | send w before => exact maySend t w _ (fetchTrace_of_past past) before
    | draw low high => exact mayDraw t low high (fetchTrace_of_past past)
  refine traced.bind (fun t e ended => ?_) (fun t result ended => ?_)
  · obtain ⟨trace, ⟨unseen, p, prepared, failed⟩ | ⟨prepared, k, ended, failed⟩⟩ := ended
    · cases failed
      exact error t p trace (.inl ⟨unseen, prepared⟩)
    · obtain ⟨p, failure, rfl⟩ := error_eq_raised.mp failed
      exact error t p trace (.inr ⟨prepared, k, ended, failure⟩)
  · obtain ⟨trace, ⟨_, _, _, failed⟩ | ⟨prepared, k, ended, returned⟩⟩ := ended
    · cases failed
    have returned := ok_eq_raised.mp returned
    cases k with
    | error p => cases returned
    | ok k => exact next t result trace prepared ⟨k, ended, returned⟩

end Contract
end OAuthClientBridge
