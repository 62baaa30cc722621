import OAuthClientBridge.Veil

/-!
Two runs of `fetch` side by side: the same attempts at the same times, whatever the token material.
-/

namespace OAuthClientBridge
open Python Effect Program

/-- `fetch` logs the payload as it is, or puts it as it is into the status of its span. -/
def Discloses (s : FetchSettings) (status : HTTPStatus) (p : Payload) : Bool :=
  let error := p.getOrNull "error"
  if status ∈ s.retryStatusCodes then
    error.hashable && (!error.pyEq .null && !error.pyEq (.str OAuthError.temporarilyUnavailable.value) || validateToken p)
  else status.isSuccess && !validateToken p || error.truthy

/-- An answer whose token material, if it has any, `fetch` does not disclose. -/
def Quiet (s : FetchSettings) (a : Upstream) : Prop :=
  ∀ (r : UpstreamResponse) (p : Payload) (status : HTTPStatus) (n : Nat), a = .response r →
    r.body = .document (.object p) → HTTPStatus.ofCode r.statusCode = .ok status →
    parseRetry r.receivedAt r.retryAfter = .ok n → Exposed p → Discloses s status p = false

/-- The operations that two worlds under a veil answer alike. -/
def Op.level {τ : Type} : Op τ → Bool
  | .monotonic | .sleep _ | .uniform _ _ | .budgetAdd _ | .budgetConsume | .generateKey | .generateId
  | .sessionPop _ | .sessionSet _ _ | .emit _ => true
  | _ => false

section Level
variable {τ : Type} {F : Fernet τ} {α β : Type}

abbrev Level (p : Action F α) : Prop := p.Only fun o : Op τ => o.level = true

@[simp] theorem level_pure (a : α) : Level (.pure a : Action F α) := trivial

@[simp] theorem level_throw (e : Exc) : Level (.throw e : Action F α) := trivial

theorem level_perform {o : Op τ} (h : o.level = true) {f : Answer F o → Action F β} (next : ∀ answer, Level (f answer)) :
    Level (perform o >>= f) := ⟨h, next⟩

@[simp] theorem level_emit_bind (e : Emission) (f : Unit → Action F β) : Level (emit e >>= f) ↔ Level (f ()) :=
  ⟨fun h => h.2 (), fun h => ⟨rfl, fun _ => h⟩⟩

@[simp] theorem level_emit (e : Emission) : Level (emit e : Action F Unit) := ⟨rfl, fun _ => trivial⟩

@[simp] theorem level_log_bind (l : LogLevel) (event : String) (arguments : List LogValue)
    (fields : List (String × LogValue)) (f : Unit → Action F β) :
    Level (log l event arguments fields >>= f) ↔ Level (f ()) := level_emit_bind _ f

@[simp] theorem level_log (l : LogLevel) (event : String) (arguments : List LogValue)
    (fields : List (String × LogValue)) : Level (log l event arguments fields : Action F Unit) := level_emit _

@[simp] theorem level_record_bind (m : Metric) (f : Unit → Action F β) : Level (record m >>= f) ↔ Level (f ()) :=
  level_emit_bind _ f

@[simp] theorem level_record (m : Metric) : Level (record m : Action F Unit) := level_emit _

@[simp] theorem level_liftPy (r : Except PyError α) : Level (liftPy r : Action F α) := by
  cases r <;> trivial

theorem level_bind {p : Action F α} {f : α → Action F β} (h : Level p) (next : ∀ a, Level (f a)) : Level (p >>= f) :=
  h.bind next

theorem level_raiseError (error : OAuthError) (description uri retryAfter : Json) :
    Level (raiseError error description uri retryAfter : Action F α) :=
  level_bind (level_liftPy _) fun _ => level_throw _

end Level

namespace Veil
variable {τ : Type} {F : Fernet τ} (V : Veil)

/-- Two worlds that differ in what the veil covers. Nonces differ freely, and so do wall clocks where
logs are not compared. -/
structure Beside (w w' : World F) : Prop where
  session : w'.session = w.session
  monotonic : w'.monotonic = w.monotonic
  uniform : w'.uniform = w.uniform
  budget : w'.budget = w.budget
  keys : w'.keys = w.keys
  ids : w'.ids = w.ids
  upstream : ∀ n, V.Upstreams (w.upstream n) (w'.upstream n)
  utcnow : V.logged → w'.utcnow = w.utcnow
  emitted : V.logged → w'.emitted = w.emitted

/-- Two worlds beside each other, with the given tables. -/
structure Held (s : FetchSettings) (σ σ' : Store τ) (w w' : World F) : Prop extends V.Beside w w' where
  left : w.store = σ
  right : w'.store = σ'
  quiet : V.logged → ∀ n, Quiet s (w.upstream n)

def Even (s : FetchSettings) (w w' : World F) : Prop :=
  ∃ σ σ', V.Stores F σ σ' ∧ V.Held s σ σ' w w'

def Steady {α β : Type} (s : FetchSettings) (A : α → β → Prop) (p : Action F α) (q : Action F β) : Prop :=
  ∀ σ σ', Coupled World.answer (V.Held s σ σ') (V.Held s σ σ') A p q

section Rules
variable {V} {s : FetchSettings} {σ σ' : Store τ} {w w' : World F} {α β γ δ : Type} {A : α → β → Prop} {B : γ → δ → Prop}

theorem Held.level (h : V.Held s σ σ' w w') {o : Op τ} (level : o.level = true) :
    (World.answer o w).1 = (World.answer o w').1 ∧ V.Held s σ σ' (World.answer o w).2 (World.answer o w').2 := by
  cases o with
  | monotonic => exact ⟨by simp [World.answer, h.monotonic], { h with monotonic := by simp [World.answer, h.monotonic] }⟩
  | sleep => exact ⟨rfl, h⟩
  | uniform low high => exact ⟨by simp [World.answer, h.uniform], { h with uniform := by simp [World.answer, h.uniform] }⟩
  | budgetAdd => exact ⟨rfl, h⟩
  | budgetConsume => exact ⟨by simp [World.answer, h.budget], { h with budget := by simp [World.answer, h.budget] }⟩
  | generateKey => exact ⟨by simp [World.answer, h.keys], { h with keys := by simp [World.answer, h.keys] }⟩
  | generateId => exact ⟨by simp [World.answer, h.ids], { h with ids := by simp [World.answer, h.ids] }⟩
  | sessionPop key => exact ⟨by simp [World.answer, h.session], { h with session := by simp [World.answer, h.session] }⟩
  | sessionSet key value => exact ⟨rfl, { h with session := by simp [World.answer, h.session] }⟩
  | emit e => exact ⟨rfl, { h with emitted := fun logged => by simp [World.answer, h.emitted logged] }⟩
  | _ => cases level

theorem Steady.pure {a : α} {b : β} (h : A a b) : V.Steady (F := F) s A (.pure a) (.pure b) :=
  fun _ _ => Coupled.pure h

theorem Steady.throw (e : Exc) : V.Steady (F := F) s A (.throw e) (.throw e) := fun _ _ => Coupled.throw e

theorem Steady.bind {p : Action F α} {q : Action F β} {f : α → Action F γ} {g : β → Action F δ} (h : V.Steady s A p q)
    (next : ∀ a b, A a b → V.Steady s B (f a) (g b)) : V.Steady s B (p >>= f) (q >>= g) := fun σ σ' =>
  (h σ σ').bind (fun a b values => next a b values σ σ') fun _ _ held => held

theorem Steady.emits {e e' : Emission} {f : Unit → Action F α} {g : Unit → Action F β} (same : V.logged → e' = e)
    (next : V.Steady s A (f ()) (g ())) : V.Steady s A (emit e >>= f) (emit e' >>= g) := by
  intro σ σ'
  refine Coupled.op (fun _ _ => True) (V.Held s σ σ') (fun w w' held => ⟨trivial, ?_⟩)
    fun _ _ _ => next σ σ'
  exact { held with emitted := fun logged => by simp [World.answer, held.emitted logged, same logged] }

theorem Steady.self {p : Action F α} (h : Level p) : V.Steady s Eq p p := fun _ _ =>
  Coupled.self (fun _ level _ _ held => held.level level) h

theorem Steady.after {p : Action F α} {f : α → Action F β} {g : α → Action F γ} {A : β → γ → Prop} (h : Level p)
    (next : ∀ a, V.Steady s A (f a) (g a)) : V.Steady s A (p >>= f) (p >>= g) :=
  (Steady.self h).bind fun a _ same => same ▸ next a

theorem Steady.lifts {x : Except PyError α} {y : Except PyError β} {f : α → Action F γ} {g : β → Action F δ}
    (h : Alike A x y) (next : ∀ a b, x = .ok a → A a b → V.Steady s B (f a) (g b)) :
    V.Steady s B (liftPy x >>= f) (liftPy y >>= g) := by
  cases h with
  | ok h => exact next _ _ rfl h
  | error e => exact .throw _

theorem Steady.lift {f : α → Action F β} {g : α → Action F γ} {A : β → γ → Prop} (x : Except PyError α)
    (next : ∀ a, x = .ok a → V.Steady s A (f a) (g a)) :
    V.Steady s A (liftPy x >>= f) (liftPy x >>= g) := by
  cases x with
  | ok a => exact next a rfl
  | error e => exact .throw _

theorem Steady.ofPy (x : Except PyError α) : V.Steady (F := F) s (fun a b => b = a ∧ x = .ok a) (liftPy x) (liftPy x) := by
  cases x with
  | ok a => exact .pure ⟨rfl, rfl⟩
  | error e => exact .throw _

end Rules

/-! ### What the loop of `fetch` carries -/

section Loop
variable {s : FetchSettings}

/-- A payload that neither the outcome nor the end of `fetch` shows. -/
def Hushed (s : FetchSettings) (status : Option HTTPStatus) (d : Document) : Prop :=
  ∃ p code, d = .object p ∧ status = some code ∧ Discloses s code p = false

theorem Hushed.issue {status : Option HTTPStatus} {d : Document} (h : Hushed s status d) (issue : String) :
    unexpectedTokenEndpointIssue s.retryStatusCodes status d ≠ .ok (some issue) := by
  obtain ⟨p, code, rfl, rfl, shown⟩ := h
  unfold Discloses at shown
  unfold unexpectedTokenEndpointIssue
  by_cases retry : code ∈ s.retryStatusCodes
  · cases scalar : (p.getOrNull "error").hashable
    · simp [retry, scalar]
    · simp only [retry, scalar, if_true, Bool.true_and, Bool.or_eq_false_iff] at shown
      simp [retry, scalar, shown, -Bool.and_eq_true]
  · simp only [retry, if_false, Bool.or_eq_false_iff] at shown
    cases success : code.isSuccess
    · simp [retry, success]
    · have valid : validateToken p = true := by simpa [success] using shown.1
      simp [retry, success, valid]

theorem Hushed.error {P : Platform τ} {status : Option HTTPStatus} {d : Document} {outcome : TokenEndpointOutcome}
    (h : Hushed s status d) (classified : classify P s status d = .ok outcome) (last : outcome.retryable = false) :
    ∃ p, d = .object p ∧ (p.getOrNull "error").truthy = false := by
  obtain ⟨p, code, rfl, rfl, shown⟩ := h
  rw [classify_object, Except.ok.injEq] at classified
  subst classified
  have retry : code ∉ s.retryStatusCodes := by simpa [objectOutcome_retryable] using last
  simp only [Discloses, retry, if_false, Bool.or_eq_false_iff] at shown
  exact ⟨p, rfl, shown.2⟩

inductive Received (s : FetchSettings) :
    Document × Option HTTPStatus × Nat → Document × Option HTTPStatus × Nat → Prop where
  | mk {d d' : Document} (status : Option HTTPStatus) (retry : Nat) (documents : V.Documents d d')
      (hushed : V.logged → d' = d ∨ Hushed s status d) : Received s (d, status, retry) (d', status, retry)

inductive States : LoopState → LoopState → Prop where
  | mk (st : LoopState) {d d' : Document} (documents : V.Documents d d')
      (spoken : V.logged → d' = d ∨ ∃ p, d = .object p ∧ (p.getOrNull "error").truthy = false) :
      States { st with result := d } { st with result := d' }

end Loop

/-! ### The same steps in both runs -/

section Steps
variable {s : FetchSettings} {uri endpoint name : String}

theorem level_skipRetry (reason : RetryReason) (event message : String) :
    Level (skipRetry endpoint reason event message name : Action F Unit) := by
  simp [skipRetry]

theorem level_jitterDelay (delay : ℚ) (preserveFloor : Bool) : Level (jitterDelay s delay preserveFloor : Action F ℚ) := by
  unfold jitterDelay uniform
  exact level_perform rfl fun _ => level_pure _

theorem level_sleepBeforeRetry (deadline sleepFor : ℚ) (decision : RetryDecision) :
    Level (sleepBeforeRetry endpoint name deadline sleepFor decision : Action F (Option (ℚ × Nat))) := by
  simp only [sleepBeforeRetry, level_record_bind, level_emit_bind, level_log_bind]
  refine level_bind ?_ fun _ => ?_
  · unfold sleep
    split
    · exact level_throw _
    · exact ⟨rfl, fun _ => trivial⟩
  · refine level_perform rfl fun now => ?_
    split
    · exact level_bind (level_skipRetry _ _ _) fun _ => level_pure _
    · exact level_pure _

theorem level_admitRetry (deadline remaining backoff : ℚ) (retry : Nat) (decision : RetryDecision) :
    Level (admitRetry s endpoint name deadline remaining backoff retry decision : Action F (Option (ℚ × Nat))) := by
  unfold admitRetry
  dsimp only
  generalize (if retry ≠ 0 then (retry : ℚ) else backoff) = delay
  split
  · exact level_bind (level_skipRetry _ _ _) fun _ => level_pure _
  split
  swap
  · exact level_pure _
  refine level_perform rfl fun admitted => ?_
  cases admitted
  · exact level_bind (level_skipRetry _ _ _) fun _ => level_pure _
  refine level_bind (level_jitterDelay _ _) fun jittered => ?_
  generalize (if retry ≠ 0 then max (retry : ℚ) jittered else jittered) = sleepFor
  split
  · exact level_bind (level_skipRetry _ _ _) fun _ => level_pure _
  · exact level_sleepBeforeRetry _ _ _

theorem level_resetSession (status : HTTPStatus) : Level (resetSession s status : Action F Unit) := by
  unfold resetSession
  split <;> simp

theorem level_recordClientError (status : Option HTTPStatus) (error : OAuthError) :
    Level (recordClientError s endpoint status error : Action F Unit) := by
  cases status <;> simp [recordClientError]

theorem level_retryableEvent (status : Option HTTPStatus) : Level (retryableEvent status : Action F Unit) := by
  cases status <;> simp [retryableEvent]

end Steps

/-! ### The steps that the payload enters -/

section Attempts
variable {V} {s : FetchSettings} {uri endpoint name : String}

theorem Steady.decode {r r' : UpstreamResponse} (h : V.Responses r r') :
    V.Steady (F := F) s (fun d d' => V.Documents d d' ∧ (d' = d ∨ ∃ p, d = .object p ∧ r.body = .document (.object p)))
      (decode s uri r) (OAuthClientBridge.decode s uri r') := by
  obtain ⟨r, bodies⟩ := h
  cases bodies with
  | document documents =>
    cases documents with
    | object payloads => exact .pure ⟨.object payloads, .inr ⟨_, rfl, rfl⟩⟩
    | other v => exact .pure ⟨.other v, .inl rfl⟩
  | undecodable =>
    refine .emits (fun _ => rfl) (.emits (fun _ => rfl) (.lift _ fun p worded => .pure ?_))
    unfold undecodableError at worded
    split at worded
    · exact ⟨.object (payloads_json worded), .inl rfl⟩
    · exact ⟨.object (payloads_json worded), .inl rfl⟩

theorem Steady.fetchAnswered {r r' : UpstreamResponse} (h : V.Responses r r') (quiet : V.logged → Quiet s (.response r)) :
    V.Steady (F := F) s (V.Received s) (fetchAnswered s uri endpoint r)
      (OAuthClientBridge.fetchAnswered s uri endpoint r') := by
  have decoded := @Steady.decode τ F V s uri r r' h
  have status : r'.statusCode = r.statusCode ∧ r'.receivedAt = r.receivedAt ∧ r'.retryAfter = r.retryAfter := by
    cases h
    exact ⟨rfl, rfl, rfl⟩
  unfold OAuthClientBridge.fetchAnswered
  rw [status.1, status.2.1, status.2.2]
  refine decoded.bind fun d d' ⟨documents, origin⟩ => .lift _ fun code known => .lift _ fun retry parsed => ?_
  refine .after (level_resetSession code) fun _ => .emits (fun _ => rfl) (.pure (.mk _ _ documents fun logged => ?_))
  rcases origin with same | ⟨p, rfl, body⟩
  · exact .inl same
  obtain ⟨payloads⟩ := documents
  by_cases exposed : Exposed p
  · exact .inr ⟨p, code, rfl, rfl, quiet logged r p code retry rfl body known parsed exposed⟩
  · exact .inl (by rw [payloads.eq exposed])

theorem Steady.fetchFailed {r r' : Option UpstreamResponse} (kind : FailureKind) (h : Option.Rel V.Responses r r') :
    V.Steady (F := F) s (V.Received s) (fetchFailed uri endpoint kind r)
      (OAuthClientBridge.fetchFailed uri endpoint kind r') := by
  unfold OAuthClientBridge.fetchFailed
  rw [failureStatus_eq h, failureRetry_eq kind h]
  refine .emits (fun _ => rfl) (.emits (fun _ => rfl) (.emits (fun _ => rfl) (.lift _ fun status _ => ?_)))
  refine .emits (fun _ => rfl) (.lift _ fun p worded => .lift _ fun retry _ => .emits (fun _ => rfl) ?_)
  exact .pure (.mk _ _ (.object (payloads_json worded)) fun _ => .inl rfl)

theorem Steady.fetchOnce (data data' : List (String × Json)) (timeout : ℚ) :
    V.Steady (F := F) s (V.Received s) (fetchOnce s uri endpoint data timeout)
      (OAuthClientBridge.fetchOnce s uri endpoint data' timeout) := by
  intro σ σ'
  refine Coupled.op (fun a a' => V.Upstreams a a' ∧ (V.logged → Quiet s a)) (V.Held s σ σ')
    (fun w w' held => ⟨⟨held.upstream 0, fun logged => held.quiet logged 0⟩, ?_⟩) fun a a' ⟨answers, quiet⟩ => ?_
  · exact { held with
      upstream := fun n => held.upstream (n + 1)
      quiet := fun logged n => held.quiet logged (n + 1) }
  · cases answers with
    | response h => exact Steady.fetchAnswered h quiet σ σ'
    | failure kind redirects h => exact Steady.fetchFailed kind h σ σ'
    | raised e redirects => exact Steady.throw _ σ σ'

variable {P : Platform τ}

theorem Steady.tokenEndpointOutcome {d d' : Document} {status : Option HTTPStatus} (documents : V.Documents d d')
    (hushed : V.logged → d' = d ∨ Hushed s status d) :
    V.Steady (F := F) s (fun o o' => o' = o ∧ classify P s status d = .ok o) (tokenEndpointOutcome P s endpoint status d)
      (OAuthClientBridge.tokenEndpointOutcome P s endpoint status d') := by
  unfold OAuthClientBridge.tokenEndpointOutcome
  rw [documents.issue, documents.classify]
  refine .lift _ fun issue found => ?_
  have classified := Steady.ofPy (V := V) (F := F) (s := s) (classify P s status d)
  cases issue with
  | none => exact classified
  | some issue =>
    refine .emits (fun logged => ?_) classified
    rcases hushed logged with rfl | quiet
    · rfl
    · exact absurd found (quiet.issue issue)

theorem Steady.retryable {d d' : Document} (st : LoopState) (outcome : TokenEndpointOutcome) (documents : V.Documents d d') :
    V.Steady (F := F) s V.States (retryable s endpoint name { st with result := d } outcome)
      (OAuthClientBridge.retryable s endpoint name { st with result := d' } outcome) := by
  unfold OAuthClientBridge.retryable
  refine .after (level_retryableEvent _) fun _ => .lifts documents.asDict fun p p' _ payloads => ?_
  rw [payloads.getOrNull_plain (by decide)]
  refine .lift _ fun q worded => .after (level_recordClientError _ _) fun _ => .emits (fun _ => rfl) (.pure ?_)
  exact .mk { st with pendingRetryDecision := some ⟨.retry, outcome.retryReason.getD .unknown⟩ }
    (.object (payloads_json worded)) fun _ => .inl rfl

theorem Steady.conclude {d d' : Document} (st : LoopState) (documents : V.Documents d d')
    (spoken : V.logged → d' = d ∨ ∃ p, d = .object p ∧ (p.getOrNull "error").truthy = false) :
    V.Steady (F := F) s V.States (conclude { st with result := d }) (OAuthClientBridge.conclude { st with result := d' }) := by
  unfold OAuthClientBridge.conclude
  dsimp only
  have ended := States.mk { st with pendingRetryDecision := none } documents spoken
  split
  · exact .emits (fun _ => rfl) (.pure ended)
  · exact .emits (fun _ => rfl) (.pure ended)

def Iterations (x x' : LoopState × Bool) : Prop := V.States x.1 x'.1 ∧ x'.2 = x.2

theorem Steady.attempt {st st' : LoopState} (data data' : List (String × Json)) (remaining : ℚ) (states : V.States st st') :
    V.Steady (F := F) s (Iterations (V := V)) (attempt P s uri endpoint data name remaining st)
      (OAuthClientBridge.attempt P s uri endpoint data' name remaining st') := by
  obtain ⟨st, documents, spoken⟩ := states
  unfold OAuthClientBridge.attempt
  refine .emits (fun _ => rfl) ?_
  split
  · exact .after (level_skipRetry _ _ _) fun _ => .pure ⟨.mk st documents spoken, rfl⟩
  refine (Steady.fetchOnce data data' remaining).bind fun x x' received => ?_
  obtain ⟨status, retry, documents, hushed⟩ := received
  refine (Steady.tokenEndpointOutcome documents hushed).bind fun outcome outcome' ⟨same, classified⟩ => ?_
  subst same
  cases again : outcome'.retryable with
  | true =>
    refine (Steady.retryable { st with status, retry } outcome' documents).bind fun st st' states => ?_
    exact .pure ⟨states, rfl⟩
  | false =>
    refine (Steady.conclude { st with status, retry } documents fun logged => ?_).bind fun st st' states => ?_
    · exact (hushed logged).imp_right fun quiet => quiet.error classified again
    · exact .pure ⟨states, rfl⟩

theorem Steady.iteration {st st' : LoopState} (data data' : List (String × Json)) (deadline : ℚ) (i : Nat)
    (states : V.States st st') :
    V.Steady (F := F) s (Iterations (V := V)) (iteration P s uri endpoint data deadline i st)
      (OAuthClientBridge.iteration P s uri endpoint data' deadline i st') := by
  obtain ⟨st, documents, spoken⟩ := states
  unfold OAuthClientBridge.iteration
  refine .after (level_perform rfl fun _ => level_pure _) fun now => ?_
  dsimp only
  split
  · exact .attempt _ _ _ (.mk st documents spoken)
  refine .after (level_admitRetry _ _ _ _ _) fun admitted => ?_
  cases admitted with
  | none => exact .pure ⟨.mk st documents spoken, rfl⟩
  | some admitted =>
    exact .attempt _ _ _ (.mk { st with
      completedRetries := st.completedRetries + admitted.2, pendingRetryDecision := none } documents spoken)

theorem Steady.retryLoop {st st' : LoopState} (data data' : List (String × Json)) (deadline : ℚ) (n i : Nat)
    (states : V.States st st') :
    V.Steady (F := F) s V.States (retryLoop P s uri endpoint data deadline n i st)
      (OAuthClientBridge.retryLoop P s uri endpoint data' deadline n i st') := by
  induction n generalizing i st st' with
  | zero =>
    obtain ⟨st, documents, spoken⟩ := states
    unfold OAuthClientBridge.retryLoop attemptsUsedUp
    dsimp only
    split
    · exact .emits (fun _ => rfl) (.pure (.mk st documents spoken))
    · exact .pure (.mk st documents spoken)
  | succ n ih =>
    unfold OAuthClientBridge.retryLoop
    refine (Steady.iteration data data' deadline i states).bind fun x x' iterated => ?_
    obtain ⟨st, more⟩ := x
    obtain ⟨st', more'⟩ := x'
    obtain ⟨states, rfl⟩ : V.States st st' ∧ more' = more := iterated
    cases more' with
    | true => exact ih (i + 1) states
    | false => exact .pure states

theorem Steady.finishFetch {st st' : LoopState} (states : V.States st st') :
    V.Steady (F := F) s V.Payloads (finishFetch P endpoint st) (OAuthClientBridge.finishFetch P endpoint st') := by
  obtain ⟨st, documents, spoken⟩ := states
  unfold OAuthClientBridge.finishFetch
  refine .emits (fun _ => rfl) ?_
  cases documents with
  | other v => exact .throw _
  | @object p p' payloads =>
    have error := payloads.getOrNull_plain (show "error" ∉ tokenMembers by decide)
    have done : V.Steady (F := F) s V.Payloads
        (do liftPy (measure P (p.getOrNull "error")); return OAuthClientBridge.withRetryAfter st.retry p)
        (do liftPy (measure P (p.getOrNull "error")); return OAuthClientBridge.withRetryAfter st.retry p') :=
      .lift _ fun _ _ => .pure (payloads.withRetryAfter st.retry)
    simp only [Document.asDict_object, liftPy_ok_bind, error]
    cases erring : (p.getOrNull "error").truthy with
    | false =>
      refine .emits (fun _ => rfl) (.emits (fun _ => rfl) (.emits (fun _ => rfl) ?_))
      split
      · exact .emits (fun _ => rfl) done
      · exact done
    | true =>
      refine .emits (fun logged => ?_) (.emits (fun _ => rfl) (.emits (fun _ => rfl) (.emits (fun _ => rfl) ?_)))
      · rcases spoken logged with same | ⟨_, same, quiet⟩
        · rw [Document.object.inj same]
        · cases same
          cases erring.symm.trans quiet
      · split
        · exact .emits (fun _ => rfl) (.emits (fun _ => rfl) done)
        · exact .emits (fun _ => rfl) done

theorem Steady.fetch {data data' : List (String × Json)} (prepared : prepare data' = prepare data) :
    V.Steady (F := F) s V.Payloads (fetch P s uri endpoint data) (OAuthClientBridge.fetch P s uri endpoint data') := by
  unfold OAuthClientBridge.fetch
  rw [prepared]
  refine .lift _ fun _ _ => ?_
  refine .after (level_perform rfl fun _ => level_pure _) fun _ => ?_
  refine .after (level_perform rfl fun _ => level_pure _) fun now => .lift _ fun p worded => ?_
  refine (Steady.retryLoop data data' _ _ _ ?_).bind fun st st' states => .finishFetch states
  exact .mk { result := .object p } (.object (payloads_json worded)) fun _ => .inl rfl

end Attempts

end Veil
end OAuthClientBridge
