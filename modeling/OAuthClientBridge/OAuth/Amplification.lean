import Mathlib.Algebra.BigOperators.Fin
import Mathlib.Algebra.Order.BigOperators.Group.Finset
import OAuthClientBridge.Utils.Bucket
import OAuthClientBridge.OAuth.Steps
import OAuthClientBridge.World

/-!
The retry budget of a process: any number of fetch calls share one bucket, and every `session.send`
beyond the first of a call has taken a token from it. The redirects that a send follows take none.
-/

namespace OAuthClientBridge
open Python Effect Program

/-- The bucket that `get_retry_limiter` keeps for the settings. -/
def getRetryLimiter (s : FetchSettings) : Bucket :=
  Bucket.new s.retryBudgetCapacity s.retryBudgetRefillPerInitial

structure FetchCall where
  uri : String
  endpoint : String
  data : List (String × Json)

variable {τ : Type} {F : Fernet τ}

def httpRequests (t : Trace (bridge F)) : Nat := ((answers (seen t)).map Upstream.requests).sum

theorem answers_length (t : Trace (bridge F)) : (answers (seen t)).length = sends t := by
  induction t with
  | nil => rfl
  | cons e t ih =>
    unfold sends at ih ⊢
    rw [List.countP_cons, ← ih]
    obtain ⟨o, answer⟩ := e
    cases o <;> rfl

theorem httpRequests_direct {t : Trace (bridge F)} (direct : ∀ a ∈ answers (seen t), a.requests = 1) :
    httpRequests t = sends t := by
  have once : (answers (seen t)).map Upstream.requests = List.replicate (answers (seen t)).length 1 :=
    List.eq_replicate_iff.mpr ⟨List.length_map _, by simpa using direct⟩
  unfold httpRequests
  rw [once, List.sum_replicate, smul_eq_mul, mul_one, answers_length]

/-- Calls of one process meet in the bucket alone. -/
def sharing : Environment (bridge F) Bucket
  | b, ⟨.budgetAdd tokens, _⟩, b' => b' = b.add tokens
  | b, ⟨.budgetConsume, granted⟩, b' => (granted, b') = b.consume 1
  | b, _, b' => b' = b

/-- What one call has sent, been granted and added. -/
structure Spending where
  sent : Nat := 0
  granted : Nat := 0
  added : Nat := 0

def Spending.enter (g : Spending) : Event (bridge F) → Spending
  | ⟨.send _ _ _, _⟩ => { g with sent := g.sent + 1 }
  | ⟨.budgetConsume, true⟩ => { g with granted := g.granted + 1 }
  | ⟨.budgetAdd _, _⟩ => { g with added := g.added + 1 }
  | _ => g

/-- Every send but the first was granted, and the bucket is refilled once. -/
def Spending.Allows (s : FetchSettings) (g : Spending) : Op τ → Prop
  | .send _ _ _ => g.sent ≤ g.granted
  | .budgetAdd tokens => tokens = s.retryBudgetRefillPerInitial ∧ g.added = 0
  | _ => True

theorem spending_sent (t : Trace (bridge F)) (g : Spending) : (t.foldl Spending.enter g).sent = g.sent + sends t := by
  induction t generalizing g with
  | nil => rfl
  | cons e t ih =>
    rw [List.foldl_cons, ih]
    unfold sends
    rw [List.countP_cons]
    obtain ⟨o, answer⟩ := e
    cases o with
    | send uri data timeout =>
      simp only [Spending.enter, Op.isSend, if_true]
      omega
    | budgetConsume => cases answer <;> rfl
    | _ => rfl

section Call
variable {P : Platform τ} {s : FetchSettings} {uri endpoint : String} {data : List (String × Json)}

theorem spending_audits (s : FetchSettings) :
    Audits (F := F) (tally Spending.enter) (Spending.Allows s) fun _ g => g :=
  ⟨fun _ _ _ => Iff.rfl, fun _ _ _ => rfl, fun _ _ => trivial⟩

/-- What the books say before the `i`-th iteration: a pending retry has not been granted yet. -/
def Spending.Before (i : Nat) (st : LoopState) (g : Spending) : Prop :=
  if st.pendingRetryDecision.isSome then 0 < i ∧ g.sent ≤ g.granted + 1 else g.sent ≤ g.granted

theorem attempt_spends (i : Nat) (name : String) (remaining : ℚ) {st : LoopState} {g : Spending}
    (granted : g.sent ≤ g.granted) :
    (attempt P s uri endpoint data name remaining st : Action F _).Safe (tally Spending.enter) (Spending.Allows s)
      (onward (fun st g => Spending.Before (i + 1) st g) fun _ _ => True) g := by
  rw [(spending_audits s).attempt]
  dsimp only
  split
  · trivial
  refine ⟨granted, ?_⟩
  rintro a _ rfl
  rcases attempted_eq P s st a with ⟨e, _, failed⟩ | ⟨k, pending, _, again, _, answered⟩
  · rw [failed]
    trivial
  · rw [answered]
    cases goesOn : k.retryable with
    | false => trivial
    | true =>
      rw [goesOn] at again
      show Spending.Before _ _ _
      unfold Spending.Before
      rw [if_pos again]
      refine ⟨i.succ_pos, ?_⟩
      show g.sent + 1 ≤ g.granted + 1
      omega

theorem baseDelay_pos (backs : 0 < s.backoffFactor) (retry : Nat) {i : Nat} (later : 0 < i) :
    0 < baseDelay retry ((2 ^ i - 1) * s.backoffFactor) := by
  unfold baseDelay
  split
  · rename_i floor
    exact_mod_cast Nat.pos_of_ne_zero floor
  · apply mul_pos _ backs
    have : (1 : ℚ) < 2 ^ i := one_lt_pow₀ (by norm_num) (by omega)
    linarith

theorem iteration_spends (backs : 0 < s.backoffFactor) (deadline : ℚ) (i : Nat) {st : LoopState} {g : Spending}
    (before : g.Before i st) :
    (iteration P s uri endpoint data deadline i st : Action F _).Safe (tally Spending.enter) (Spending.Allows s)
      (onward (fun st g => Spending.Before (i + 1) st g) fun _ _ => True) g := by
  refine (iteration_safe deadline i st).mpr ⟨trivial, ?_⟩
  rintro now _ rfl
  unfold Spending.Before at before
  cases pending : st.pendingRetryDecision with
  | none =>
    rw [pending] at before
    exact attempt_spends i _ _ before
  | some decision =>
    rw [pending] at before
    obtain ⟨later, bound⟩ := before
    apply ((spending_audits s).admitRetry ..).mpr
    split
    · trivial
    rw [if_pos (baseDelay_pos backs st.retry later)]
    refine ⟨trivial, ?_⟩
    rintro (_ | _) _ rfl
    · trivial
    refine ⟨trivial, ?_⟩
    rintro u _ rfl
    split
    · trivial
    rw [(spending_audits s).sleepBeforeRetry]
    dsimp only
    split
    · trivial
    refine ⟨trivial, ?_⟩
    rintro _ _ rfl
    refine ⟨trivial, ?_⟩
    rintro woken _ rfl
    split
    · trivial
    · exact attempt_spends i _ _ bound

theorem fetch_spends (P : Platform τ) (backs : 0 < s.backoffFactor) (call : FetchCall) :
    (fetch P s call.uri call.endpoint call.data : Action F _).Safe (tally Spending.enter) (Spending.Allows s)
      (fun _ _ => True) {} := by
  refine fetch_safe.mpr ⟨fun _ _ => trivial, fun _ => ⟨⟨rfl, rfl⟩, ?_⟩⟩
  rintro _ _ rfl
  refine ⟨trivial, ?_⟩
  rintro now _ rfl
  have finishes : ∀ (r : Except Exc LoopState) (g : Spending), True →
      andThen (tally Spending.enter) (Spending.Allows s) (finishFetch P call.endpoint : LoopState → Action F Payload)
        (fun _ _ => True) r g := by
    intro r g _
    cases r with
    | error e => trivial
    | ok st => exact ((spending_audits s).finishFetch st).mpr trivial
  refine retryLoop_safe (I := fun _ i st g => Spending.Before i st g) (fun i st g _ => ?_)
    (fun n i st g before => ?_) _ 0 _ (Nat.le_refl 0)
  · rw [(spending_audits s).attemptsUsedUp]
    exact finishes _ _ trivial
  · exact (iteration_spends backs _ i before).mono (fun _ _ allowed => allowed)
      fun r g => onward_mono (fun _ _ h => h) finishes

end Call

/-! ### All calls -/

theorem sum_update {G : Type} {N : Nat} (f : G → ℚ) (gs : Fin N → G) (i : Fin N) (g : G) :
    ∑ j, f (Function.update gs i g j) = ∑ j, f (gs j) + (f g - f (gs i)) := by
  have others : ∑ j ∈ Finset.univ.erase i, f (Function.update gs i g j) = ∑ j ∈ Finset.univ.erase i, f (gs j) :=
    Finset.sum_congr rfl fun j hj => by rw [Function.update_of_ne (Finset.ne_of_mem_erase hj)]
  rw [← Finset.add_sum_erase _ _ (Finset.mem_univ i), others, Function.update_self,
    ← Finset.add_sum_erase Finset.univ (fun j => f (gs j)) (Finset.mem_univ i)]
  ring

/-- The bucket accounts for every token that a call was granted. -/
structure Budgeted {N : Nat} (s : FetchSettings) (b : Bucket) (gs : Fin N → Spending) : Prop where
  level : b.Level
  capacity : b.capacity = s.retryBudgetCapacity
  conserved : b.tokens + ∑ i, ((gs i).granted : ℚ) ≤
    s.retryBudgetCapacity + (∑ i, ((gs i).added : ℚ)) * s.retryBudgetRefillPerInitial
  added : ∀ i, (gs i).added ≤ 1
  sent : ∀ i, (gs i).sent ≤ (gs i).granted + 1

section Calls
variable {s : FetchSettings} {N : Nat} {b b' : Bucket} {gs : Fin N → Spending}

theorem Budgeted.initial (capacity : 0 ≤ s.retryBudgetCapacity) :
    Budgeted s (getRetryLimiter s) fun _ : Fin N => ({} : Spending) where
  level := Bucket.new_level capacity _
  capacity := rfl
  conserved := by simp [getRetryLimiter, Bucket.new]
  added := by simp
  sent := by simp

theorem Budgeted.update (budgeted : Budgeted s b gs) {i : Fin N} {g : Spending} (level : b'.Level)
    (capacity : b'.capacity = b.capacity)
    (conserved : b'.tokens + (g.granted - (gs i).granted) ≤
      b.tokens + (g.added - (gs i).added) * s.retryBudgetRefillPerInitial)
    (added : g.added ≤ 1) (sent : g.sent ≤ g.granted + 1) : Budgeted s b' (Function.update gs i g) where
  level := level
  capacity := capacity.trans budgeted.capacity
  conserved := by
    have granted : ∑ j, ((Function.update gs i g j).granted : ℚ) = _ := sum_update (fun g => (g.granted : ℚ)) gs i g
    have refilled : ∑ j, ((Function.update gs i g j).added : ℚ) = _ := sum_update (fun g => (g.added : ℚ)) gs i g
    have before := budgeted.conserved
    rw [granted, refilled]
    linarith
  added j := by
    by_cases same : j = i
    · rwa [same, Function.update_self]
    · rw [Function.update_of_ne same]
      exact budgeted.added j
  sent j := by
    by_cases same : j = i
    · rwa [same, Function.update_self]
    · rw [Function.update_of_ne same]
      exact budgeted.sent j

theorem Budgeted.step (refill : 0 ≤ s.retryBudgetRefillPerInitial) (budgeted : Budgeted s b gs) (i : Fin N)
    {o : Op τ} {answer : Answer F o} (allowed : (gs i).Allows s o)
    (now : sharing (F := F) b ⟨o, answer⟩ b') :
    Budgeted s b' (Function.update gs i ((gs i).enter (⟨o, answer⟩ : Event (bridge F)))) := by
  have added := budgeted.added i
  have sent := budgeted.sent i
  -- Three operations touch the bucket or the books; every other one leaves both alone.
  cases o with
  | send uri data timeout =>
    obtain rfl : b' = b := now
    have within : (gs i).sent ≤ (gs i).granted := allowed
    refine budgeted.update budgeted.level rfl (by simp [Spending.enter]) added ?_
    show (gs i).sent + 1 ≤ (gs i).granted + 1
    omega
  | budgetAdd tokens =>
    obtain ⟨rfl, first⟩ : tokens = s.retryBudgetRefillPerInitial ∧ (gs i).added = 0 := allowed
    obtain rfl : b' = b.add _ := now
    refine budgeted.update (budgeted.level.add refill) rfl ?_ ?_ sent
    · have gained := b.add_le s.retryBudgetRefillPerInitial
      simp only [Spending.enter, first]
      push_cast
      linarith
    · show (gs i).added + 1 ≤ 1
      omega
  | budgetConsume =>
    have taken : (answer, b') = b.consume 1 := now
    obtain ⟨granted, rfl⟩ : answer = (b.consume 1).1 ∧ b' = (b.consume 1).2 :=
      ⟨congrArg Prod.fst taken, congrArg Prod.snd taken⟩
    refine budgeted.update (budgeted.level.consume zero_le_one) (by simp) ?_ ?_ ?_
    · cases answer with
      | false =>
        rw [Bucket.consume_false granted.symm]
        simp [Spending.enter]
      | true =>
        obtain ⟨enough, same⟩ := Bucket.consume_true granted.symm
        rw [same]
        simp only [Spending.enter]
        push_cast
        linarith
    · cases answer <;> exact added
    · cases answer with
      | false => exact sent
      | true =>
        show (gs i).sent ≤ (gs i).granted + 1 + 1
        omega
  | _ =>
    obtain rfl : b' = b := now
    exact budgeted.update budgeted.level rfl (by simp [Spending.enter]) added sent

/-- Retries are bounded by the budget: the level stays within the bucket, and `N` calls send at
most `N` times first, a full bucket and their refills. So many are their requests, too, as long as no
answer is reached through a redirect. -/
theorem retry_amplification (P : Platform τ) (capacity : 0 ≤ s.retryBudgetCapacity)
    (refill : 0 ≤ s.retryBudgetRefillPerInitial) (backs : 0 < s.backoffFactor) (calls : Fin N → FetchCall)
    {c : Pool.Config (bridge F) Exc Payload Bucket (Fin N)}
    (h : Pool.Reachable sharing
      (Pool.start (getRetryLimiter s) fun i => fetch P s (calls i).uri (calls i).endpoint (calls i).data) c) :
    0 ≤ c.world.tokens ∧ c.world.tokens ≤ s.retryBudgetCapacity ∧
      ∑ i, (sends (c.thread i).done : ℚ) ≤
        N + s.retryBudgetCapacity + N * s.retryBudgetRefillPerInitial ∧
      ((∀ i, ∀ a ∈ answers (seen (c.thread i).done), a.requests = 1) →
        ∑ i, (httpRequests (c.thread i).done : ℚ) ≤
          N + s.retryBudgetCapacity + N * s.retryBudgetRefillPerInitial) := by
  have budgeted : Budgeted s c.world fun i => (c.thread i).done.foldl Spending.enter {} :=
    Pool.invariant_tally (I := Budgeted s) (fun i => fetch_spends P backs (calls i)) (.initial capacity)
      (fun _ _ i _ _ _ before allowed now => before.step refill i allowed now) h
  obtain ⟨level, same, conserved, added, sent⟩ := budgeted
  refine ⟨level.1, same ▸ level.2, ?_⟩
  have refills : (∑ i, (((c.thread i).done.foldl Spending.enter {}).added : ℚ)) ≤ N := by
    calc _ ≤ ∑ _ : Fin N, (1 : ℚ) := Finset.sum_le_sum fun i _ => by exact_mod_cast added i
      _ = N := by simp
  have sendings : ∑ i, (sends (c.thread i).done : ℚ) ≤
      N + ∑ i, (((c.thread i).done.foldl Spending.enter {}).granted : ℚ) := by
    have each : ∀ i, (sends (c.thread i).done : ℚ) ≤ ((c.thread i).done.foldl Spending.enter {}).granted + 1 := by
      intro i
      have bound := sent i
      rw [spending_sent, Nat.zero_add] at bound
      exact_mod_cast bound
    calc _ ≤ ∑ i, ((((c.thread i).done.foldl Spending.enter {}).granted : ℚ) + 1) :=
          Finset.sum_le_sum fun i _ => each i
      _ = _ := by rw [Finset.sum_add_distrib]; simp [add_comm]
  have gained := mul_le_mul_of_nonneg_right refills refill
  have left := level.1
  have bound : ∑ i, (sends (c.thread i).done : ℚ) ≤
      N + s.retryBudgetCapacity + N * s.retryBudgetRefillPerInitial := by linarith
  refine ⟨bound, fun direct => ?_⟩
  have same : ∀ i, (httpRequests (c.thread i).done : ℚ) = sends (c.thread i).done :=
    fun i => congrArg _ (httpRequests_direct (direct i))
  rwa [Finset.sum_congr rfl fun i _ => same i]

end Calls

namespace Sample

def spend : Machine (bridge platform.fernet) (Bucket × World platform.fernet)
  | .budgetAdd tokens, (b, w) => ((), b.add tokens, w)
  | .budgetConsume, (b, w) => ((b.consume 1).1, (b.consume 1).2, w)
  | o, (b, w) => ((World.answer o w).1, b, (World.answer o w).2)

theorem spend_sharing (o : Op Sealed) (w : Bucket × World platform.fernet) :
    sharing (F := platform.fernet) w.1 ⟨o, (spend o w).1⟩ (spend o w).2.1 := by
  cases o <;> rfl

def call : FetchCall := ⟨settings.oauth.tokenUri, "token", []⟩

def calling (s : FetchSettings) : Action platform.fernet Payload :=
  fetch platform s call.uri call.endpoint call.data

def callRun (s : FetchSettings) (upstream : Stream' Upstream) :
    Outcome (bridge platform.fernet) Exc Payload (Bucket × World platform.fernet) :=
  (calling s).eval spend (getRetryLimiter s, emptyWorld upstream)

def calls (s : FetchSettings) (N : Nat) : Pool.Config (bridge platform.fernet) Exc Payload Bucket (Fin N) :=
  Pool.start (getRetryLimiter s) fun _ => calling s

/-- The first call has come to its end. -/
def called (s : FetchSettings) (N : Nat) (upstream : Stream' Upstream) :
    Pool.Config (bridge platform.fernet) Exc Payload Bucket (Fin (N + 1)) :=
  (calls s (N + 1)).advance 0 (callRun s upstream).world.1 (callRun s upstream).trace (ofExcept (callRun s upstream).result)

theorem called_reachable (s : FetchSettings) (N : Nat) (upstream : Stream' Upstream) :
    Pool.Reachable sharing (calls s (N + 1)) (called s N upstream) :=
  Pool.reachable_run (Program.eval_runs spend _ _)
    (Program.eval_follows Prod.fst spend_sharing _ (getRetryLimiter s, emptyWorld upstream))

/-- No retries, and an empty bucket that is never refilled. -/
def unbudgeted : FetchSettings :=
  { settings.fetch with totalRetries := 0, retryBudgetCapacity := 0, retryBudgetRefillPerInitial := 0 }

/-- The token endpoint redirects to itself until `requests` would give up, and then hands out a token. -/
def redirected : Upstream :=
  .response
    { statusCode := 200
      body := .document (.object (.ofList [("access_token", Json.str "token"), ("token_type", Json.str "Bearer")]))
      redirects := 30 }

end Sample

theorem retry_amplification_unavailable :
    let c := Sample.called Sample.settings.fetch 1 fun _ => Sample.response 503 {}
    sends (c.thread 0).done = 4 ∧ 0 ≤ c.world.tokens ∧ c.world.tokens ≤ 8 ∧
      ∑ i, (sends (c.thread i).done : ℚ) ≤ 2 + 8 + 2 * (1 / 4) ∧
      ∑ i, (httpRequests (c.thread i).done : ℚ) ≤ 2 + 8 + 2 * (1 / 4) := by
  intro c
  have direct : ∀ i, ∀ a ∈ answers (seen (c.thread i).done), a.requests = 1 := by decide +kernel
  obtain ⟨low, high, sendings, requests⟩ := retry_amplification Sample.platform (by decide) (by decide +kernel)
    (by decide +kernel) (fun _ => Sample.call) (Sample.called_reachable Sample.settings.fetch 1 _)
  exact ⟨by decide +kernel, low, high, sendings, requests direct⟩

/-- One call without retries and without a budget makes 31 requests. -/
theorem redirects_unbudgeted :
    let s := Sample.unbudgeted
    s.totalRetries = 0 ∧ s.retryBudgetCapacity = 0 ∧ s.retryBudgetRefillPerInitial = 0 ∧ 0 < s.backoffFactor ∧
      ∃ c, Pool.Reachable sharing (Sample.calls s 1) c ∧ ∑ i, (httpRequests (c.thread i).done : ℚ) = 31 ∧
        (1 : ℚ) + s.retryBudgetCapacity + 1 * s.retryBudgetRefillPerInitial = 1 := by
  refine ⟨rfl, rfl, rfl, by decide +kernel, _, Sample.called_reachable Sample.unbudgeted 0 fun _ => Sample.redirected, ?_, ?_⟩
  · have once : httpRequests ((Sample.called Sample.unbudgeted 0 fun _ => Sample.redirected).thread 0).done = 31 := by
      decide +kernel
    rw [Fin.sum_univ_one, once]
    rfl
  · decide +kernel

end OAuthClientBridge
