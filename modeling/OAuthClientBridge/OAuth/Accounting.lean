import OAuthClientBridge.OAuth.Books
import OAuthClientBridge.World

/-!
The loop of `fetch` and its books: they agree with the requests sent exactly when every answer
it reads is one that the loop keeps its books under.
-/

namespace OAuthClientBridge
open Python Effect Program

variable {τ : Type} {F : Fernet τ}

section Entries
variable (P : Platform τ) (s : FetchSettings) (g : Ledger)

theorem enter_attempt (endpoint : String) (kind : RetryAttemptKind) (u : Unit) :
    g.enter (F := F) P s ⟨.emit (.metric (.clientAttempt endpoint kind)), u⟩ =
      { g with attempts := g.attempts ++ [kind] } := by
  simp [Ledger.enter, Watch.enter, Watch.Admits]

theorem enter_decision (endpoint : String) (decision : RetryDecision) (u : Unit) :
    g.enter (F := F) P s ⟨.emit (.metric (.retryDecision endpoint decision)), u⟩ =
      { g with pending := g.pending.map (· ++ [decision.action]) } := by
  simp [Ledger.enter, Watch.enter, Watch.Admits]

theorem enter_retries (endpoint : String) (status : Option HTTPStatus) (count : Nat) (u : Unit) :
    g.enter (F := F) P s ⟨.emit (.metric (.clientRetries endpoint status count)), u⟩ =
      { g with completed := g.completed ++ [count] } := by
  simp [Ledger.enter, Watch.enter, Watch.Admits]

theorem enter_quiet {e : Emission} (quiet : e.booked = false) (u : Unit) :
    g.enter (F := F) P s ⟨.emit e, u⟩ = g := by
  cases e with
  | metric m =>
    cases m with
    | clientAttempt | retryDecision | clientRetries => cases quiet
    | _ => simp [Ledger.enter, Watch.enter, Watch.Admits]
  | _ => simp [Ledger.enter, Watch.enter, Watch.Admits]

theorem enter_consume (granted : Bool) : g.enter (F := F) P s ⟨.budgetConsume, granted⟩ =
    { g with consumed := g.consumed + granted.toNat } := by
  simp [Ledger.enter, Watch.enter, Watch.Admits]

theorem enter_sleep (seconds : ℚ) (u : Unit) : g.enter (F := F) P s ⟨.sleep seconds, u⟩ =
    { g with watch := { g.watch with slept := true } } := by
  simp [Ledger.enter, Watch.enter, Watch.Admits]

theorem enter_monotonic {deadline : ℚ} (known : g.watch.deadline = some deadline) (now : ℚ) :
    g.enter (F := F) P s ⟨.monotonic, now⟩ =
      { g with
        watch := { g.watch with left := deadline - now }
        steady := g.steady ∧ if g.watch.answered = 0 ∨ g.watch.slept = true then now < deadline
          else deadline < now ∨ 0 < baseDelay g.watch.floor (g.watch.backoff s) } := by
  simp [Ledger.enter, Watch.enter, Watch.Admits, known]

theorem enter_uniform (low high u : ℚ) : g.enter (F := F) P s ⟨.uniform low high, u⟩ =
    { g with steady := g.steady ∧ 0 ≤ jittered g.watch.floor (g.watch.backoff s) u ∧
        jittered g.watch.floor (g.watch.backoff s) u ≤ g.watch.left } := by
  simp [Ledger.enter, Watch.enter, Watch.Admits]

theorem enter_send (uri : String) (data : List (String × Json)) (timeout : ℚ) (a : Upstream) :
    g.enter (F := F) P s ⟨.send uri data timeout, a⟩ =
      { g with
        watch := { g.watch with answered := g.watch.answered + 1, floor := waitFloor s a, slept := false }
        steady := g.steady ∧ (a.retried s = true → ∃ k, settle P s a = .ok k)
        sent := g.sent + 1
        decided := g.decided ∧ ∀ ds ∈ g.pending, ds = [.retry]
        pending := if a.retried s then some [] else none } := rfl

theorem ledger_audits : Audits (F := F) (tally (Ledger.enter P s)) (fun _ _ => True)
    fun e g => g.enter (F := F) P s ⟨.emit e, ()⟩ :=
  ⟨fun _ _ _ => .rfl, fun _ quiet g => enter_quiet P s g quiet (), fun _ _ => trivial⟩

theorem enter_skip (endpoint : String) (reason : RetryReason) :
    skipped (fun e g => g.enter (F := F) P s ⟨.emit e, ()⟩) endpoint reason g =
      { g with pending := g.pending.map (· ++ [.skip]) } :=
  enter_decision P s g endpoint ⟨.skip, reason⟩ ()

/-- A book that has gone wrong between two requests stays wrong. -/
def Ledger.Lost (g : Ledger) : Prop := ¬g.steady ∧ ¬g.decided

theorem Ledger.Lost.enter {g : Ledger} (lost : g.Lost) (e : Event (bridge F)) : (g.enter P s e).Lost := by
  refine ⟨fun steady => lost.1 ((ledger_entered P s g e).steady.mp steady).1, fun decided => lost.2 ?_⟩
  cases quiet : e.op.isSend with
  | false => exact (ledger_pending P s g quiet).2.mp decided
  | true =>
    obtain ⟨o, a⟩ := e
    cases o with
    | send uri data timeout => exact decided.1
    | _ => cases quiet

end Entries

theorem labels_succ (i : Nat) : labels i ++ [if i > 0 then .retry else .initial] = labels (i + 1) := by
  cases i with
  | zero => rfl
  | succ i => simp [labels, List.replicate_succ']

theorem labels_ne (i : Nat) (kind : RetryAttemptKind) : labels i ++ [kind] ≠ labels i := by
  intro same
  have lengths := congrArg List.length same
  simp at lengths

/-- The books before the `i`-th request, once it is settled that it is sent. -/
structure Ready (deadline : ℚ) (i : Nat) (st : LoopState) (g : Ledger) : Prop where
  steady : g.steady
  decided : g.decided
  sent : g.sent = i
  answered : g.watch.answered = i
  deadline : g.watch.deadline = some deadline
  attempts : g.attempts = labels i
  consumed : g.consumed = i
  retries : st.completedRetries = i
  completed : g.completed = []
  last : ∀ ds ∈ g.pending, ds = [.retry]

/-- The books before the `i`-th iteration. -/
structure InStep (deadline : ℚ) (i : Nat) (st : LoopState) (g : Ledger) : Prop where
  steady : g.steady
  decided : g.decided
  sent : g.sent = i
  answered : g.watch.answered = i
  deadline : g.watch.deadline = some deadline
  attempts : g.attempts = labels i
  consumed : g.consumed = i - 1
  retries : st.completedRetries = i - 1
  completed : g.completed = []
  awake : g.watch.slept = false
  first : st.pendingRetryDecision = none → i = 0 ∧ g.pending = none
  later : ∀ d, st.pendingRetryDecision = some d →
    0 < i ∧ d.action = .retry ∧ g.pending = some [] ∧ g.watch.floor = st.retry

/-- The books after the loop; `fetch` has yet to report the retries. -/
def Closed : Except Exc LoopState → Ledger → Prop
  | .ok st, g => g.steady ↔ Ledger.Balanced { g with completed := g.completed ++ [st.completedRetries] }
  | .error _, g => g.steady ↔ g.Balanced

section Loop
variable {P : Platform τ} {s : FetchSettings} {uri endpoint : String} {data : List (String × Json)}
  {deadline : ℚ} {i : Nat} {st : LoopState} {g : Ledger}

theorem Ledger.Lost.closed (lost : g.Lost) (r : Except Exc LoopState) : Closed r g := by
  cases r <;> exact iff_of_false lost.1 fun balanced => lost.2 balanced.decided

theorem waitFloor_settled {a : Upstream} {k : Settled} (h : settle P s a = .ok k) : waitFloor s a = k.retry := by
  obtain ⟨status, retry, _⟩ := settle_ok h
  simp [waitFloor, received_eq, status, retry]

theorem attempt_kept (ready : Ready deadline i st g) (name : String) {remaining : ℚ} (left : 0 < remaining) :
    (attempt P s uri endpoint data name remaining st : Action F _).Safe (tally (Ledger.enter P s)) (fun _ _ => True)
      (onward (fun st g => InStep deadline (i + 1) st g ∨ g.Lost) Closed) g := by
  obtain ⟨steady, decided, sent, answered, known, attempts, consumed, retries, completed, last⟩ := ready
  rw [(ledger_audits P s).attempt]
  dsimp only
  rw [if_neg (not_le.mpr left)]
  refine ⟨trivial, ?_⟩
  rintro a _ rfl
  rw [enter_attempt, enter_send, retries, attempts, labels_succ]
  rcases attempted_eq P s st a with ⟨e, raises, failed⟩ | ⟨k, pending, settled, again, action, ended⟩
  · rw [failed]
    show _ ↔ Ledger.Balanced _
    cases retried : a.retried s with
    | true =>
      refine iff_of_false (fun h => ?_) (fun h => ?_)
      · obtain ⟨k, settled⟩ := h.2 rfl
        cases raises.symm.trans settled
      · exact absurd (h.last [] rfl) (by decide)
    | false =>
      refine iff_of_true ⟨steady, fun h => absurd h Bool.false_ne_true⟩ ⟨?_, ?_, ?_, ⟨decided, last⟩, ?_⟩
      · rw [sent]
      · simp [completed]
      · show g.consumed = g.sent + 1 - 1
        omega
      · intro ds h
        cases h
  · obtain ⟨_, _, retryable⟩ := settle_ok settled
    rw [ended, retryable]
    cases retried : a.retried s with
    | true =>
      refine .inl ⟨⟨steady, fun _ => ⟨k, settled⟩⟩, ⟨decided, last⟩, congrArg (· + 1) sent, congrArg (· + 1) answered,
        known, rfl, consumed, retries, completed, rfl, fun none => ?_, fun d is => ⟨i.succ_pos, action d is, rfl, ?_⟩⟩
      · rw [retryable, retried, show pending = _ from none] at again
        cases again
      · exact waitFloor_settled settled
    | false =>
      show _ ↔ Ledger.Balanced _
      refine iff_of_true ⟨steady, fun h => absurd h Bool.false_ne_true⟩ ⟨?_, ?_, ?_, ⟨decided, last⟩, ?_⟩
      · rw [sent]
      · simp [completed, retries, sent]
      · show g.consumed = g.sent + 1 - 1
        omega
      · intro ds h
        cases h

theorem Ledger.Lost.onward (lost : g.Lost) (r : Except Exc (LoopState × Bool)) :
    onward (fun st g => InStep deadline i st g ∨ g.Lost) Closed r g := by
  rcases r with e | ⟨st, _ | _⟩
  · exact lost.closed (.error e)
  · exact lost.closed (.ok st)
  · exact .inr lost

theorem closed_of_pending {l : List RetryDecisionAction} (pending : g.pending = some l) (wrong : l ≠ [.skip])
    (unsteady : ¬g.steady) (r : Except Exc LoopState) : Closed r g := by
  cases r <;> exact iff_of_false unsteady fun balanced => wrong (balanced.last l pending)

theorem closed_of_attempts (wrong : g.attempts ≠ labels g.sent) (unsteady : ¬g.steady) (r : Except Exc LoopState) :
    Closed r g := by
  cases r <;> exact iff_of_false unsteady fun balanced => wrong balanced.attempts

theorem InStep.skipped (kept : InStep deadline i st g) (watch : Watch) {steady : Prop} {consumed : Nat}
    (same : steady ↔ consumed = i - 1) :
    Closed (.ok st) { g with watch, steady, consumed, pending := some [.skip] } := by
  refine same.trans ⟨fun h => ⟨?_, ?_, ?_, kept.decided, by simp⟩, fun balanced => ?_⟩
  · show g.attempts = labels g.sent
    rw [kept.attempts, kept.sent]
  · simp [kept.completed, kept.retries, kept.sent]
  · show consumed = g.sent - 1
    rw [h, kept.sent]
  · have consumed : consumed = g.sent - 1 := balanced.consumed
    rw [consumed, kept.sent]

theorem attempt_late (attempts : g.attempts = labels g.sent) (unsteady : ¬g.steady) (name : String) {remaining : ℚ}
    (late : remaining ≤ 0) :
    (attempt P s uri endpoint data name remaining st : Action F _).Safe (tally (Ledger.enter P s)) (fun _ _ => True)
      (onward (fun st g => InStep deadline (i + 1) st g ∨ g.Lost) Closed) g := by
  rw [(ledger_audits P s).attempt]
  dsimp only
  rw [if_pos late]
  rw [enter_attempt, enter_skip]
  show Closed (.ok st) _
  apply closed_of_attempts
  · show g.attempts ++ _ ≠ labels g.sent
    rw [attempts]
    exact labels_ne _ _
  · exact unsteady

theorem attempt_lost (kept : InStep deadline i st g) (undecided : g.pending = some []) (name : String) (remaining : ℚ)
    {watch : Watch} {steady : Prop} (unsteady : ¬steady) (st' : LoopState) :
    (attempt P s uri endpoint data name remaining st' : Action F _).Safe (tally (Ledger.enter P s)) (fun _ _ => True)
      (onward (fun st g => InStep deadline (i + 1) st g ∨ g.Lost) Closed) { g with watch, steady } := by
  by_cases late : remaining ≤ 0
  · refine attempt_late ?_ unsteady name late
    show g.attempts = labels g.sent
    rw [kept.attempts, kept.sent]
  · rw [(ledger_audits P s).attempt]
    dsimp only
    rw [if_neg late]
    refine ⟨trivial, ?_⟩
    rintro a _ rfl
    rw [enter_attempt, enter_send]
    apply Ledger.Lost.onward
    constructor
    · exact fun h => unsteady h.1
    · exact fun h => absurd (h.2 [] undecided) (by decide)

/-- The books when the loop has settled on a retry, or left. -/
def Admitted (deadline : ℚ) (i : Nat) (st : LoopState) : Except Exc (Option (ℚ × Nat)) → Ledger → Prop
  | .error e, g => Closed (.error e) g
  | .ok none, g => Closed (.ok st) g
  | .ok (some (remaining, completed)), g => 0 < remaining ∧ Ready deadline i
      { st with completedRetries := st.completedRetries + completed, pendingRetryDecision := none } g

theorem baseDelay_nonneg (backs : 0 ≤ s.backoffFactor) (retry i : Nat) :
    0 ≤ baseDelay retry ((2 ^ i - 1) * s.backoffFactor) := by
  unfold baseDelay
  split
  · exact Nat.cast_nonneg retry
  · apply mul_nonneg _ backs
    have : (1 : ℚ) ≤ 2 ^ i := one_le_pow₀ (by norm_num)
    linarith

theorem sleepBeforeRetry_kept (kept : InStep deadline i st g) (later : 0 < i) (undecided : g.pending = some [])
    {decision : RetryDecision} (retry : decision.action = .retry) (name : String) (sleepFor : ℚ) {watch : Watch}
    (known : watch.deadline = some deadline) (answered : watch.answered = i) {steady : Prop}
    (nonneg : steady ↔ 0 ≤ sleepFor) :
    (sleepBeforeRetry endpoint name deadline sleepFor decision : Action F _).Safe (tally (Ledger.enter P s))
      (fun _ _ => True) (Admitted deadline i st)
      { g with watch, steady, consumed := i } := by
  rw [(ledger_audits P s).sleepBeforeRetry]
  dsimp only
  rw [enter_decision, undecided, retry]
  split
  · rename_i negative
    have unsteady : ¬steady := fun h => absurd (nonneg.mp h) (not_le.mpr negative)
    show Closed (.error (.python .valueError)) _
    exact closed_of_pending (l := [.retry]) rfl (by decide) unsteady _
  rename_i accepted
  refine ⟨trivial, ?_⟩
  rintro u _ rfl
  refine ⟨trivial, ?_⟩
  rintro now _ rfl
  rw [enter_sleep, enter_monotonic _ _ _ known]
  split
  · rename_i late
    rw [enter_skip]
    show Closed (.ok st) _
    refine closed_of_pending (l := [.retry, .skip]) rfl (by decide) (fun h => ?_) _
    have inTime : now < deadline := by simpa using h.2
    linarith
  · rename_i left
    rw [not_le] at left
    refine ⟨left, ⟨nonneg.mpr (not_lt.mp accepted), ?_⟩, kept.decided, kept.sent, answered, known, kept.attempts, rfl,
      ?_, kept.completed, by simp⟩
    · simp only [or_true, if_true]
      linarith
    · show st.completedRetries + 1 = i
      have := kept.retries
      omega

theorem iteration_kept (backs : 0 ≤ s.backoffFactor) (kept : InStep deadline i st g) :
    (iteration P s uri endpoint data deadline i st : Action F _).Safe (tally (Ledger.enter P s)) (fun _ _ => True)
      (onward (fun st g => InStep deadline (i + 1) st g ∨ g.Lost) Closed) g := by
  refine (iteration_safe deadline i st).mpr ⟨trivial, ?_⟩
  rintro now _ rfl
  rw [enter_monotonic _ _ _ kept.deadline, kept.answered, kept.awake]
  -- The first request is due unless the time is up; every later one has to be admitted.
  cases pending : st.pendingRetryDecision with
  | none =>
    obtain ⟨rfl, open_⟩ := kept.first pending
    by_cases left : now < deadline
    · have inTime : 0 < deadline - now := by linarith
      refine attempt_kept ?_ _ inTime
      exact ⟨⟨kept.steady, by simpa using left⟩, kept.decided, kept.sent, kept.answered, kept.deadline,
        kept.attempts, kept.consumed, kept.retries, kept.completed, by simp [open_]⟩
    · refine attempt_late ?_ (fun h => left (by simpa using h.2)) _ (by linarith)
      show g.attempts = labels g.sent
      rw [kept.attempts, kept.sent]
  | some decision =>
    obtain ⟨later, retry, undecided, floor⟩ := kept.later decision pending
    have waits : baseDelay g.watch.floor (g.watch.backoff s) = baseDelay st.retry ((2 ^ i - 1) * s.backoffFactor) := by
      rw [floor, Watch.backoff, kept.answered]
    rw [if_neg (by simp; omega), waits]
    apply ((ledger_audits P s).admitRetry ..).mpr
    -- The delay is too long, or there is none, or no token is left, or its jitter makes it too long.
    -- Where there is none the retry goes on undecided; the other three report that it is skipped.
    have nonneg := baseDelay_nonneg backs st.retry i
    split
    · rename_i tooLong
      rw [enter_skip]
      show Closed (.ok st) _
      rw [undecided]
      refine kept.skipped _ (iff_of_true ⟨kept.steady, ?_⟩ kept.consumed)
      rcases nonneg.eq_or_lt with none | delayed
      · left
        linarith
      · exact .inr delayed
    rename_i short
    split
    swap
    · rename_i noDelay
      refine attempt_lost kept undecided _ _ (fun h => ?_) _
      rcases h.2 with late | delayed
      · linarith
      · exact noDelay delayed
    rename_i delayed
    refine ⟨trivial, ?_⟩
    rintro (_ | _) _ rfl
    · rw [enter_consume, enter_skip]
      show Closed (.ok st) _
      rw [undecided]
      exact kept.skipped _ (iff_of_true ⟨kept.steady, .inr delayed⟩ kept.consumed)
    refine ⟨trivial, ?_⟩
    rintro u _ rfl
    have taken : g.consumed + true.toNat = i := by
      rw [kept.consumed]
      simp only [Bool.toNat_true]
      omega
    have wait : jittered g.watch.floor (g.watch.backoff s) u = jittered st.retry ((2 ^ i - 1) * s.backoffFactor) u := by
      rw [floor, Watch.backoff, kept.answered]
    rw [enter_consume, enter_uniform, taken]
    simp only [Watch.backoff] at wait ⊢
    rw [wait]
    split
    · rename_i tooLong
      rw [enter_skip]
      show Closed (.ok st) _
      rw [undecided]
      have spent : i ≠ i - 1 := by omega
      exact kept.skipped _ (iff_of_false (fun h => absurd h.2.2 (not_le.mpr tooLong)) spent)
    · rename_i fits
      refine Safe.mono (sleepBeforeRetry_kept kept later undecided retry _ _ ?_ ?_ ?_) (fun _ _ allowed => allowed)
        fun r g ended => ?_
      · exact kept.deadline
      · exact kept.answered
      · exact ⟨fun h => h.2.1, fun h => ⟨⟨kept.steady, .inr delayed⟩, h, not_lt.mp fits⟩⟩
      · rcases r with e | (_ | ⟨remaining, completed⟩)
        · exact ended
        · exact ended
        · exact attempt_kept ended.2 _ ended.1

theorem fetch_kept (P : Platform τ) (s : FetchSettings) (uri endpoint : String) (data : List (String × Json))
    (backs : 0 ≤ s.backoffFactor) :
    (fetch P s uri endpoint data : Action F _).Safe (tally (Ledger.enter P s)) (fun _ _ => True)
      (fun _ g => g.steady ↔ g.Balanced) {} := by
  refine fetch_safe.mpr ⟨fun _ _ => iff_of_true trivial ⟨rfl, by simp, rfl, trivial, by simp⟩, fun _ => ⟨trivial, ?_⟩⟩
  rintro _ _ rfl
  refine ⟨trivial, ?_⟩
  rintro now _ rfl
  have closes : ∀ (r : Except Exc LoopState) (g : Ledger), Closed r g →
      andThen (tally (Ledger.enter P s)) (fun _ _ => True) (finishFetch P endpoint : LoopState → Action F Payload)
        (fun _ g => g.steady ↔ g.Balanced) r g := by
    intro r g closed
    cases r with
    | error e => exact closed
    | ok st =>
      rw [andThen_ok, (ledger_audits P s).finishFetch, enter_retries]
      exact closed
  -- A ledger that is lost once stays lost, so the invariant of the loop has two halves.
  refine retryLoop_safe (I := fun _ i st g => InStep (now + s.totalTimeout) i st g ∨ g.Lost) (fun i st g before => ?_)
    (fun n i st g before => ?_) _ 0 _ (.inl ?_)
  · rw [(ledger_audits P s).attemptsUsedUp]
    apply closes
    rcases before with kept | lost
    · cases pending : st.pendingRetryDecision with
      | none =>
        obtain ⟨rfl, none⟩ := kept.first pending
        refine iff_of_true kept.steady ⟨?_, ?_, ?_, kept.decided, by simp [none]⟩
        · rw [kept.attempts, kept.sent]
        · simp [kept.completed, kept.retries, kept.sent]
        · rw [kept.consumed, kept.sent]
      | some decision =>
        obtain ⟨_, _, undecided, _⟩ := kept.later decision pending
        simp only
        rw [enter_skip, undecided]
        exact kept.skipped _ (iff_of_true kept.steady kept.consumed)
    · cases st.pendingRetryDecision with
      | none => exact lost.closed _
      | some decision =>
        have lost' : (skipped (fun e g => Ledger.enter (F := F) P s g ⟨.emit e, ()⟩) endpoint decision.reason g).Lost :=
          lost.enter P s (⟨.emit (.metric (.retryDecision endpoint ⟨.skip, decision.reason⟩)), ()⟩ : Event (bridge F))
        exact lost'.closed _
  · rcases before with kept | lost
    · exact (iteration_kept backs kept).mono (fun _ _ allowed => allowed)
        fun r g => onward_mono (fun _ _ h => h) closes
    · refine (safe_of_stable (fun g e g' lost now => ?_) _ lost).mono (fun _ _ _ => trivial)
        fun r g lost => onward_mono (fun _ _ h => h) closes (lost.onward r)
      obtain rfl := now
      exact lost.enter P s e
  · exact ⟨⟨⟨trivial, trivial⟩, fun _ unknown => absurd unknown (Option.some_ne_none _).symm⟩, trivial, rfl, rfl, rfl, rfl, rfl, rfl, rfl, rfl,
      fun _ => ⟨rfl, rfl⟩, fun d none => by cases none⟩

/-- The books of a call agree with its requests exactly when all of its answers are steady. -/
theorem fetch_accounted_iff (P : Platform τ) (s : FetchSettings) (uri endpoint : String)
    (data : List (String × Json)) (backs : 0 ≤ s.backoffFactor) {t : Trace (bridge F)} {r : Except Exc Payload}
    (run : Runs (fetch P s uri endpoint data : Action F Payload) t r) : Accounted s t ↔ Steady P s t := by
  obtain ⟨accounted, steady⟩ := ledger_accounted P s t
  rw [← accounted, ← steady]
  exact ((fetch_kept (F := F) P s uri endpoint data backs).tallied run).symm

end Loop

namespace Sample

def recovering : Stream' Upstream := fun i =>
  if i = 0 then response 503 {}
  else response 200 (.ofList [("access_token", Json.str "access"), ("token_type", Json.str "Bearer")])

def recovered (s : FetchSettings) : Outcome (bridge platform.fernet) Exc Payload (World platform.fernet) :=
  (fetch platform s settings.oauth.tokenUri "token" []).eval World.answer (emptyWorld recovering)

end Sample

theorem fetch_accounted_iff_recovered :
    Accounted {} (Sample.recovered {}).trace ↔ Steady Sample.platform {} (Sample.recovered {}).trace :=
  fetch_accounted_iff Sample.platform {} Sample.settings.oauth.tokenUri "token" [] (by decide +kernel)
    (Program.eval_runs World.answer _ _)

/-- Without a backoff the second request takes no token and counts as no retry. -/
theorem fetch_unaccounted :
    let s : FetchSettings := { backoffFactor := 0 }
    let run := Sample.recovered s
    Runs (fetch Sample.platform s Sample.settings.oauth.tokenUri "token" []) run.trace run.result ∧
      sends run.trace = 2 ∧ run.trace.filterMap Event.attempt? = [.initial, .initial] ∧
      run.trace.filterMap Event.completed? = [0] ∧ ¬Accounted s run.trace := by
  intro s run
  have sent : sends run.trace = 2 := by decide +kernel
  have granted : run.trace.countP Event.granted = 0 := by decide +kernel
  refine ⟨Program.eval_runs World.answer _ _, sent, by decide +kernel, by decide +kernel, fun accounted => ?_⟩
  have consumed := accounted.consumed
  rw [sent, granted] at consumed
  cases consumed

end OAuthClientBridge
