import OAuthClientBridge.OAuth.Answers
import OAuthClientBridge.OAuth.Steps
import OAuthClientBridge.World

/-!
The schedule of `fetch` under an exact clock, which only a sleep and a request move on.
-/

namespace OAuthClientBridge
open Python Effect Program

variable {τ : Type} {F : Fernet τ}

/-- The clock of one call: a sleep takes as long as asked, a request at most its timeout. -/
def Timed : Environment (bridge F) ℚ
  | now, ⟨.monotonic, reading⟩, now' => reading = now ∧ now' = now
  | now, ⟨.sleep seconds, _⟩, now' => now' = now + seconds
  | now, ⟨.send _ _ timeout, _⟩, now' => now ≤ now' ∧ now' ≤ now + max 0 timeout
  | now, ⟨.uniform low high, u⟩, now' => min low high ≤ u ∧ u ≤ max low high ∧ now' = now
  | now, _, now' => now' = now

/-- What `fetch` may do next at `now`, with the last answer it got. -/
def OnSchedule (s : FetchSettings) (deadline now : ℚ) (last : Option Upstream) : Op τ → Prop
  | .send _ _ timeout => now < deadline ∧ 0 < timeout ∧ timeout ≤ min s.timeout (deadline - now)
  | .sleep seconds => 0 ≤ seconds ∧ seconds ≤ deadline - now ∧
      ∀ a n, last = some a → a.retryAfter = .ok n → (n : ℚ) ≤ seconds
  | .uniform low high => 0 ≤ min low high
  | _ => True

structure Progress where
  sent : Nat := 0
  last : Option Upstream := none

def Progress.enter (g : Progress) : Event (bridge F) → Progress
  | ⟨.send _ _ _, a⟩ => ⟨g.sent + 1, some a⟩
  | _ => g

theorem progress_foldl (t : Trace (bridge F)) (g : Progress) :
    (t.foldl Progress.enter g).sent = g.sent + sends t ∧
      (t.foldl Progress.enter g).last = ((answers (seen t)).getLast?).or g.last := by
  induction t generalizing g with
  | nil => exact ⟨rfl, rfl⟩
  | cons e t ih =>
    obtain ⟨count, last⟩ := ih (g.enter e)
    rw [List.foldl_cons, count, last]
    unfold sends
    rw [List.countP_cons]
    obtain ⟨o, answer⟩ := e
    cases o with
    | send uri data timeout =>
      constructor
      · simp only [Progress.enter, Op.isSend, if_true]
        omega
      · rw [seen_send, answers_answer, List.getLast?_cons]
        cases (answers (seen t)).getLast? <;> rfl
    | uniform low high => exact ⟨rfl, by rw [seen_uniform, answers_draw]; rfl⟩
    | _ => exact ⟨rfl, rfl⟩

section Clock
variable {w w' : ℚ × Progress}

theorem timed_monotonic {reading : ℚ}
    (h : audited (S := bridge F) Timed Progress.enter w ⟨.monotonic, reading⟩ w') : reading = w.1 ∧ w' = w :=
  ⟨h.1.1, Prod.ext h.1.2 h.2⟩

theorem timed_sleep {seconds : ℚ} {u : Unit}
    (h : audited (S := bridge F) Timed Progress.enter w ⟨.sleep seconds, u⟩ w') : w' = (w.1 + seconds, w.2) :=
  Prod.ext h.1 h.2

theorem timed_consume {granted : Bool}
    (h : audited (S := bridge F) Timed Progress.enter w ⟨.budgetConsume, granted⟩ w') : w' = w :=
  Prod.ext h.1 h.2

theorem timed_uniform {low high u : ℚ}
    (h : audited (S := bridge F) Timed Progress.enter w ⟨.uniform low high, u⟩ w') : w' = w :=
  Prod.ext h.1.2.2 h.2

end Clock

section Call
variable {P : Platform τ} {s : FetchSettings} {uri endpoint : String} {data : List (String × Json)}
  {deadline : ℚ} {limit : Nat}

/-- The contract of a call: on schedule, and within its attempts. -/
def Scheduled (s : FetchSettings) (deadline : ℚ) (limit : Nat) (w : ℚ × Progress) (o : Op τ) : Prop :=
  OnSchedule s deadline w.1 w.2.last o ∧ (o.isSend = true → w.2.sent < limit)

theorem scheduled_audits (s : FetchSettings) (deadline : ℚ) (limit : Nat) :
    Audits (F := F) (audited Timed Progress.enter) (Scheduled s deadline limit) fun _ w => w := by
  refine ⟨fun e w w' => ?_, fun _ _ _ => rfl, fun _ _ => ⟨trivial, fun h => Bool.noConfusion h⟩⟩
  exact ⟨fun h => Prod.ext h.1 h.2, fun h => h ▸ ⟨rfl, rfl⟩⟩

/-- What is known before the `i`-th iteration: a pending retry waits for what the last answer asked. -/
def Progress.Before (i : Nat) (st : LoopState) (g : Progress) : Prop :=
  g.sent = i ∧ (st.pendingRetryDecision.isSome → ∀ a n, g.last = some a → a.retryAfter = .ok n → n = st.retry)

theorem attempt_scheduled (positive : 0 < s.timeout) {i : Nat} (more : i < limit) (name : String)
    {st : LoopState} {now : ℚ} {g : Progress} (sent : g.sent = i) :
    (attempt P s uri endpoint data name (deadline - now) st : Action F _).Safe (audited Timed Progress.enter)
      (Scheduled s deadline limit)
      (onward (fun st w => Progress.Before (i + 1) st w.2) fun _ _ => True) (now, g) := by
  rw [(scheduled_audits s deadline limit).attempt]
  dsimp only
  split
  · trivial
  rename_i left
  rw [not_le] at left
  refine ⟨⟨⟨by linarith, lt_min positive left, le_rfl⟩, fun _ => ?_⟩, ?_⟩
  · show g.sent < limit
    omega
  rintro a ⟨now', g'⟩ ⟨_, entered⟩
  obtain rfl : g' = ⟨g.sent + 1, some a⟩ := entered
  rcases attempted_eq P s st a with ⟨e, _, failed⟩ | ⟨k, pending, settled, _, _, answered⟩
  · rw [failed]
    trivial
  · rw [answered]
    cases goesOn : k.retryable with
    | false => trivial
    | true =>
      refine ⟨by simp [sent], fun _ a' n last asked => ?_⟩
      obtain rfl := Option.some.inj last
      exact Except.ok.inj (asked.symm.trans (settle_ok settled).2.1)

theorem jitter_nonneg (low : 0 ≤ s.backoffJitterMin) (order : s.backoffJitterMin ≤ s.backoffJitterMax)
    (preserveFloor : Bool) : 0 ≤ min (jitterFloor s preserveFloor) s.backoffJitterMax := by
  refine le_min ?_ (low.trans order)
  unfold jitterFloor
  split
  · exact le_max_of_le_left zero_le_one
  · exact low

theorem iteration_scheduled (positive : 0 < s.timeout) (low : 0 ≤ s.backoffJitterMin)
    (order : s.backoffJitterMin ≤ s.backoffJitterMax) {i : Nat} (more : i < limit) {st : LoopState}
    {w : ℚ × Progress} (before : w.2.Before i st) :
    (iteration P s uri endpoint data deadline i st : Action F _).Safe (audited Timed Progress.enter)
      (Scheduled s deadline limit)
      (onward (fun st w => Progress.Before (i + 1) st w.2) fun _ _ => True) w := by
  have quiet : ∀ {o : Op τ}, o.isSend = false → ∀ {w : ℚ × Progress}, OnSchedule s deadline w.1 w.2.last o →
      Scheduled s deadline limit w o :=
    fun notSend _ allowed => ⟨allowed, fun h => absurd (notSend.symm.trans h) Bool.false_ne_true⟩
  obtain ⟨sent, asked⟩ := before
  refine (iteration_safe deadline i st).mpr ⟨quiet rfl trivial, fun now w₁ read => ?_⟩
  obtain ⟨rfl, rfl⟩ := timed_monotonic read
  cases pending : st.pendingRetryDecision with
  | none => exact attempt_scheduled positive more _ sent
  | some decision =>
    apply ((scheduled_audits s deadline limit).admitRetry ..).mpr
    split
    · trivial
    rename_i inTime
    split
    swap
    · exact attempt_scheduled positive more _ sent
    refine ⟨quiet rfl trivial, fun granted w₂ consumed => ?_⟩
    obtain rfl := timed_consume consumed
    cases granted
    · trivial
    refine ⟨quiet rfl (jitter_nonneg low order _), fun u w₃ drawn => ?_⟩
    obtain rfl := timed_uniform drawn
    split
    · trivial
    rename_i short
    rw [(scheduled_audits s deadline limit).sleepBeforeRetry]
    dsimp only
    split
    · trivial
    rename_i nonneg
    refine ⟨quiet rfl ⟨not_lt.mp nonneg, not_lt.mp short, fun a n last readable => ?_⟩, fun _ w₄ slept => ?_⟩
    · obtain rfl := asked (by rw [pending]; rfl) a n last readable
      by_cases floor : st.retry = 0
      · rw [floor, Nat.cast_zero, ← floor]
        exact not_lt.mp nonneg
      · exact le_jittered floor _ u
    obtain rfl := timed_sleep slept
    refine ⟨quiet rfl trivial, fun woken w₅ read => ?_⟩
    obtain ⟨rfl, rfl⟩ := timed_monotonic read
    split
    · trivial
    · exact attempt_scheduled positive more _ sent

theorem fetch_scheduled (P : Platform τ) (uri endpoint : String) (data : List (String × Json)) (positive : 0 < s.timeout) (low : 0 ≤ s.backoffJitterMin)
    (order : s.backoffJitterMin ≤ s.backoffJitterMax) (start : ℚ) :
    (fetch P s uri endpoint data : Action F _).Safe (audited Timed Progress.enter)
      (Scheduled s (start + s.totalTimeout) (s.totalRetries + 1).toNat) (fun _ _ => True) (start, {}) := by
  have audits := scheduled_audits (F := F) s (start + s.totalTimeout) (s.totalRetries + 1).toNat
  refine fetch_safe.mpr ⟨fun _ _ => trivial, fun _ => ⟨⟨trivial, fun h => Bool.noConfusion h⟩, fun _ w₁ added => ?_⟩⟩
  obtain rfl : w₁ = (start, {}) := Prod.ext added.1 added.2
  refine ⟨⟨trivial, fun h => Bool.noConfusion h⟩, fun now w₂ read => ?_⟩
  obtain ⟨reading, rfl⟩ := timed_monotonic read
  rw [reading]
  have finishes : ∀ (r : Except Exc LoopState) (w : ℚ × Progress), True →
      andThen (audited Timed Progress.enter) (Scheduled s (start + s.totalTimeout) (s.totalRetries + 1).toNat)
        (finishFetch P endpoint : LoopState → Action F Payload) (fun _ _ => True) r w := by
    intro r w _
    cases r with
    | error e => trivial
    | ok st => exact (audits.finishFetch st).mpr trivial
  refine retryLoop_safe (I := fun n i st w => i + n = (s.totalRetries + 1).toNat ∧ Progress.Before i st w.2)
    (fun i st w _ => ?_) (fun n i st w before => ?_) _ 0 _ ⟨Nat.zero_add _, rfl, fun h => Bool.noConfusion h⟩
  · rw [audits.attemptsUsedUp]
    exact finishes _ _ trivial
  · refine (iteration_scheduled positive low order (by omega) before.2).mono (fun _ _ allowed => allowed)
      fun r w => onward_mono (fun st w again => ⟨by omega, again⟩) finishes

theorem scheduled_in_time {start : ℚ} {w w' : ℚ × Progress} {e : Event (bridge F)}
    (inTime : w.1 ≤ start + max 0 s.totalTimeout) (allowed : Scheduled s (start + s.totalTimeout) limit w e.op)
    (now : audited Timed Progress.enter w e w') : w'.1 ≤ start + max 0 s.totalTimeout := by
  have bound : start + s.totalTimeout ≤ start + max 0 s.totalTimeout := by
    have := le_max_right 0 s.totalTimeout
    linarith
  obtain ⟨moved, _⟩ := now
  obtain ⟨scheduled, _⟩ := allowed
  obtain ⟨o, answer⟩ := e
  cases o with
  | send uri data timeout =>
    obtain ⟨_, positive, timely⟩ := scheduled
    have later : w'.1 ≤ w.1 + max 0 timeout := moved.2
    have short := timely.trans (min_le_right _ _)
    rw [max_eq_right positive.le] at later
    linarith
  | sleep seconds =>
    have later : w'.1 = w.1 + seconds := moved
    have short := scheduled.2.1
    linarith
  | monotonic => exact moved.2 ▸ inTime
  | uniform low high => exact moved.2.2 ▸ inTime
  | _ =>
    exact (show w'.1 = w.1 from moved).trans_le inTime

/-- The schedule of `fetch`: its requests, its sleeps and its end, wherever a call is. -/
theorem fetch_schedule (P : Platform τ) (s : FetchSettings) (uri endpoint : String) (data : List (String × Json))
    (positive : 0 < s.timeout) (low : 0 ≤ s.backoffJitterMin) (order : s.backoffJitterMin ≤ s.backoffJitterMax)
    {t : Trace (bridge F)} {q : Action F Payload} {start now : ℚ}
    (steps : Reaches (fetch P s uri endpoint data) t q) (clock : Follows Timed start t now) :
    (sends t : Int) ≤ max 0 (s.totalRetries + 1) ∧ now ≤ start + max 0 s.totalTimeout ∧ ¬SleepRefused s (seen t) ∧
      ∀ o next, q = .op o next → OnSchedule s (start + s.totalTimeout) now (answers (seen t)).getLast? o := by
  have safe := fetch_scheduled (F := F) P uri endpoint data positive low order start
  have follows := follows_audited Progress.enter {} clock
  have booked := progress_foldl t {}
  refine ⟨?_, ?_, ?_, ?_⟩
  · have within : (t.foldl Progress.enter {}).sent ≤ (s.totalRetries + 1).toNat := by
      refine safe.invariant (I := fun w => w.2.sent ≤ (s.totalRetries + 1).toNat) (Nat.zero_le _) ?_ steps follows
      rintro w ⟨o, answer⟩ w' before allowed now
      obtain ⟨_, entered⟩ := now
      cases o with
      | send uri data timeout =>
        have room := allowed.2 rfl
        rw [entered]
        show w.2.sent + 1 ≤ _
        omega
      | _ =>
        rw [entered]
        exact before
    rw [booked.1] at within
    simp only at within
    omega
  · have initially : start ≤ start + max 0 s.totalTimeout := by
      have := le_max_left 0 s.totalTimeout
      linarith
    exact safe.invariant (I := fun w => w.1 ≤ start + max 0 s.totalTimeout) initially
      (fun _ _ _ => scheduled_in_time) steps follows
  · rintro ⟨u, last, negative, _⟩
    have drawn : Seen.draw u ∈ seen t := List.mem_of_getLast? last
    obtain ⟨e, member, of⟩ := List.mem_filterMap.mp drawn
    obtain ⟨t₁, t₂, split⟩ := List.append_of_mem member
    obtain ⟨m, m', _, allowed, answered⟩ := safe.past steps follows split
    obtain ⟨o, answer⟩ := e
    cases o with
    | uniform low high =>
      obtain rfl : answer = u := Seen.draw.inj (Option.some.inj of)
      have nonneg : 0 ≤ min low high := allowed.1
      have above : min low high ≤ answer := answered.1.1
      linarith
    | _ => cases of
  · rintro o next rfl
    have allowed := (safe.performs steps follows).1
    rwa [booked.2, Option.or_none] at allowed

end Call

namespace Sample

def tick : Machine (bridge platform.fernet) (ℚ × World platform.fernet)
  | .monotonic, (now, w) => (now, now, w)
  | .sleep seconds, (now, w) => ((), now + seconds, w)
  | .send uri data timeout, (now, w) =>
    ((World.answer (.send uri data timeout) w).1, now + max 0 timeout, (World.answer (.send uri data timeout) w).2)
  | .uniform low _, (now, w) => (low, now, w)
  | o, (now, w) => ((World.answer o w).1, now, (World.answer o w).2)

theorem tick_timed (o : Op Sealed) (w : ℚ × World platform.fernet) :
    Timed (F := platform.fernet) w.1 ⟨o, (tick o w).1⟩ (tick o w).2.1 := by
  cases o with
  | monotonic => exact ⟨rfl, rfl⟩
  | send uri data timeout => exact ⟨le_add_of_nonneg_right (le_max_left _ _), le_rfl⟩
  | uniform low high => exact ⟨min_le_left _ _, le_max_left _ _, rfl⟩
  | _ => rfl

def busy : ℚ × World platform.fernet :=
  (0, emptyWorld fun _ => .response { statusCode := 503, retryAfter := some "2", body := .undecodable })

def timedRun : Outcome (bridge platform.fernet) Exc Payload (ℚ × World platform.fernet) :=
  (fetch platform settings.fetch settings.oauth.tokenUri "token" []).eval tick busy

end Sample

theorem fetch_schedule_unavailable :
    let run := Sample.timedRun
    sends run.trace = 3 ∧ (sends run.trace : Int) ≤ max 0 4 ∧ run.world.1 ≤ 0 + max 0 20 ∧
      ¬SleepRefused Sample.settings.fetch (seen run.trace) ∧
      ∀ o next, (ofExcept run.result : Action Sample.platform.fernet Payload) = .op o next →
        OnSchedule Sample.settings.fetch (0 + 20) run.world.1 (answers (seen run.trace)).getLast? o := by
  intro run
  refine ⟨by decide +kernel, ?_⟩
  exact fetch_schedule Sample.platform Sample.settings.fetch Sample.settings.oauth.tokenUri "token" []
    (by decide +kernel) (by decide +kernel) (by decide +kernel) (Program.eval_runs Sample.tick _ Sample.busy)
    (Program.eval_follows Prod.fst Sample.tick_timed _ Sample.busy)

end OAuthClientBridge
