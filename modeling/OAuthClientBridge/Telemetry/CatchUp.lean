import OAuthClientBridge.Telemetry.Freshness

/-! The worker is never stuck: from wherever it is, it can bring the gauge up to date by itself. -/

namespace OAuthClientBridge
open Python Effect Program

/-! ### A thread that can go on -/

section Worker
variable {κ : Type} {d : Delays} {σ σ' : System κ} {e : Option (WorkerEvent κ)}

/-- A started thread has left its beginning, and only a stopped one has come to its end. -/
structure System.Sound (σ : System κ) : Prop where
  created : σ.worker.started = true → σ.worker.locked = false → σ.point ≠ .created
  ended : σ.worker.stopped = false → σ.point ≠ .ended

theorem after_onward (phase : Phase) : Point.after phase ≠ .created ∧ Point.after phase ≠ .ended := by
  cases phase <;> exact ⟨nofun, nofun⟩

theorem RunStep.onward {w w' : CoalescingWorker} {p p' : Point} (step : RunStep d w p e w' p') :
    p' ≠ .created ∧ (w'.stopped = false → p' ≠ .ended) := by
  cases step with
  | @pass phase _ _ _ =>
    split
    · rename_i stopped
      exact ⟨nofun, fun live => by cases live.symm.trans stopped⟩
    · exact ⟨(after_onward phase).1, fun _ => (after_onward phase).2⟩
  | @poll phase _ _ _ =>
    split
    · rename_i stopped
      exact ⟨nofun, fun live => by cases live.symm.trans stopped⟩
    split
    · exact ⟨(after_onward phase).1, fun _ => (after_onward phase).2⟩
    · exact ⟨nofun, fun _ => nofun⟩
  | watch _ =>
    split
    · rename_i stopped
      exact ⟨nofun, fun live => by cases live.symm.trans stopped⟩
    split <;> exact ⟨nofun, fun _ => nofun⟩
  | refuse _ stopped => exact ⟨nofun, fun live => by cases live.symm.trans stopped⟩
  | _ => exact ⟨nofun, fun _ => nofun⟩

theorem RunStep.starts {w w' : CoalescingWorker} {p p' : Point} (step : RunStep d w p e w' p') {span : WorkSpan}
    (works : p' = .working span) : e = some (.workStarts span) := by
  cases step with
  | @pass phase _ _ _ =>
    split at works
    · cases works
    · cases phase <;> cases works
  | @poll phase _ _ _ =>
    split at works
    · cases works
    split at works
    · cases phase <;> cases works
    · cases works
  | watch _ =>
    split at works
    · cases works
    split at works <;> cases works
  | work =>
    cases works
    rfl
  | _ => cases works

theorem notify_ends (p : Point) : (p.notify = .created ↔ p = .created) ∧ (p.notify = .ended ↔ p = .ended) := by
  cases p <;> simp [Point.notify]

variable [DecidableEq κ]

theorem WorkerStep.sound (single : Single σ) (sound : σ.Sound) (step : WorkerStep d σ e σ') : σ'.Sound := by
  cases step with
  | @thread k p p' _ w found step =>
    obtain ⟨rfl, one⟩ := single.found found
    obtain ⟨begun, unended⟩ := step.onward
    have point : ({ σ with worker := w, threads := σ.threads.set 0 p' } : System κ).point = p' := by
      simp [System.point, one]
    constructor
    · intro _ _
      rw [point]
      exact begun
    · intro live
      rw [point]
      exact unended live
  | start _ _ fresh =>
    rcases single.shape with ⟨_, none, _⟩ | ⟨started, _⟩
    · refine ⟨fun _ unlocked => (by cases unlocked), fun _ at_ended => ?_⟩
      cases (point_eq (p := .created) (by rw [none]; rfl)).symm.trans at_ended
    · cases started.symm.trans fresh
  | started calls =>
    obtain ⟨_, rfl, created, _⟩ := single.starting _ _ calls
    have point := point_eq (σ := { σ with threads := σ.threads.set 0 .began }) (p := .began) (by rw [created]; rfl)
    constructor
    · intro _ _ at_created
      cases point.symm.trans at_created
    · intro _ at_ended
      cases point.symm.trans at_ended
  | @request i threads _ _ notified =>
    have point : ({ σ with threads := threads } : System κ).point = σ.point ∨
        ({ σ with threads := threads } : System κ).point = σ.point.notify := by
      rcases single.shape with ⟨_, none, _⟩ | ⟨_, p, one, _⟩
      · rw [none] at notified
        exact .inl (by rw [System.point, System.point, none, notified.nil])
      · rw [one] at notified
        rw [point_eq one]
        rcases notified.single with same | ⟨same, _⟩
        · exact .inr (point_eq same)
        · exact .inl (point_eq same)
    obtain ⟨created, ended⟩ := notify_ends σ.point
    constructor
    · intro started unlocked at_created
      rcases point with same | same
      · exact sound.created started unlocked (same.symm.trans at_created)
      · exact sound.created started unlocked (created.mp (same.symm.trans at_created))
    · intro live at_ended
      rcases point with same | same
      · exact sound.ended live (same.symm.trans at_ended)
      · exact sound.ended live (ended.mp (same.symm.trans at_ended))
  | stop _ _ _ =>
    refine ⟨fun started unlocked at_created => ?_, fun live => by cases live⟩
    exact sound.created started unlocked ((notify_ends σ.point).1.mp ((point_stop σ).symm.trans at_created))
  | startedAlready _ _ _ | notStarted _ _ | join _ _ _ | joinRaises _ _ _ | joined _ _ | timedOut _ =>
    exact ⟨sound.created, sound.ended⟩

/-- The first `start` is over, and `stop` was not called. -/
structure System.On (σ : System κ) : Prop where
  started : σ.worker.started = true
  unlocked : σ.worker.locked = false
  live : σ.worker.stopped = false

theorem WorkerStep.on (single : Single σ) (on : σ.On) (step : WorkerStep d σ e σ') (unstopped : ∀ i, e ≠ some (.stopping i)) :
    σ'.On := by
  cases step with
  | thread _ step =>
    have frame := step.frame
    refine ⟨?_, ?_, ?_⟩ <;> rw [frame]
    · exact on.started
    · exact on.unlocked
    · exact on.live
  | start _ _ fresh => cases on.started.symm.trans fresh
  | started calls => exact absurd calls (single.none_starting on.unlocked _ _)
  | stop _ _ _ => exact absurd rfl (unstopped _)
  | _ => exact ⟨on.started, on.unlocked, on.live⟩

theorem WorkerStep.unstopped (step : WorkerStep d σ e σ') (quiet : ∀ i, e ≠ some (.stopping i))
    (live : σ.worker.stopped = false) : σ'.worker.stopped = false := by
  cases step with
  | thread _ step =>
    rw [step.frame]
    exact live
  | stop _ _ _ => exact absurd rfl (quiet _)
  | _ => exact live

end Worker

namespace MetricsApp
variable {τ κ : Type} [DecidableEq κ] {F : Fernet τ} {a a' : MetricsApp τ κ}

/-- A worker that was launched and not removed is able to run, and works exactly while it refreshes. -/
structure Live (a : MetricsApp τ κ) : Prop where
  sound : a.worker.Sound
  unstopped : a.stage ≠ .removed → a.worker.worker.stopped = false
  on : a.stage = .running → a.worker.On
  works : a.worker.Works → a.refreshing ≠ .idle

theorem unworked {d : Delays} {σ σ' : System κ} {e : Option (WorkerEvent κ)} (single : Single σ) (step : WorkerStep d σ e σ')
    (begins : ∀ span, e ≠ some (.workStarts span)) (works : σ'.Works) : σ.Works := by
  rcases step.inv single with ⟨p, w, p', _, ran, rfl⟩ | called
  · obtain ⟨span, works⟩ := works
    exact absurd (ran.starts ((point_eq rfl).symm.trans works)) (begins span)
  · exact called.works.mp works

theorem Live.worker (single : Single a.worker) (h : a.Live) {σ : System κ} {e : Option (WorkerEvent κ)} {stage : RefreshStage}
    (step : WorkerStep metricsRefresh a.worker e σ) (begins : ∀ span, e ≠ some (.workStarts span))
    (stops : a.stage ≠ .removed → ∀ i, e ≠ some (.stopping i)) (removed : stage ≠ .removed → a.stage ≠ .removed)
    (on : stage = .running → a.worker.On) : Live { a with worker := σ, stage } where
  sound := step.sound single h.sound
  unstopped there := step.unstopped (stops (removed there)) (h.unstopped (removed there))
  on running := step.on single (on running) (stops (removed fun gone => by cases running.symm.trans gone))
  works works := h.works (unworked single step begins works)

theorem Live.background {owed : Prop} (attended : a.Attended owed) (h : a.Live) (step : Background a a') : a'.Live := by
  have single := attended.handled.1
  cases step with
  | register absent => exact ⟨h.sound, fun _ => h.unstopped (by rw [absent]; nofun), nofun, h.works⟩
  | worker step _ => exact h.worker single step nofun (fun _ => nofun) id h.on
  | launch stage started step =>
    apply h.worker single step nofun (fun _ => nofun)
    · intro _
      rw [stage]
      nofun
    · intro _
      have live := h.unstopped (by rw [stage]; nofun)
      cases step with
      | request _ unlocked _ => exact ⟨started, unlocked, live⟩
      | thread _ ran => cases ran
  | again _ step => exact h.worker single step nofun (fun _ => nofun) id h.on
  | remove _ => exact ⟨h.sound, fun kept => absurd rfl kept, nofun, h.works⟩
  | stop stage step =>
    exact h.worker single step nofun (fun kept => absurd stage kept) id h.on
  | stopped _ step => exact h.worker single step nofun (fun _ => nofun) id h.on
  | begin _ step =>
    refine ⟨step.sound single h.sound, fun kept => step.unstopped nofun (h.unstopped kept),
      fun running => step.on single (h.on running) nofun, fun _ => nofun⟩
  | count counting _ => exact ⟨h.sound, h.unstopped, h.on, fun _ => nofun⟩
  | fail counting => exact ⟨h.sound, h.unstopped, h.on, fun _ => nofun⟩
  | set setting => exact ⟨h.sound, h.unstopped, h.on, fun _ => nofun⟩
  | finish done step =>
    refine ⟨step.sound single h.sound, fun kept => step.unstopped nofun (h.unstopped kept),
      fun running => step.on single (h.on running) nofun, fun works => ?_⟩
    rcases step.inv single with ⟨p, w, p', _, ran, rfl⟩ | called
    · obtain ⟨span, works⟩ := works
      cases ran.starts ((point_eq rfl).symm.trans works)
    · exact absurd rfl called.ends

/-! ### From any point to rest -/

section Alone
variable {w w' : CoalescingWorker} {p p' : Point}

/-- The application while its one thread is at `p`. -/
def placed (a : MetricsApp τ κ) (w : CoalescingWorker) (p : Point) : MetricsApp τ κ :=
  { a with worker := { a.worker with worker := w, threads := [p] } }

/-- The worker can come to rest with a refresh that succeeds, and without a request. -/
def Settles (a : MetricsApp τ κ) : Prop :=
  ∃ a', Relation.ReflTransGen Background a a' ∧ a'.worker.threads = [.blocked false] ∧ a'.failed = false ∧ a'.store = a.store ∧
    a'.stage = a.stage ∧ a'.worker.worker.generation = a.worker.worker.generation

theorem Settles.step (step : Background a a') (store : a'.store = a.store) (stage : a'.stage = a.stage)
    (quiet : a'.worker.worker.generation = a.worker.worker.generation) (h : a'.Settles) : a.Settles := by
  obtain ⟨b, steps, rest, healthy, store', stage', quiet'⟩ := h
  exact ⟨b, steps.head step, rest, healthy, store'.trans store, stage'.trans stage, quiet'.trans quiet⟩

theorem Settles.move (ran : RunStep metricsRefresh (ι := κ) w p none w' p') (h : (a.placed w' p').Settles) : (a.placed w p).Settles := by
  have frame := ran.frame
  have step : WorkerStep metricsRefresh (a.placed w p).worker none (a.placed w' p').worker := .thread (k := 0) rfl ran
  exact h.step (.worker step (.inl (congrArg CoalescingWorker.started frame).symm)) rfl rfl (by
    show w'.generation = w.generation
    rw [frame])

/-- From where it takes the lock with nothing begun, the worker comes to rest. -/
def Rests (τ κ : Type) [DecidableEq κ] (w : CoalescingWorker) : Prop :=
  ∀ a : MetricsApp τ κ, a.refreshing = .idle → a.failed = false → (a.placed w .watching).Settles

theorem rests_handled (free : w.locked = false ∧ w.stopped = false) (handled : w.generation = w.handledGeneration) : Rests τ κ w := by
  intro a idle healthy
  have watch := RunStep.watch (d := metricsRefresh) (ι := κ) free.1
  rw [if_neg (by rw [free.2]; nofun), if_neg (not_not_intro handled)] at watch
  exact Settles.move watch ⟨_, .refl, rfl, healthy, rfl, rfl, rfl⟩

theorem Rests.setting (h : Rests τ κ w) {span : WorkSpan} {counts : StateCounts} (setting : a.refreshing = .setting counts)
    (healthy : a.failed = false) : (a.placed w (.working span)).Settles := by
  induction counts generalizing a with
  | nil =>
    have step : WorkerStep metricsRefresh (a.placed w (.working span)).worker (some .workEnds) (a.placed w .watching).worker :=
      .thread (k := 0) rfl .finish
    exact (h { a with refreshing := .idle } rfl healthy).step (.finish setting step) rfl rfl rfl
  | cons sample counts ih =>
    obtain ⟨state, count⟩ := sample
    have step : Background (a.placed w (.working span)) _ := .set setting
    exact (ih (a := { a with gauge := _, refreshing := _ }) rfl healthy).step step rfl rfl rfl

theorem Rests.counting (h : Rests τ κ w) {span : WorkSpan} (counting : a.refreshing = .counting) :
    (a.placed w (.working span)).Settles := by
  obtain ⟨counts, counted⟩ := exists_counts a.store
  have step : Background (a.placed w (.working span)) _ := .count counting counted
  exact (h.setting (a := { a with refreshing := _, failed := false }) rfl rfl).step step rfl rfl rfl

theorem Rests.ready (h : Rests τ κ w) {span : WorkSpan} (idle : a.refreshing = .idle) : (a.placed w (.ready span)).Settles := by
  have step : WorkerStep metricsRefresh (a.placed w (.ready span)).worker (some (.workStarts span)) (a.placed w (.working span)).worker :=
    .thread (k := 0) rfl .work
  exact (h.counting (a := { a with refreshing := .counting }) rfl).step (.begin idle step) rfl rfl rfl

theorem Rests.marking {generation : Nat} (h : Rests τ κ { w with handledGeneration := max generation w.generation })
    (free : w.locked = false ∧ w.stopped = false) (idle : a.refreshing = .idle) : (a.placed w (.marking generation)).Settles :=
  (h.ready idle).move (.mark free.1 free.2)

/-- Once its time has come, a wait is over. -/
theorem settles_polling {phase : Phase} {deadline : ℚ} (free : w.locked = false ∧ w.stopped = false)
    (h : (a.placed w (.after phase)).Settles) : (a.placed w (.polling phase deadline)).Settles := by
  have poll : RunStep metricsRefresh (ι := κ) w (.polling phase deadline) none w _ := .poll deadline free.1
  rw [if_neg (by rw [free.2]; nofun), if_pos (sub_self deadline).le] at poll
  exact h.move poll

theorem settles_waiting {phase : Phase} {delay : ℚ} (free : w.locked = false ∧ w.stopped = false)
    (h : (a.placed w (.after phase)).Settles) : (a.placed w (.waiting phase delay)).Settles := by
  rcases le_or_gt delay 0 with now | later
  · have pass : RunStep metricsRefresh (ι := κ) w (.waiting phase delay) none w _ := .pass free.1 now
    rw [if_neg (by rw [free.2]; nofun)] at pass
    exact h.move pass
  · exact (settles_polling free h).move (.arm 0 later)

theorem rests (free : w.locked = false ∧ w.stopped = false) : Rests τ κ w := by
  by_cases handled : w.generation = w.handledGeneration
  · exact rests_handled free handled
  · intro a idle _
    have watch := RunStep.watch (d := metricsRefresh) (ι := κ) free.1
    rw [if_neg (by rw [free.2]; nofun), if_pos handled] at watch
    have marks := rests_handled (τ := τ) (κ := κ) (w := { w with handledGeneration := max w.generation w.generation }) free
      (max_self _).symm
    exact (settles_waiting free (marks.marking (a := a) free idle)).move watch

theorem settles_after {phase : Phase} (free : w.locked = false ∧ w.stopped = false) (idle : a.refreshing = .idle)
    (healthy : a.failed = false) : (a.placed w (.after phase)).Settles := by
  cases phase with
  | startup => exact rests free a idle healthy
  | debounce generation =>
    apply Rests.marking _ free idle
    exact rests (w := { w with handledGeneration := max generation w.generation }) free

/-- Wherever its thread is, a worker that runs comes to rest by itself. -/
theorem settles (free : w.locked = false ∧ w.stopped = false) (healthy : a.failed = false) (begun : p ≠ .created) (unended : p ≠ .ended)
    (busy : (∃ span, p = .working span) ↔ a.refreshing ≠ .idle) : (a.placed w p).Settles := by
  have idle (other : ¬ ∃ span, p = .working span) : a.refreshing = .idle := not_not.mp (mt busy.mpr other)
  cases p with
  | created => exact absurd rfl begun
  | ended => exact absurd rfl unended
  | working span =>
    have refreshes := busy.mp ⟨span, rfl⟩
    cases at_ : a.refreshing with
    | idle => exact absurd at_ refreshes
    | counting => exact (rests free).counting at_
    | setting counts => exact (rests free).setting at_ healthy
  | began =>
    apply Settles.move (.begin ⟨le_refl (0 : ℚ), by norm_num⟩)
    exact settles_waiting free (settles_after free (idle nofun) healthy)
  | waiting phase delay => exact settles_waiting free (settles_after free (idle nofun) healthy)
  | polling phase deadline => exact settles_polling free (settles_after free (idle nofun) healthy)
  | sleeping phase deadline notified =>
    exact (settles_polling free (settles_after free (idle nofun) healthy)).move .wake
  | watching => exact rests free a (idle nofun) healthy
  | blocked notified =>
    cases notified with
    | true => exact (rests free a (idle nofun) healthy).move .woken
    | false => exact ⟨_, .refl, rfl, healthy, rfl, rfl, rfl⟩
  | marking generation =>
    exact (settles_after free (idle nofun) healthy : (a.placed w (.after (.debounce generation))).Settles)
  | ready span => exact (rests free).ready (idle nofun)

end Alone

variable {P : Platform τ} {s : Settings} {σ : Store τ} {ι : Type} [DecidableEq ι] {requests : ι → Request}
  {c : Pool.Config (bridge P.fernet) Exc Response (MetricsApp τ κ) ι}

theorem Live.backgrounds {owed : Prop} (attended : a.Attended owed) (h : a.Live) (steps : Relation.ReflTransGen Background a a') :
    a'.Live := by
  induction steps with
  | refl => exact h
  | tail before step ih => exact ih.background (attended.backgrounds before) step

theorem Live.operates {owed : Prop} (attended : a.Attended owed) (h : a.Live) {e : Event (bridge F)} (step : a.Operates e a') :
    a'.Live := by
  rcases operates_cases step with ⟨_, asked⟩ | ⟨_, σ, _, rfl⟩
  · cases asked with
    | none _ => exact h
    | request _ asked => exact h.worker attended.handled.1 asked nofun (fun _ => nofun) id h.on
  · exact ⟨h.sound, h.unstopped, h.on, h.works⟩

theorem live_reachable (h : Pool.Reachable observed (service P s { store := σ } requests) c) :
    c.world.Attended (Owed fun i => (c.thread i).done.foldl Journal.enter {}) ∧ c.world.Live := by
  apply Pool.invariant_tally (Φ := fun _ _ => True) (Q := fun _ _ => True) (I := fun a js => a.Attended (Owed js) ∧ a.Live)
    (fun i => safe_of_stable (I := fun _ => True) (fun _ _ _ _ _ => trivial) _ trivial) _ _ h
  · exact ⟨⟨⟨[], .refl⟩, .inl rfl, nofun⟩, ⟨nofun, nofun⟩, fun _ => rfl, nofun, nofun⟩
  · intro a js i o answer a' ⟨attended, live⟩ _ ⟨m, beside, operates⟩
    have still := attended.backgrounds beside
    exact ⟨still.operates i operates, (live.backgrounds attended beside).operates still operates⟩

/-- Whatever the requests and the worker did: from wherever its thread is, a running worker can come to rest with the gauge
up to date, and needs no further request for it. -/
theorem metrics_catch_up (h : Pool.Reachable observed (service P s { store := σ } requests) c)
    (later : Relation.ReflTransGen Background c.world a) (running : a.stage = .running) (healthy : a.failed = false)
    (answered : ∀ i, (∃ r, (c.thread i).rest = .pure r) ∨ (c.thread i).done = []) :
    ∃ a', Relation.ReflTransGen Background a a' ∧ a'.worker.threads = [.blocked false] ∧ a'.stage = a.stage ∧
      a'.store = a.store ∧ a'.worker.worker.generation = a.worker.worker.generation ∧ ∃ counts, a.store.Counts counts ∧ a'.gauge.Shows counts := by
  obtain ⟨before, live⟩ := live_reachable h
  have attended := before.backgrounds later
  have live := live.backgrounds before later
  have on := live.on running
  obtain ⟨p, one⟩ : ∃ p, a.worker.threads = [p] := by
    rcases attended.handled.1.shape with ⟨fresh, _⟩ | ⟨_, p, one, _⟩
    · cases on.started.symm.trans fresh
    · exact ⟨p, one⟩
  have point := point_eq one
  have busy : (∃ span, p = .working span) ↔ a.refreshing ≠ .idle := by
    rw [← point]
    exact ⟨live.works, fun busy => attended.busy.resolve_left busy⟩
  have settles : a.Settles := by
    have settles := settles (w := a.worker.worker) (p := p) ⟨on.unlocked, on.live⟩ healthy
      (point ▸ live.sound.created on.started on.unlocked) (point ▸ live.sound.ended on.live) busy
    rw [placed, ← one] at settles
    exact settles
  obtain ⟨a', steps, rest, healthy', store, stage, quiet⟩ := settles
  refine ⟨a', steps, rest, stage, store, quiet, ?_⟩
  have fresh := (attended.backgrounds steps).fresh (answered_settled h answered) (stage.trans running) healthy' (by rw [rest]; rfl)
  rw [Fresh, store] at fresh
  exact fresh

end MetricsApp
/-- The worker was requested before its thread began, and will have counted what was written before. -/
theorem metrics_catch_up_launched : ∃ (callers : Unit → Call) (a : MetricsApp Sealed Unit) (counts : StateCounts),
    a.store = (Sample.launched callers).store ∧ a.store.Counts counts ∧ a.gauge.Shows counts := by
  obtain ⟨callers, later⟩ := Sample.launched_later
  obtain ⟨a, _, _, _, store, _, counts, counted, shows⟩ := MetricsApp.metrics_catch_up Sample.counted_reachable later rfl rfl
    fun _ => .inl Sample.counted_answered
  exact ⟨callers, a, counts, store, by rwa [store], shows⟩

end OAuthClientBridge
