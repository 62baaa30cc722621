import Mathlib.Tactic.NormNum
import OAuthClientBridge.Utils.Coalescing

/-! What a `CoalescingWorker` keeps true of its requests and of its runs of the work. -/

namespace OAuthClientBridge
open Effect

variable {ι : Type} {d : Delays} {σ σ' : System ι} {t t₁ t₂ : List (WorkerEvent ι)}

/-! ### Books of a run -/

/-- The requests and the runs of the work so far; `covered` counts the requests before the last run. -/
structure WorkBooks where
  requests : Nat := 0
  works : Nat := 0
  covered : Nat := 0

def WorkBooks.enter (b : WorkBooks) : WorkerEvent ι → WorkBooks
  | .requested _ => { b with requests := b.requests + 1 }
  | .workStarts _ => { b with works := b.works + 1, covered := b.requests }
  | _ => b

def WorkerEvent.isRequest : WorkerEvent ι → Bool
  | .requested _ => true
  | _ => false

def WorkerEvent.isWork : WorkerEvent ι → Bool
  | .workStarts _ => true
  | _ => false

def requests (t : List (WorkerEvent ι)) : Nat := t.countP WorkerEvent.isRequest

def works (t : List (WorkerEvent ι)) : Nat := t.countP WorkerEvent.isWork

def books (t : List (WorkerEvent ι)) : WorkBooks := t.foldl WorkBooks.enter {}

theorem foldl_enter_counts (t : List (WorkerEvent ι)) (b : WorkBooks) :
    (t.foldl WorkBooks.enter b).requests = b.requests + requests t ∧
      (t.foldl WorkBooks.enter b).works = b.works + works t := by
  unfold requests works
  induction t generalizing b with
  | nil => exact ⟨rfl, rfl⟩
  | cons e t ih =>
    obtain ⟨requests, works⟩ := ih (b.enter e)
    rw [List.foldl_cons, requests, works, List.countP_cons, List.countP_cons]
    cases e <;> simp only [WorkBooks.enter, WorkerEvent.isRequest, WorkerEvent.isWork, if_true, Bool.false_eq_true,
      if_false] <;> omega

theorem books_counts (t : List (WorkerEvent ι)) : (books t).requests = requests t ∧ (books t).works = works t := by
  obtain ⟨requests, works⟩ := foldl_enter_counts t {}
  exact ⟨requests.trans (Nat.zero_add _), works.trans (Nat.zero_add _)⟩

theorem books_append (t u : List (WorkerEvent ι)) : books (t ++ u) = u.foldl WorkBooks.enter (books t) :=
  List.foldl_append

theorem foldl_enter_covered {t : List (WorkerEvent ι)} (idle : works t = 0) (b : WorkBooks) :
    (t.foldl WorkBooks.enter b).covered = b.covered := by
  induction t generalizing b with
  | nil => rfl
  | cons e t ih =>
    unfold works at idle ih
    rw [List.countP_cons] at idle
    rw [List.foldl_cons, ih (by omega)]
    cases e <;> first | rfl | simp [WorkerEvent.isWork] at idle

theorem covered_le (t : List (WorkerEvent ι)) : (books t).covered ≤ (books t).requests := by
  have kept : ∀ (t : List (WorkerEvent ι)) (b : WorkBooks), b.covered ≤ b.requests →
      (t.foldl WorkBooks.enter b).covered ≤ (t.foldl WorkBooks.enter b).requests := by
    intro t
    induction t with
    | nil => exact fun b h => h
    | cons e t ih =>
      intro b h
      apply ih _
      cases e with
      | requested i => exact Nat.le_succ_of_le h
      | workStarts span => exact Nat.le_refl b.requests
      | _ => exact h
  exact kept t {} (Nat.le_refl 0)

theorem works_after_request {i : ι} (covered : (books (t₁ ++ .requested i :: t₂)).requests ≤
    (books (t₁ ++ .requested i :: t₂)).covered) : 0 < works t₂ := by
  by_contra idle
  have bound := covered_le t₁
  obtain ⟨count, _⟩ := foldl_enter_counts (WorkerEvent.requested i :: t₂) (books t₁)
  rw [books_append, count, List.foldl_cons, foldl_enter_covered (by omega)] at covered
  have one : requests (WorkerEvent.requested i :: t₂) = requests t₂ + 1 := List.countP_cons_of_pos rfl
  simp only [WorkBooks.enter] at covered
  omega

/-! ### One thread -/

/-- There is one thread from the first call of `start` on, and none before. -/
structure Single (σ : System ι) : Prop where
  shape : (σ.worker.started = false ∧ σ.threads = [] ∧ σ.worker.thread = none) ∨
    (σ.worker.started = true ∧ ∃ p, σ.threads = [p] ∧ σ.worker.thread = some 0)
  starting : ∀ i k, σ.callers i = .starting k → σ.worker.locked = true ∧ k = 0 ∧ σ.threads = [.created] ∧
    ∀ j k', σ.callers j = .starting k' → j = i
  stopping : ∀ i, (∃ timeout, σ.callers i = .stopping timeout) ∨ (∃ k timeout, σ.callers i = .joining k timeout) →
    σ.worker.stopped = true

theorem Single.found (h : Single σ) {k : Nat} {p : Point} (found : σ.threads[k]? = some p) :
    k = 0 ∧ σ.threads = [p] := by
  rcases h.shape with ⟨_, none, _⟩ | ⟨_, q, one, _⟩
  · simp [none] at found
  · rw [one] at found ⊢
    cases k with
    | zero => exact ⟨rfl, congrArg (fun p => [p]) (Option.some.inj found)⟩
    | succ k => simp at found

theorem Notified.single {p : Point} {ps : List Point} (h : Notified [p] ps) :
    ps = [p.notify] ∨ ps = [p] ∧ p.waits = false := by
  rcases h with idle | @⟨k, q, found, waits⟩
  · exact .inr ⟨rfl, idle p List.mem_cons_self⟩
  · cases k with
    | zero =>
      obtain rfl := Option.some.inj found
      exact .inl rfl
    | succ k => simp at found

theorem Notified.nil {ps : List Point} (h : Notified [] ps) : ps = [] := by
  rcases h with _ | ⟨found, _⟩
  · rfl
  · simp at found

theorem RunStep.frame {w w' : CoalescingWorker} {p p' : Point} {e : Option (WorkerEvent ι)} (step : RunStep d w p e w' p') :
    w' = { w with handledGeneration := w'.handledGeneration } := by
  cases step <;> rfl

theorem Single.none_starting (h : Single σ) (unlocked : σ.worker.locked = false) (i : ι) (k : Nat) :
    σ.callers i ≠ .starting k := by
  intro calls
  rw [(h.starting i k calls).1] at unlocked
  cases unlocked

variable [DecidableEq ι]

theorem update_call {callers : ι → Call} {i j : ι} {call c : Call} (at_j : Function.update callers i call j = c) :
    j = i ∧ call = c ∨ j ≠ i ∧ callers j = c := by
  by_cases same : j = i
  · subst same
    exact .inl ⟨rfl, by rwa [Function.update_self] at at_j⟩
  · exact .inr ⟨same, by rwa [Function.update_of_ne same] at at_j⟩

theorem Single.call (h : Single σ) {i : ι} {call : Call} (quiet : ∀ k, call ≠ .starting k)
    (stopped : call = .idle ∨ σ.worker.stopped = true) :
    Single { σ with callers := Function.update σ.callers i call } where
  shape := h.shape
  starting j k calls := by
    rcases update_call calls with ⟨_, same⟩ | ⟨_, before⟩
    · exact absurd same (quiet k)
    · obtain ⟨locked, zero, created, only⟩ := h.starting j k before
      refine ⟨locked, zero, created, fun j' k' calls' => ?_⟩
      rcases update_call calls' with ⟨_, same⟩ | ⟨_, before'⟩
      · exact absurd same (quiet k')
      · exact only j' k' before'
  stopping j calls := by
    rcases stopped with idle | stopped
    · subst idle
      refine h.stopping j (calls.imp ?_ ?_)
      · rintro ⟨timeout, calls⟩
        rcases update_call calls with ⟨_, same⟩ | ⟨_, before⟩
        · cases same
        · exact ⟨timeout, before⟩
      · rintro ⟨k, timeout, calls⟩
        rcases update_call calls with ⟨_, same⟩ | ⟨_, before⟩
        · cases same
        · exact ⟨k, timeout, before⟩
    · exact stopped

theorem Single.step {e : Option (WorkerEvent ι)} (h : Single σ) (step : WorkerStep d σ e σ') : Single σ' := by
  cases step with
  | @thread k p p' _ w found step =>
    obtain ⟨rfl, one⟩ := h.found found
    have frame := step.frame
    refine ⟨?_, fun i k calls => ?_, fun i calls => ?_⟩
    · rcases h.shape with ⟨_, none, _⟩ | ⟨started, _, _, thread⟩
      · rw [none] at one
        cases one
      · rw [frame]
        exact .inr ⟨started, p', by rw [one]; rfl, thread⟩
    · have created := (h.starting i k calls).2.2.1
      rw [one] at created
      cases created
      cases step
    · rw [frame]
      exact h.stopping i calls
  | @start i free unlocked fresh =>
    rcases h.shape with ⟨_, none, _⟩ | ⟨started, _⟩
    swap
    · cases started.symm.trans fresh
    -- The lock is free, so no other caller is between its construction and its start.
    have calls_starting : ∀ j k, Function.update σ.callers i (.starting σ.threads.length) j = .starting k →
        j = i ∧ k = 0 := by
      intro j k calls
      rcases update_call calls with ⟨same, starting⟩ | ⟨_, before⟩
      · rw [none] at starting
        cases starting
        exact ⟨same, rfl⟩
      · exact absurd before (h.none_starting unlocked j k)
    refine ⟨.inr ⟨rfl, .created, by rw [none]; rfl, by rw [none]; rfl⟩, fun j k calls => ?_, fun j calls => ?_⟩
    · obtain ⟨rfl, rfl⟩ := calls_starting j k calls
      exact ⟨rfl, rfl, by rw [none]; rfl, fun j' k' calls' => (calls_starting j' k' calls').1⟩
    · refine h.stopping j (calls.imp ?_ ?_)
      · rintro ⟨timeout, calls⟩
        rcases update_call calls with ⟨_, same⟩ | ⟨_, before⟩
        · cases same
        · exact ⟨timeout, before⟩
      · rintro ⟨k, timeout, calls⟩
        rcases update_call calls with ⟨_, same⟩ | ⟨_, before⟩
        · cases same
        · exact ⟨k, timeout, before⟩
  | @started i k calls =>
    obtain ⟨_, rfl, created, only⟩ := h.starting i k calls
    rcases h.shape with ⟨_, none, _⟩ | ⟨started, _, _, thread⟩
    · rw [none] at created
      cases created
    have idle : Single { σ with callers := Function.update σ.callers i .idle } := h.call nofun (.inl rfl)
    refine ⟨.inr ⟨started, .began, by rw [created]; rfl, thread⟩, fun j k' calls' => ?_, idle.stopping⟩
    rcases update_call calls' with ⟨_, same⟩ | ⟨other, before⟩
    · cases same
    · exact absurd (only j k' before) other
  | startedAlready _ _ _ => exact h
  | @request i threads _ unlocked notified =>
    refine ⟨?_, fun j k calls => absurd calls (h.none_starting unlocked j k), h.stopping⟩
    rcases h.shape with ⟨fresh, none, thread⟩ | ⟨started, p, one, thread⟩
    · rw [none] at notified
      exact .inl ⟨fresh, notified.nil, thread⟩
    · rw [one] at notified
      rcases notified.single with same | ⟨same, _⟩
      · exact .inr ⟨started, _, same, thread⟩
      · exact .inr ⟨started, _, same, thread⟩
  | @stop i timeout _ unlocked =>
    refine ⟨?_, fun j k calls => ?_, fun _ _ => rfl⟩
    · rcases h.shape with ⟨fresh, none, thread⟩ | ⟨started, p, one, thread⟩
      · exact .inl ⟨fresh, by rw [none]; rfl, thread⟩
      · exact .inr ⟨started, p.notify, by rw [one]; rfl, thread⟩
    · rcases update_call calls with ⟨_, same⟩ | ⟨_, before⟩
      · cases same
      · exact absurd before (h.none_starting unlocked j k)
  | notStarted _ _ | joinRaises _ _ _ | joined _ _ | timedOut _ => exact h.call nofun (.inl rfl)
  | @join i timeout k calls _ _ => exact h.call nofun (.inr (h.stopping i (.inl ⟨timeout, calls⟩)))

/-! ### Requests and runs -/

/-- Where the thread is; before there is one, where it will begin. -/
def System.point {ι : Type} (σ : System ι) : Point := σ.threads.head?.getD .created

def Phase.generation? : Phase → Option Nat
  | .startup => none
  | .debounce generation => some generation

/-- The generation that the thread is about to handle. -/
def Point.generation? : Point → Option Nat
  | .waiting phase _ | .polling phase _ | .sleeping phase _ _ => phase.generation?
  | .marking generation => some generation
  | _ => none

def Point.isReady : Point → Bool
  | .ready _ => true
  | _ => false

/-- The generations agree with the books, wherever the thread is. -/
structure Handled (w : CoalescingWorker) (b : WorkBooks) (p : Point) : Prop where
  requests : b.requests = w.generation
  handled : w.handledGeneration ≤ w.generation
  settled : p.isReady = false → b.works ≤ w.handledGeneration ∧ w.handledGeneration ≤ b.covered
  owed : p.isReady = true → b.works < w.handledGeneration
  pending : ∀ g ∈ p.generation?, w.handledGeneration < g ∧ g ≤ w.generation
  blocked : p = .blocked false → w.stopped = false ∧ w.generation = w.handledGeneration

section Handled
omit [DecidableEq ι]
variable {w w' : CoalescingWorker} {b : WorkBooks} {p p' : Point}

theorem Handled.goes (h : Handled w b p) (idle : p.isReady = false) (idle' : p'.isReady = false)
    (pending : ∀ g ∈ p'.generation?, w.handledGeneration < g ∧ g ≤ w.generation)
    (blocked : p' = .blocked false → w.stopped = false ∧ w.generation = w.handledGeneration) : Handled w b p' where
  requests := h.requests
  handled := h.handled
  settled _ := h.settled idle
  owed ready := by cases idle'.symm.trans ready
  pending := pending
  blocked := blocked

theorem after_generation (phase : Phase) : (Point.after phase).generation? = phase.generation? ∧
    (Point.after phase).isReady = false ∧ Point.after phase ≠ .blocked false := by
  cases phase <;> exact ⟨rfl, rfl, nofun⟩

theorem Handled.after (h : Handled w b p) (idle : p.isReady = false) {phase : Phase}
    (same : p.generation? = phase.generation?) : Handled w b (.after phase) := by
  obtain ⟨generation, idle', unblocked⟩ := after_generation phase
  exact h.goes idle idle' (by rw [generation, ← same]; exact h.pending) fun blocked => absurd blocked unblocked

theorem Handled.ended (h : Handled w b p) (idle : p.isReady = false) : Handled w b .ended :=
  h.goes idle rfl nofun nofun

theorem Handled.run (h : Handled w b p) {e : Option (WorkerEvent ι)} (step : RunStep d w p e w' p') :
    Handled w' (e.toList.foldl WorkBooks.enter b) p' := by
  cases step with
  | begin _ => exact h.goes rfl rfl nofun nofun
  | pass _ _ =>
    split
    · exact h.ended rfl
    · exact h.after rfl rfl
  | arm _ _ => exact h.goes rfl rfl h.pending nofun
  | poll _ _ =>
    split
    · exact h.ended rfl
    split
    · exact h.after rfl rfl
    · exact h.goes rfl rfl h.pending nofun
  | wake => exact h.goes rfl rfl h.pending nofun
  | watch _ =>
    split
    · exact h.ended rfl
    rename_i live
    split
    · rename_i news
      refine h.goes rfl rfl (fun g generation => ?_) nofun
      obtain rfl : w.generation = g := Option.some.inj generation
      exact ⟨lt_of_le_of_ne h.handled (Ne.symm news), le_refl _⟩
    · rename_i nothing
      exact h.goes rfl rfl nofun fun _ => ⟨by simpa using live, not_ne_iff.mp nothing⟩
  | woken => exact h.goes rfl rfl nofun nofun
  | refuse _ _ => exact h.ended rfl
  | @mark generation _ _ =>
    obtain ⟨news, bound⟩ := h.pending generation rfl
    obtain ⟨works, _⟩ := h.settled rfl
    have newest : max generation w.generation = w.generation := max_eq_right bound
    refine ⟨h.requests, newest.le, nofun, fun _ => ?_, nofun, nofun⟩
    show b.works < max generation w.generation
    omega
  | work =>
    have owed := h.owed rfl
    refine ⟨h.requests, h.handled, fun _ => ⟨owed, ?_⟩, nofun, nofun, nofun⟩
    show w.handledGeneration ≤ b.requests
    rw [h.requests]
    exact h.handled
  | finish => exact ⟨h.requests, h.handled, h.settled, nofun, nofun, nofun⟩

theorem notify_generation (p : Point) : p.notify.generation? = p.generation? ∧ p.notify.isReady = p.isReady ∧
    p.notify ≠ .blocked false := by
  cases p <;> exact ⟨rfl, rfl, nofun⟩

theorem Handled.request (h : Handled w b p) (i : ι) (woken : p' = p.notify ∨ p' = p ∧ p.waits = false) :
    Handled { w with generation := w.generation + 1 } (b.enter (.requested i)) p' := by
  obtain ⟨generation, ready, unblocked⟩ := notify_generation p
  have same : p'.generation? = p.generation? ∧ p'.isReady = p.isReady ∧ p' ≠ .blocked false := by
    rcases woken with rfl | ⟨rfl, idle⟩
    · exact ⟨generation, ready, unblocked⟩
    · refine ⟨rfl, rfl, ?_⟩
      rintro rfl
      cases idle
  obtain ⟨generation, ready, unblocked⟩ := same
  refine ⟨congrArg (· + 1) h.requests, Nat.le_succ_of_le h.handled, ?_, ?_, fun g pending => ?_,
    fun blocked => absurd blocked unblocked⟩
  · rw [ready]
    exact h.settled
  · rw [ready]
    exact h.owed
  · obtain ⟨news, bound⟩ := h.pending g (generation ▸ pending)
    exact ⟨news, Nat.le_succ_of_le bound⟩

theorem Handled.stop (h : Handled w b p) : Handled { w with stopped := true } b p.notify := by
  obtain ⟨generation, ready, unblocked⟩ := notify_generation p
  refine ⟨h.requests, h.handled, ?_, ?_, ?_, fun blocked => absurd blocked unblocked⟩
  · rw [ready]
    exact h.settled
  · rw [ready]
    exact h.owed
  · rw [generation]
    exact h.pending

end Handled

omit [DecidableEq ι] in
theorem point_stop (σ : System ι) :
    ({ σ with threads := σ.threads.map Point.notify } : System ι).point = σ.point.notify := by
  unfold System.point
  cases σ.threads <;> rfl

theorem handled_step {b : WorkBooks} {e : Option (WorkerEvent ι)} (single : Single σ)
    (h : Handled σ.worker b σ.point) (step : WorkerStep d σ e σ') :
    Handled σ'.worker (e.toList.foldl WorkBooks.enter b) σ'.point := by
  cases step with
  | thread found step =>
    obtain ⟨rfl, one⟩ := single.found found
    unfold System.point at h ⊢
    rw [one] at h ⊢
    exact h.run step
  | start _ unlocked fresh =>
    rcases single.shape with ⟨_, none, _⟩ | ⟨started, _⟩
    · unfold System.point at h ⊢
      rw [none] at h ⊢
      exact ⟨h.requests, h.handled, h.settled, h.owed, h.pending, h.blocked⟩
    · cases started.symm.trans fresh
  | started calls =>
    obtain ⟨_, rfl, created, _⟩ := single.starting _ _ calls
    unfold System.point at h ⊢
    rw [created] at h ⊢
    exact ⟨h.requests, h.handled, h.settled, h.owed, nofun, nofun⟩
  | @request i threads _ _ notified =>
    apply h.request i
    unfold System.point
    rcases single.shape with ⟨_, none, _⟩ | ⟨_, p, one, _⟩
    · rw [none] at notified ⊢
      rw [notified.nil]
      exact .inl rfl
    · rw [one] at notified ⊢
      rcases notified.single with same | ⟨same, idle⟩
      · exact .inl (by rw [same]; rfl)
      · exact .inr ⟨by rw [same], idle⟩
  | stop _ _ _ =>
    have stopped := h.stop
    rw [← point_stop] at stopped
    exact stopped
  | startedAlready _ _ _ | notStarted _ _ | join _ _ _ | joinRaises _ _ _ | joined _ _ | timedOut _ => exact h

/-- What holds after every run. -/
theorem coalesces_handled (run : Coalesces d t σ) : Single σ ∧ Handled σ.worker (books t) σ.point := by
  refine Labelled.Run.invariant (I := fun σ t => Single σ ∧ Handled σ.worker (books t) σ.point) ?_ ?_ run
  · refine ⟨⟨.inl ⟨rfl, rfl, rfl⟩, nofun, ?_⟩, ⟨rfl, le_refl _, fun _ => ⟨le_refl _, le_refl _⟩, nofun, nofun, nofun⟩⟩
    rintro i (⟨_, ⟨⟩⟩ | ⟨_, _, ⟨⟩⟩)
  · rintro σ t e σ' ⟨single, handled⟩ step
    rw [books_append]
    exact ⟨single.step step, handled_step single handled step⟩

/-! ### After `stop` -/

/-- The runs of the work that are still to come once the flag is set. -/
def Point.owes (p : Point) : Nat := if p.isReady then 1 else 0

theorem RunStep.winds {ι : Type} {w w' : CoalescingWorker} {p p' : Point} {e : Option (WorkerEvent ι)}
    (stopped : w.stopped = true) (step : RunStep d w p e w' p') : works e.toList + p'.owes ≤ p.owes := by
  cases step with
  | pass _ _ | watch _ | poll _ _ => simp [stopped, Point.owes, Point.isReady, works]
  | mark _ live => cases live.symm.trans stopped
  | work => exact le_refl 1
  | begin _ | arm _ _ | wake | woken | refuse _ _ | finish => exact le_refl 0

theorem owes_notify (p : Point) : p.notify.owes = p.owes := by
  unfold Point.owes
  rw [(notify_generation p).2.1]

theorem winds_step {e : Option (WorkerEvent ι)} (single : Single σ) (stopped : σ.worker.stopped = true)
    (step : WorkerStep d σ e σ') : σ'.worker.stopped = true ∧ works e.toList + σ'.point.owes ≤ σ.point.owes := by
  cases step with
  | thread found step =>
    obtain ⟨rfl, one⟩ := single.found found
    have winds := step.winds stopped
    unfold System.point
    rw [one]
    exact ⟨by rw [step.frame]; exact stopped, winds⟩
  | start _ _ fresh =>
    rcases single.shape with ⟨_, none, _⟩ | ⟨started, _⟩
    · unfold System.point
      rw [none]
      exact ⟨stopped, le_refl 0⟩
    · cases started.symm.trans fresh
  | started calls =>
    obtain ⟨_, rfl, created, _⟩ := single.starting _ _ calls
    unfold System.point
    rw [created]
    exact ⟨stopped, le_refl 0⟩
  | @request i threads _ _ notified =>
    refine ⟨stopped, ?_⟩
    unfold System.point
    rcases single.shape with ⟨_, none, _⟩ | ⟨_, p, one, _⟩
    · rw [none] at notified ⊢
      rw [notified.nil]
      exact le_refl 0
    · rw [one] at notified ⊢
      rcases notified.single with same | ⟨same, _⟩
      · rw [same]
        exact (Nat.zero_add _).le.trans (owes_notify p).le
      · rw [same]
        exact (Nat.zero_add _).le
  | stop _ _ _ =>
    refine ⟨rfl, (Nat.zero_add _).le.trans ?_⟩
    have woken := congrArg Point.owes (point_stop σ)
    rw [owes_notify] at woken
    exact woken.le
  | startedAlready _ _ _ | notStarted _ _ | join _ _ _ | joinRaises _ _ _ | joined _ _ | timedOut _ =>
    exact ⟨stopped, (Nat.zero_add _).le⟩

theorem winds_run (single : Single σ) (stopped : σ.worker.stopped = true) (run : Labelled.Run (WorkerStep d) σ t σ') :
    works t ≤ σ.point.owes := by
  have winds : Single σ' ∧ σ'.worker.stopped = true ∧ works t + σ'.point.owes ≤ σ.point.owes := by
    refine Labelled.Run.invariant (I := fun σ' t => Single σ' ∧ σ'.worker.stopped = true ∧
      works t + σ'.point.owes ≤ σ.point.owes) ⟨single, stopped, (Nat.zero_add _).le⟩ ?_ run
    rintro σ₁ t e σ₂ ⟨single, stopped, owed⟩ step
    obtain ⟨stopped', winds⟩ := winds_step single stopped step
    refine ⟨single.step step, stopped', ?_⟩
    unfold works at winds owed ⊢
    rw [List.countP_append]
    omega
  omega

/-- Of every interleaving: there is one run of the work at a time, and no more runs than requests;
a thread that waits has nothing to do or was notified, and when there is nothing to do every request
was followed by a run; and after `stop` at most one run begins, none once an unbounded `stop` returned. -/
theorem coalesces (run : Coalesces d t σ) :
    (∀ (k k' : Nat) span span', σ.threads[k]? = some (.working span) → σ.threads[k']? = some (.working span') → k = k') ∧
      works t ≤ requests t ∧
      (∀ k : Nat, σ.threads[k]? = some (.blocked false) →
        σ.worker.stopped = false ∧ σ.worker.generation = σ.worker.handledGeneration) ∧
      (∀ (k : Nat) notified, σ.threads[k]? = some (.blocked notified) → σ.worker.stopped = false →
        σ.worker.generation = σ.worker.handledGeneration →
        ∀ t₁ i t₂, t = t₁ ++ .requested i :: t₂ → 0 < works t₂) ∧
      (∀ t₁ i t₂, t = t₁ ++ .stopping i :: t₂ → works t₂ ≤ 1) ∧
      ∀ t₁ i t₂, t = t₁ ++ .stopReturned i none :: t₂ → works t₂ = 0 := by
  obtain ⟨single, handled⟩ := coalesces_handled run
  obtain ⟨requested, worked⟩ := books_counts t
  have at_point : ∀ {k : Nat} {p : Point}, σ.threads[k]? = some p → σ.point = p := by
    intro k p found
    unfold System.point
    rw [(single.found found).2]
    rfl
  refine ⟨fun k k' span span' found found' => ?_, ?_, fun k found => ?_, fun k notified found _ nothing => ?_,
    ?_, ?_⟩
  · rw [(single.found found).1, (single.found found').1]
  -- Every run of the work was marked for a generation of its own, and each of these was requested.
  · have bound : (books t).works ≤ σ.worker.handledGeneration := by
      cases ready : σ.point.isReady with
      | false => exact (handled.settled ready).1
      | true => exact (handled.owed ready).le
    have := handled.handled
    have := handled.requests
    omega
  · exact handled.blocked (at_point found)
  · rintro t₁ i t₂ rfl
    apply works_after_request
    have covered := (handled.settled (by rw [at_point found]; rfl)).2
    rw [handled.requests, nothing]
    exact covered
  · rintro t₁ i t₂ rfl
    obtain ⟨m, m', before, step, after⟩ := run.split
    have single' := (coalesces_handled before).1.step step
    have stopped : m'.worker.stopped = true := by
      cases step with
      | thread _ step => cases step
      | stop _ _ _ => rfl
    -- What was marked before the flag may still begin; nothing else is marked after it.
    have owed := winds_run single' stopped after
    unfold Point.owes at owed
    split at owed <;> omega
  · rintro t₁ i t₂ rfl
    obtain ⟨m, m', before, step, after⟩ := run.split
    have single' := (coalesces_handled before).1
    have settled : m'.worker.stopped = true ∧ m'.point.owes = 0 := by
      cases step with
      | thread _ step => cases step
      | notStarted calls none =>
        refine ⟨single'.stopping i (.inl ⟨_, calls⟩), ?_⟩
        rcases single'.shape with ⟨_, empty, _⟩ | ⟨_, _, _, thread⟩
        · unfold System.point
          rw [empty]
          rfl
        · cases none.symm.trans thread
      | joined calls ended =>
        refine ⟨single'.stopping i (.inr ⟨_, _, calls⟩), ?_⟩
        unfold System.point
        rw [(single'.found ended).2]
        rfl
    have owed := winds_run (single'.step step) settled.1 after
    omega

omit [DecidableEq ι] in
theorem RunStep.due {w : CoalescingWorker} {phase : Phase} {deadline : ℚ} (time : ℚ) (unlocked : w.locked = false)
    (live : w.stopped = false) (expired : deadline - time ≤ 0) :
    RunStep (ι := ι) d w (.polling phase deadline) none w (.after phase) := by
  have step : RunStep (ι := ι) d w (.polling phase deadline) none w _ := .poll time unlocked
  rwa [if_neg (by simp [live]), if_pos expired] at step

namespace Sample

theorem refreshed_once : ∃ σ : System Unit, Coalesces metricsRefresh
    [.requested (), .workStarts ⟨1, 1⟩, .workEnds] σ ∧ σ.threads[0]? = some (.blocked false) := by
  have run : Coalesces (ι := Unit) metricsRefresh _ _ :=
    (((Labelled.Run.refl.tail (.start (i := ()) rfl rfl rfl)).tail (.started (i := ()) rfl)).tail
      (.request (i := ()) rfl rfl (.none (by decide)))).tail
      (.thread (k := 0) rfl (.begin ⟨le_refl (0 : ℚ), by norm_num⟩))
  have begun := ((run.tail (.thread (k := 0) rfl (.pass rfl (le_refl 0)))).tail (.thread (k := 0) rfl (.watch rfl))).tail
    (.thread (k := 0) rfl (.arm 0 (show (0 : ℚ) < 1 / 2 by norm_num)))
  have worked := (((begun.tail (.thread (k := 0) rfl (.due 1 rfl rfl (by norm_num [metricsRefresh])))).tail
    (.thread (k := 0) rfl (.mark rfl rfl))).tail (.thread (k := 0) rfl .work)).tail (.thread (k := 0) rfl .finish)
  exact ⟨_, worked.tail (.thread (k := 0) rfl (.watch rfl)), rfl⟩

end Sample

theorem coalesces_refreshed : ∃ σ : System Unit, σ.threads[0]? = some (.blocked false) ∧
    σ.worker.generation = σ.worker.handledGeneration ∧
    works [WorkerEvent.requested (), .workStarts ⟨1, 1⟩, .workEnds] ≤ 1 := by
  obtain ⟨σ, run, waits⟩ := Sample.refreshed_once
  obtain ⟨_, works, idle, _⟩ := coalesces run
  exact ⟨σ, waits, (idle 0 waits).2, works⟩

end OAuthClientBridge
