import OAuthClientBridge.Utils.CoalescingRuns

/-! The number of requests that each run of the work reports as coalesced. -/

namespace OAuthClientBridge
open Effect

variable {ι : Type} {d : Delays} {σ σ' : System ι} {t u : List (WorkerEvent ι)}

/-! ### What is reported -/

def WorkerEvent.span? : WorkerEvent ι → Option WorkSpan
  | .workStarts span => some span
  | _ => none

def spans (t : List (WorkerEvent ι)) : List WorkSpan := t.filterMap WorkerEvent.span?

/-- The span of a run whose generation is marked, and whose work has not begun. -/
def Point.marked : Point → List WorkSpan
  | ready span => [span]
  | _ => []

/-- The runs so far, from the marking of their generation on. -/
def workRuns (t : List (WorkerEvent ι)) (σ : System ι) : List WorkSpan := spans t ++ σ.point.marked

/-- Each run reports by how much it increases the handled generation, which goes from `prior` to `now`. -/
def Reports (prior : Nat) : List WorkSpan → Nat → Prop
  | [], now => now = prior
  | span :: later, now =>
    span.coalescedRequests = span.handledGeneration - prior ∧ Reports span.handledGeneration later now

theorem reports_snoc {prior now : Nat} {runs : List WorkSpan} {span : WorkSpan} (before : Reports prior runs now)
    (counts : span.coalescedRequests = span.handledGeneration - now) :
    Reports prior (runs ++ [span]) span.handledGeneration := by
  induction runs generalizing prior with
  | nil =>
    obtain rfl : now = prior := before
    exact ⟨counts, rfl⟩
  | cons first runs ih => exact ⟨before.1, ih before.2⟩

theorem reports_sum {prior now : Nat} {runs : List WorkSpan} (h : Reports prior runs now) :
    (runs.map WorkSpan.coalescedRequests).sum = now - prior := by
  induction runs generalizing prior with
  | nil =>
    obtain rfl : now = prior := h
    exact (Int.sub_self _).symm
  | cons span runs ih =>
    rw [List.map_cons, List.sum_cons, h.1, ih h.2]
    omega

theorem spans_append (t u : List (WorkerEvent ι)) : spans (t ++ u) = spans t ++ spans u := List.filterMap_append

/-! ### Prompt runs -/

variable [DecidableEq ι]

/-- A step by which the thread wakes to one request, if it is one by which it wakes. -/
def PromptStep (d : Delays) (σ : System ι) (e : Option (WorkerEvent ι)) (σ' : System ι) : Prop :=
  WorkerStep d σ e σ' ∧ ∀ (k : Nat) generation delay, σ.threads[k]? = some .watching →
    σ'.threads[k]? = some (.waiting (.debounce generation) delay) → σ.worker.generation = σ.worker.handledGeneration + 1

/-- The runs in which whenever the thread wakes there is one request that was not handled. -/
def CoalescesPromptly (d : Delays) (t : List (WorkerEvent ι)) (σ : System ι) : Prop := Labelled.Run (PromptStep d) {} t σ

/-- The thread holds the successor of the handled generation, and the runs so far report rightly. -/
structure Counted (t : List (WorkerEvent ι)) (w : CoalescingWorker) (p : Point) : Prop where
  pending : ∀ g ∈ p.generation?, g = w.handledGeneration + 1
  reports : Reports 0 (spans t ++ p.marked) w.handledGeneration

section Counted
omit [DecidableEq ι]
variable {w w' : CoalescingWorker} {p p' : Point}

theorem Counted.goes (h : Counted t w p) (unmarked : p'.marked = p.marked)
    (pending : ∀ g ∈ p'.generation?, g = w.handledGeneration + 1) : Counted t w p' :=
  ⟨pending, unmarked ▸ h.reports⟩

theorem after_marked (phase : Phase) : (Point.after phase).marked = [] := by
  cases phase <;> rfl

theorem notify_marked (p : Point) : p.notify.marked = p.marked := by
  cases p <;> rfl

theorem Counted.run (h : Counted t w p) {e : Option (WorkerEvent ι)} (step : RunStep d w p e w' p')
    (wakes : ∀ generation delay, p = .watching → p' = .waiting (.debounce generation) delay →
      w.generation = w.handledGeneration + 1) (bound : ∀ g ∈ p.generation?, g ≤ w.generation) :
    Counted (t ++ e.toList) w' p' := by
  have quiet : t ++ (none : Option (WorkerEvent ι)).toList = t := List.append_nil t
  cases step with
  | begin _ | woken | refuse _ _ =>
    rw [quiet]
    exact h.goes rfl nofun
  | arm _ _ | wake =>
    rw [quiet]
    exact h.goes rfl h.pending
  | pass _ _ =>
    rw [quiet]
    split
    · exact h.goes rfl nofun
    · apply h.goes (after_marked _)
      rw [(after_generation _).1]
      exact h.pending
  | poll _ _ =>
    rw [quiet]
    split
    · exact h.goes rfl nofun
    split
    · apply h.goes (after_marked _)
      rw [(after_generation _).1]
      exact h.pending
    · exact h.goes rfl h.pending
  | watch _ =>
    rw [quiet]
    split
    · exact h.goes rfl nofun
    rename_i live
    split
    · rename_i news
      refine h.goes rfl ?_
      intro g pending
      obtain rfl : w.generation = g := Option.some.inj pending
      apply wakes w.generation d.debounceSeconds rfl
      rw [if_neg live, if_pos news]
    · exact h.goes rfl nofun
  | @mark generation _ _ =>
    rw [quiet]
    have next := h.pending generation rfl
    have newest := bound generation rfl
    have reports := h.reports
    rw [show (Point.marking generation).marked = [] from rfl, List.append_nil] at reports
    refine ⟨nofun, reports_snoc reports ?_⟩
    unfold WorkSpan.coalescedRequests
    dsimp only
    omega
  | work | finish =>
    refine ⟨nofun, ?_⟩
    rw [spans_append, List.append_assoc]
    exact h.reports

end Counted

omit [DecidableEq ι] in
theorem Counted.others (h : Counted t σ.worker σ.point) {e : Option (WorkerEvent ι)} (shows : spans e.toList = [])
    (handled : σ'.worker.handledGeneration = σ.worker.handledGeneration)
    (moves : σ'.point.generation? = σ.point.generation? ∧ σ'.point.marked = σ.point.marked) :
    Counted (t ++ e.toList) σ'.worker σ'.point := by
  obtain ⟨generation, marked⟩ := moves
  constructor
  · rw [generation, handled]
    exact h.pending
  · rw [spans_append, shows, List.append_nil, marked, handled]
    exact h.reports

theorem counted_step {b : WorkBooks} {e : Option (WorkerEvent ι)} (single : Single σ)
    (handled : Handled σ.worker b σ.point) (h : Counted t σ.worker σ.point) (step : PromptStep d σ e σ') :
    Counted (t ++ e.toList) σ'.worker σ'.point := by
  obtain ⟨step, wakes⟩ := step
  cases step with
  | @thread k p p' _ w found step =>
    obtain ⟨rfl, one⟩ := single.found found
    have bound : ∀ g ∈ σ.point.generation?, g ≤ σ.worker.generation := by
      intro g pending
      exact (handled.pending g pending).2
    unfold System.point at h bound ⊢
    rw [one] at h bound ⊢
    apply h.run step ?_ bound
    rintro generation delay rfl rfl
    apply wakes 0 generation delay found
    rw [one]
    rfl
  | start _ unlocked fresh =>
    rcases single.shape with ⟨_, none, _⟩ | ⟨started, _⟩
    · refine h.others rfl rfl ?_
      unfold System.point
      rw [none]
      exact ⟨rfl, rfl⟩
    · cases started.symm.trans fresh
  | started calls =>
    obtain ⟨_, rfl, created, _⟩ := single.starting _ _ calls
    refine h.others rfl rfl ?_
    unfold System.point
    rw [created]
    exact ⟨rfl, rfl⟩
  | @request i threads _ _ notified =>
    refine h.others rfl rfl ?_
    unfold System.point
    rcases single.shape with ⟨_, none, _⟩ | ⟨_, p, one, _⟩
    · rw [none] at notified ⊢
      rw [notified.nil]
      exact ⟨rfl, rfl⟩
    · rw [one] at notified ⊢
      rcases notified.single with same | ⟨same, _⟩
      · rw [same]
        exact ⟨(notify_generation p).1, notify_marked p⟩
      · rw [same]
        exact ⟨rfl, rfl⟩
  | stop _ _ _ =>
    refine h.others rfl rfl ?_
    have moved := point_stop σ
    unfold System.point at moved ⊢
    dsimp only at moved ⊢
    rw [moved]
    exact ⟨(notify_generation _).1, notify_marked _⟩
  | startedAlready _ _ _ | notStarted _ _ | join _ _ _ | joinRaises _ _ _ | joined _ _ | timedOut _ =>
    exact h.others rfl rfl ⟨rfl, rfl⟩

/-- Where the thread wakes only to single requests, each run of the work reports the requests that it absorbs. -/
theorem coalesced_counts (run : CoalescesPromptly d t σ) :
    Reports 0 (workRuns t σ) σ.worker.handledGeneration ∧
      ((workRuns t σ).map WorkSpan.coalescedRequests).sum = σ.worker.handledGeneration := by
  have counted : Single σ ∧ Handled σ.worker (books t) σ.point ∧ Counted t σ.worker σ.point := by
    apply run.invariant (I := fun σ t => Single σ ∧ Handled σ.worker (books t) σ.point ∧ Counted t σ.worker σ.point)
    · obtain ⟨single, handled⟩ := coalesces_handled (ι := ι) (d := d) .refl
      exact ⟨single, handled, nofun, rfl⟩
    · rintro σ t e σ' ⟨single, handled, counted⟩ step
      refine ⟨single.step step.1, ?_, counted_step single handled counted step⟩
      rw [books_append]
      exact handled_step single handled step.1
  obtain ⟨_, _, counted⟩ := counted
  refine ⟨counted.reports, ?_⟩
  rw [workRuns, reports_sum counted.reports]
  omega

theorem WorkerStep.prompt {e : Option (WorkerEvent ι)} (step : WorkerStep d σ e σ')
    (one : σ.worker.generation = σ.worker.handledGeneration + 1 ∨ ∀ p ∈ σ.threads, p ≠ .watching) : PromptStep d σ e σ' := by
  refine ⟨step, fun k generation delay watches _ => ?_⟩
  rcases one with one | asleep
  · exact one
  · exact absurd rfl (asleep _ (List.mem_of_getElem? watches))

namespace Sample

def undelayed : Delays := ⟨0, fun delay => delay = 0⟩

theorem counted_once : ∃ σ : System Unit, CoalescesPromptly undelayed
    [.requested (), .workStarts ⟨1, 1⟩, .requested ()] σ ∧ σ.worker.handledGeneration = 1 := by
  have started : CoalescesPromptly (ι := Unit) undelayed _ _ :=
    (Labelled.Run.refl.tail ((WorkerStep.start (i := ()) rfl rfl rfl).prompt (.inr (by simp)))).tail
      ((WorkerStep.started (i := ()) rfl).prompt (.inr (by simp)))
  have asked := started.tail ((WorkerStep.request (i := ()) rfl rfl (.none (by decide))).prompt (.inr (by simp)))
  have woken := ((asked.tail ((WorkerStep.thread (k := 0) rfl (.begin rfl)).prompt (.inl rfl))).tail
    ((WorkerStep.thread (k := 0) rfl (.pass rfl (le_refl 0))).prompt (.inl rfl))).tail
    ((WorkerStep.thread (k := 0) rfl (.watch rfl)).prompt (.inl rfl))
  have marked := (woken.tail ((WorkerStep.thread (k := 0) rfl (.pass rfl (le_refl 0))).prompt (.inl rfl))).tail
    ((WorkerStep.thread (k := 0) rfl (.mark rfl rfl)).prompt (.inl rfl))
  have works := marked.tail ((WorkerStep.thread (k := 0) rfl .work).prompt (.inr (by simp)))
  exact ⟨_, works.tail ((WorkerStep.request (i := ()) rfl rfl (.none (by decide))).prompt (.inr (by simp))), rfl⟩

theorem miscounted : ∃ σ : System Unit, Coalesces undelayed
    [.requested (), .requested (), .workStarts ⟨2, 2⟩] σ ∧ σ.worker.handledGeneration = 2 ∧ σ.point.marked = [] := by
  have started : Coalesces (ι := Unit) undelayed _ _ :=
    (Labelled.Run.refl.tail (.start (i := ()) rfl rfl rfl)).tail (.started (i := ()) rfl)
  have asked := (started.tail (.request (i := ()) rfl rfl (.none (by decide)))).tail
    (.request (i := ()) rfl rfl (.none (by decide)))
  have woken := ((asked.tail (.thread (k := 0) rfl (.begin rfl))).tail (.thread (k := 0) rfl (.pass rfl (le_refl 0)))).tail
    (.thread (k := 0) rfl (.watch rfl))
  have marked := (woken.tail (.thread (k := 0) rfl (.pass rfl (le_refl 0)))).tail (.thread (k := 0) rfl (.mark rfl rfl))
  exact ⟨_, marked.tail (.thread (k := 0) rfl .work), rfl, rfl⟩

end Sample

theorem coalesced_counts_once : ∃ σ : System Unit, σ.worker.handledGeneration = 1 ∧
    ((workRuns [.requested (), .workStarts ⟨1, 1⟩, .requested ()] σ).map WorkSpan.coalescedRequests).sum = 1 := by
  obtain ⟨σ, run, handled⟩ := Sample.counted_once
  obtain ⟨_, sum⟩ := coalesced_counts run
  rw [handled] at sum
  exact ⟨σ, handled, sum⟩

/-- A run that absorbs two requests reports one. -/
theorem coalesced_miscounts : ∃ (t : List (WorkerEvent Unit)) (σ : System Unit), Coalesces Sample.undelayed t σ ∧
    workRuns t σ = [⟨2, 2⟩] ∧ σ.worker.handledGeneration = 2 ∧
    ((workRuns t σ).map WorkSpan.coalescedRequests).sum = 1 ∧ ¬Reports 0 (workRuns t σ) σ.worker.handledGeneration := by
  obtain ⟨σ, run, handled, unmarked⟩ := Sample.miscounted
  have runs : workRuns [.requested (), .requested (), .workStarts ⟨2, 2⟩] σ = [⟨2, 2⟩] := by
    rw [workRuns, unmarked]
    rfl
  refine ⟨_, σ, run, runs, handled, by rw [runs]; rfl, ?_⟩
  rw [runs]
  intro reports
  exact absurd reports.1 (by decide)

end OAuthClientBridge
