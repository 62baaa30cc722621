import Mathlib.Data.Rat.Init
import Mathlib.Data.Rat.Defs
import Mathlib.Algebra.Order.Ring.Rat
import Mathlib.Logic.Function.Basic
import OAuthClientBridge.Effect.Labelled

/-!
`utils/coalescing.py`: a background worker, its condition variable, and any number of threads that
call it. What a thread does under the lock is one step; in between anything may happen.
-/

namespace OAuthClientBridge
open Effect

/-- The attributes of a `CoalescingWorker`; `locked` while a call of `start` holds its lock. -/
structure CoalescingWorker where
  generation : Nat := 0
  handledGeneration : Nat := 0
  started : Bool := false
  stopped : Bool := false
  locked : Bool := false
  /-- `_thread`, a number of a thread. -/
  thread : Option Nat := none

/-- What a worker is constructed with: its debounce, and what its startup delay may be. -/
structure Delays where
  debounceSeconds : ℚ
  startupDelay : ℚ → Prop

/-- The worker of `start_background_refresh`. -/
def metricsRefresh : Delays := ⟨1 / 2, fun delay => 0 ≤ delay ∧ delay ≤ 5⟩

structure WorkSpan where
  requestGeneration : Nat
  handledGeneration : Nat
  deriving DecidableEq

/-- `worker.coalesced_requests`. -/
def WorkSpan.coalescedRequests (span : WorkSpan) : Int := span.handledGeneration - span.requestGeneration + 1

/-- What `_wait` delays: the loop, or the handling of a generation. -/
inductive Phase where
  | startup
  | debounce (generation : Nat)

/-- Where a thread is in `_run`. -/
inductive Point where
  /-- The thread was constructed but not started. -/
  | created
  | began
  | waiting (phase : Phase) (delay : ℚ)
  /-- In the loop of `_wait`, and about to take the lock. -/
  | polling (phase : Phase) (deadline : ℚ)
  | sleeping (phase : Phase) (deadline : ℚ) (notified : Bool)
  /-- About to take the lock and look whether there is something to do. -/
  | watching
  | blocked (notified : Bool)
  | marking (generation : Nat)
  /-- The generation is marked as handled, and the work has not begun. -/
  | ready (span : WorkSpan)
  | working (span : WorkSpan)
  | ended

namespace Point

/-- Where a thread goes when `_wait` returned `True`. -/
def after : Phase → Point
  | .startup => watching
  | .debounce generation => marking generation

def waits : Point → Bool
  | sleeping _ _ false | blocked false => true
  | _ => false

def notify : Point → Point
  | sleeping phase deadline _ => sleeping phase deadline true
  | blocked _ => blocked true
  | p => p

end Point

inductive WorkerEvent (ι : Type) where
  | requested (i : ι)
  /-- `stop` has set its flag. -/
  | stopping (i : ι)
  | stopReturned (i : ι) (timeout : Option ℚ)
  | workStarts (span : WorkSpan)
  | workEnds

/-- What a calling thread is in the middle of. -/
inductive Call where
  | idle
  /-- In `start`, between the construction of a thread and its start. -/
  | starting (thread : Nat)
  /-- In `stop`, after the flag was set. -/
  | stopping (timeout : Option ℚ)
  | joining (thread : Nat) (timeout : Option ℚ)

/-- The worker, the threads that were constructed for it, and its callers. -/
structure System (ι : Type) where
  worker : CoalescingWorker := {}
  threads : List Point := []
  callers : ι → Call := fun _ => .idle

/-- One step of `_run`. The readings of the clock are arbitrary. -/
inductive RunStep (d : Delays) {ι : Type} (w : CoalescingWorker) :
    Point → Option (WorkerEvent ι) → CoalescingWorker → Point → Prop where
  | begin {delay : ℚ} (drawn : d.startupDelay delay) : RunStep d w .began none w (.waiting .startup delay)
  | pass {phase : Phase} {delay : ℚ} (unlocked : w.locked = false) (now : delay ≤ 0) :
      RunStep d w (.waiting phase delay) none w (if w.stopped then .ended else .after phase)
  | arm {phase : Phase} {delay : ℚ} (time : ℚ) (later : 0 < delay) :
      RunStep d w (.waiting phase delay) none w (.polling phase (time + delay))
  | poll {phase : Phase} {deadline : ℚ} (time : ℚ) (unlocked : w.locked = false) :
      RunStep d w (.polling phase deadline) none w
        (if w.stopped then .ended
        else if deadline - time ≤ 0 then .after phase else .sleeping phase deadline false)
  /-- A notification, or the end of the timeout. -/
  | wake {phase : Phase} {deadline : ℚ} {notified : Bool} :
      RunStep d w (.sleeping phase deadline notified) none w (.polling phase deadline)
  | watch (unlocked : w.locked = false) :
      RunStep d w .watching none w
        (if w.stopped then .ended
        else if w.generation ≠ w.handledGeneration then .waiting (.debounce w.generation) d.debounceSeconds
        else .blocked false)
  | woken : RunStep d w (.blocked true) none w .watching
  | refuse {generation : Nat} (unlocked : w.locked = false) (stopped : w.stopped = true) :
      RunStep d w (.marking generation) none w .ended
  | mark {generation : Nat} (unlocked : w.locked = false) (live : w.stopped = false) :
      RunStep d w (.marking generation) none { w with handledGeneration := max generation w.generation }
        (.ready ⟨generation, max generation w.generation⟩)
  | work {span : WorkSpan} : RunStep d w (.ready span) (some (.workStarts span)) w (.working span)
  | finish {span : WorkSpan} : RunStep d w (.working span) (some .workEnds) w .watching

/-- `notify()`: one of the threads that wait is notified, if there is one. -/
inductive Notified (threads : List Point) : List Point → Prop where
  | none (idle : ∀ p ∈ threads, p.waits = false) : Notified threads threads
  | one {k : Nat} {p : Point} (found : threads[k]? = some p) (waits : p.waits = true) :
      Notified threads (threads.set k p.notify)

section
variable {ι : Type} [DecidableEq ι]

/-- One step of a thread, or of a caller. -/
inductive WorkerStep (d : Delays) (σ : System ι) : Option (WorkerEvent ι) → System ι → Prop where
  | thread {k : Nat} {p p' : Point} {e : Option (WorkerEvent ι)} {w : CoalescingWorker} (found : σ.threads[k]? = some p)
      (step : RunStep d σ.worker p e w p') :
      WorkerStep d σ e { σ with worker := w, threads := σ.threads.set k p' }
  | start {i : ι} (free : σ.callers i = .idle) (unlocked : σ.worker.locked = false) (fresh : σ.worker.started = false) :
      WorkerStep d σ none
        { worker := { σ.worker with started := true, locked := true, thread := some σ.threads.length }
          threads := σ.threads ++ [.created]
          callers := Function.update σ.callers i (.starting σ.threads.length) }
  | started {i : ι} {k : Nat} (calls : σ.callers i = .starting k) :
      WorkerStep d σ none
        { worker := { σ.worker with locked := false }
          threads := σ.threads.set k .began
          callers := Function.update σ.callers i .idle }
  /-- A call of `start` after the first changes nothing. -/
  | startedAlready {i : ι} (free : σ.callers i = .idle) (unlocked : σ.worker.locked = false)
      (again : σ.worker.started = true) : WorkerStep d σ none σ
  | request {i : ι} {threads : List Point} (free : σ.callers i = .idle) (unlocked : σ.worker.locked = false)
      (notified : Notified σ.threads threads) :
      WorkerStep d σ (some (.requested i))
        { σ with worker := { σ.worker with generation := σ.worker.generation + 1 }, threads }
  | stop {i : ι} (timeout : Option ℚ) (free : σ.callers i = .idle) (unlocked : σ.worker.locked = false) :
      WorkerStep d σ (some (.stopping i))
        { worker := { σ.worker with stopped := true }
          threads := σ.threads.map Point.notify
          callers := Function.update σ.callers i (.stopping timeout) }
  | notStarted {i : ι} {timeout : Option ℚ} (calls : σ.callers i = .stopping timeout) (none : σ.worker.thread = none) :
      WorkerStep d σ (some (.stopReturned i timeout)) { σ with callers := Function.update σ.callers i .idle }
  | join {i : ι} {timeout : Option ℚ} {k : Nat} (calls : σ.callers i = .stopping timeout)
      (thread : σ.worker.thread = some k) (runs : σ.threads[k]? ≠ some .created) :
      WorkerStep d σ none { σ with callers := Function.update σ.callers i (.joining k timeout) }
  /-- `join` raises for a thread that was not started. -/
  | joinRaises {i : ι} {timeout : Option ℚ} {k : Nat} (calls : σ.callers i = .stopping timeout)
      (thread : σ.worker.thread = some k) (created : σ.threads[k]? = some .created) :
      WorkerStep d σ none { σ with callers := Function.update σ.callers i .idle }
  | joined {i : ι} {timeout : Option ℚ} {k : Nat} (calls : σ.callers i = .joining k timeout)
      (ended : σ.threads[k]? = some .ended) :
      WorkerStep d σ (some (.stopReturned i timeout)) { σ with callers := Function.update σ.callers i .idle }
  | timedOut {i : ι} {timeout : ℚ} {k : Nat} (calls : σ.callers i = .joining k (some timeout)) :
      WorkerStep d σ (some (.stopReturned i (some timeout))) { σ with callers := Function.update σ.callers i .idle }

/-- What a fresh worker and its callers can do. -/
def Coalesces (d : Delays) (t : List (WorkerEvent ι)) (σ : System ι) : Prop := Labelled.Run (WorkerStep d) {} t σ

end
end OAuthClientBridge
