import Mathlib.Data.Set.Card
import OAuthClientBridge.Db
import OAuthClientBridge.Effect.Pool
import OAuthClientBridge.Utils.Coalescing

/-!
`telemetry/_refresh.py`, and the gauge that its worker keeps up to date: an application with the one
refresher of `create_app`, its worker from `start_background_refresh` on, and the requests beside it.
-/

namespace OAuthClientBridge
open Python Effect

/-- The samples of `TokenStateGauge`, by their state. -/
abbrev TokenStateGauge := String → Option Int

/-- A dictionary of `token_state_counts`. -/
abbrev StateCounts := List (String × Int)

/-- The counts of the table, by their meaning. -/
def Store.Counts {τ : Type} (σ : Store τ) (counts : StateCounts) : Prop :=
  ∃ present revoked : Nat, counts = [("present", (present : Int)), ("revoked", (revoked : Int))] ∧
    Set.encard {id | ∃ row, σ id = some row ∧ row.token ≠ none} = present ∧
    Set.encard {id | ∃ row, σ id = some row ∧ row.token = none} = revoked

/-- Every sample of the dictionary stands in the gauge. -/
def TokenStateGauge.Shows (gauge : TokenStateGauge) (counts : StateCounts) : Prop :=
  ∀ sample ∈ counts, gauge sample.1 = some sample.2

/-- Where `start_background_refresh` and `stop_background_refresh` have got to. -/
inductive RefreshStage where
  | unregistered
  /-- The worker is registered and being started, and was not requested yet. -/
  | launching
  | running
  /-- The worker was taken out of the extensions. -/
  | removed
  deriving DecidableEq

/-- Where the thread of the worker is in `_refresh_metrics_in_app`. -/
inductive Refreshing where
  | idle
  | counting
  /-- In the loop of `set_token_state_counts`, or past it. -/
  | setting (counts : StateCounts)

/-- An application, with the state of its metrics. -/
structure MetricsApp (τ κ : Type) where
  store : Store τ
  gauge : TokenStateGauge := fun _ => none
  stage : RefreshStage := .unregistered
  worker : System κ := {}
  refreshing : Refreshing := .idle
  /-- The last run of the refresher raised, and was logged. -/
  failed : Bool := false

namespace MetricsApp
variable {τ κ : Type} [DecidableEq κ]

/-- What goes on beside the requests. -/
inductive Background (a : MetricsApp τ κ) : MetricsApp τ κ → Prop where
  | register (absent : a.stage = .unregistered) : Background a { a with stage := .launching }
  /-- A step of the worker's thread or of a caller, that shows nothing. -/
  | worker {σ : System κ} (step : WorkerStep metricsRefresh a.worker none σ)
      (starts : a.worker.worker.started = σ.worker.started ∨ a.stage = .launching) : Background a { a with worker := σ }
  /-- The `worker.request()` of `start_background_refresh`. -/
  | launch {σ : System κ} {k : κ} (stage : a.stage = .launching) (started : a.worker.worker.started = true)
      (step : WorkerStep metricsRefresh a.worker (some (.requested k)) σ) :
      Background a { a with worker := σ, stage := .running }
  /-- The `telemetry.request_refresh(app)` of `start_runtime_services`. -/
  | again {σ : System κ} {k : κ} (stage : a.stage = .running) (step : WorkerStep metricsRefresh a.worker (some (.requested k)) σ) :
      Background a { a with worker := σ }
  | remove (stage : a.stage = .running) : Background a { a with stage := .removed }
  | stop {σ : System κ} {k : κ} (stage : a.stage = .removed) (step : WorkerStep metricsRefresh a.worker (some (.stopping k)) σ) :
      Background a { a with worker := σ }
  | stopped {σ : System κ} {k : κ} {timeout : Option ℚ} (stage : a.stage = .removed)
      (step : WorkerStep metricsRefresh a.worker (some (.stopReturned k timeout)) σ) : Background a { a with worker := σ }
  | begin {σ : System κ} {span : WorkSpan} (idle : a.refreshing = .idle)
      (step : WorkerStep metricsRefresh a.worker (some (.workStarts span)) σ) :
      Background a { a with worker := σ, refreshing := .counting }
  | count {counts : StateCounts} (counting : a.refreshing = .counting) (counted : a.store.Counts counts) :
      Background a { a with refreshing := .setting counts, failed := false }
  /-- `token_state_counts()` raised. -/
  | fail (counting : a.refreshing = .counting) : Background a { a with refreshing := .setting [], failed := true }
  | set {state : String} {count : Int} {counts : StateCounts} (setting : a.refreshing = .setting ((state, count) :: counts)) :
      Background a { a with gauge := Function.update a.gauge state (some count), refreshing := .setting counts }
  | finish {σ : System κ} (done : a.refreshing = .setting []) (step : WorkerStep metricsRefresh a.worker (some .workEnds) σ) :
      Background a { a with worker := σ, refreshing := .idle }

/-- `request_refresh()`. It asks the worker that it found in the extensions, if it found one. -/
inductive RequestRefresh (a : MetricsApp τ κ) : MetricsApp τ κ → Prop where
  | none (absent : a.stage = .unregistered ∨ a.stage = .removed) : RequestRefresh a a
  | request {σ : System κ} {k : κ} (found : a.stage ≠ .unregistered)
      (step : WorkerStep metricsRefresh a.worker (some (.requested k)) σ) : RequestRefresh a { a with worker := σ }

/-- What an operation of a request does. -/
def Operates {F : Fernet τ} (a : MetricsApp τ κ) (e : Event (bridge F)) (a' : MetricsApp τ κ) : Prop :=
  match e with
  | ⟨.emit .requestRefresh, _⟩ => a.RequestRefresh a'
  | e => ∃ σ, a.store.Step e σ ∧ a' = { a with store := σ }

/-- Before an operation of a request, anything may go on beside it. -/
def observed {F : Fernet τ} : Environment (bridge F) (MetricsApp τ κ) := fun a e a' =>
  ∃ m, Relation.ReflTransGen Background a m ∧ m.Operates e a'

end MetricsApp
end OAuthClientBridge
