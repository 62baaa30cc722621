import OAuthClientBridge.Db.Refinement
import OAuthClientBridge.Telemetry.Accounts
import OAuthClientBridge.Telemetry.Refresh
import OAuthClientBridge.Utils.CoalescingRuns

/-! The gauge of the token states shows what is in the table, once the worker has nothing left to do. -/

namespace OAuthClientBridge
open Python Effect Program

/-! ### What the worker still has to do -/

section Worker
variable {κ : Type} {d : Delays} {σ σ' : System κ} {e : Option (WorkerEvent κ)}

/-- A request was not handled yet, or its work has not begun. -/
def System.Due (σ : System κ) : Prop :=
  σ.worker.generation ≠ σ.worker.handledGeneration ∨ σ.point.isReady = true

def System.Works (σ : System κ) : Prop := ∃ span, σ.point = .working span

theorem point_eq {p : Point} (one : σ.threads = [p]) : σ.point = p := by
  rw [System.point, one]
  rfl

theorem RunStep.stays_due {w w' : CoalescingWorker} {p p' : Point} (step : RunStep d w p e w' p')
    (begins : ∀ span, e ≠ some (.workStarts span)) (due : w.generation ≠ w.handledGeneration ∨ p.isReady = true) :
    w'.generation ≠ w'.handledGeneration ∨ p'.isReady = true := by
  cases step with
  | work => exact absurd rfl (begins _)
  | mark _ _ => exact .inr rfl
  | _ => exact due.imp_right nofun

theorem RunStep.stays_working {w w' : CoalescingWorker} {p p' : Point} (step : RunStep d w p e w' p')
    (unfinished : e ≠ some .workEnds) (works : ∃ span, p = .working span) : ∃ span, p' = .working span := by
  obtain ⟨span, rfl⟩ := works
  cases step
  exact absurd rfl unfinished

variable [DecidableEq κ]

/-- A step of a caller: it changes the generation only by a request, and nothing of what the thread is at. -/
structure CallerStep (σ : System κ) (e : Option (WorkerEvent κ)) (σ' : System κ) : Prop where
  handled : σ'.worker.handledGeneration = σ.worker.handledGeneration
  generation : σ'.worker.generation = σ.worker.generation + requests e.toList
  ready : σ'.point.isReady = σ.point.isReady
  works : σ'.Works ↔ σ.Works
  starts : ∀ span, e ≠ some (.workStarts span)
  ends : e ≠ some .workEnds

theorem notify_works (p : Point) (span : WorkSpan) : p.notify = .working span ↔ p = .working span := by
  cases p <;> simp [Point.notify]

theorem WorkerStep.inv (single : Single σ) (step : WorkerStep d σ e σ') :
    (∃ p w p', σ.threads = [p] ∧ RunStep d σ.worker p e w p' ∧ σ' = { σ with worker := w, threads := [p'] }) ∨
      CallerStep σ e σ' := by
  cases step with
  | @thread k p p' _ w found step =>
    obtain ⟨rfl, one⟩ := single.found found
    exact .inl ⟨p, w, p', one, step, by rw [one]; rfl⟩
  | start _ _ fresh =>
    rcases single.shape with ⟨_, none, _⟩ | ⟨started, _⟩
    · have before : σ.point = .created := by rw [System.point, none]; rfl
      have after := point_eq (σ := { σ with threads := σ.threads ++ [.created] }) (p := .created) (by rw [none]; rfl)
      refine .inr ⟨rfl, rfl, ?_, ?_, nofun, nofun⟩
      · exact (congrArg Point.isReady after).trans (congrArg Point.isReady before).symm
      · refine exists_congr fun span => iff_of_false (fun works => ?_) fun works => ?_
        · cases after.symm.trans works
        · cases before.symm.trans works
    · cases started.symm.trans fresh
  | started calls =>
    obtain ⟨_, rfl, created, _⟩ := single.starting _ _ calls
    have before := point_eq created
    have after := point_eq (σ := { σ with threads := σ.threads.set 0 .began }) (p := .began) (by rw [created]; rfl)
    refine .inr ⟨rfl, rfl, ?_, ?_, nofun, nofun⟩
    · exact (congrArg Point.isReady after).trans (congrArg Point.isReady before).symm
    · refine exists_congr fun span => iff_of_false (fun works => ?_) fun works => ?_
      · cases after.symm.trans works
      · cases before.symm.trans works
  | @request i threads _ _ notified =>
    have point : ({ σ with threads := threads } : System κ).point = σ.point ∨
        ({ σ with threads := threads } : System κ).point = σ.point.notify := by
      rcases single.shape with ⟨_, none, _⟩ | ⟨_, p, one, _⟩
      · rw [none] at notified
        exact .inl (by rw [System.point, System.point, none, notified.nil])
      · rw [one] at notified
        rw [point_eq one]
        rcases notified.single with same | ⟨same, _⟩
        · exact .inr (point_eq same)
        · exact .inl (point_eq same)
    rcases point with same | same
    · refine .inr ⟨rfl, rfl, congrArg Point.isReady same, exists_congr fun span => ?_, nofun, nofun⟩
      exact ⟨same.symm.trans, same.trans⟩
    · refine .inr ⟨rfl, rfl, ?_, exists_congr fun span => ?_, nofun, nofun⟩
      · exact (congrArg Point.isReady same).trans (notify_generation σ.point).2.1
      · exact ⟨fun works => (notify_works σ.point span).mp (same.symm.trans works),
          fun works => same.trans ((notify_works σ.point span).mpr works)⟩
  | stop _ _ _ =>
    have woken := point_stop σ
    refine .inr ⟨rfl, rfl, ?_, exists_congr fun span => ?_, nofun, nofun⟩
    · exact (congrArg Point.isReady woken).trans (notify_generation σ.point).2.1
    · exact ⟨fun works => (notify_works σ.point span).mp (woken.symm.trans works),
        fun works => woken.trans ((notify_works σ.point span).mpr works)⟩
  | startedAlready _ _ _ | notStarted _ _ | join _ _ _ | joinRaises _ _ _ | joined _ _ | timedOut _ =>
    exact .inr ⟨rfl, rfl, rfl, .rfl, nofun, nofun⟩

theorem WorkerStep.due (single : Single σ) {b : WorkBooks} (handled : Handled σ.worker b σ.point) (step : WorkerStep d σ e σ')
    (begins : ∀ span, e ≠ some (.workStarts span)) (due : σ.Due) : σ'.Due := by
  rcases step.inv single with ⟨p, w, p', one, ran, rfl⟩ | called
  · rw [System.Due, point_eq one] at due
    rw [System.Due, point_eq (p := p') rfl]
    exact ran.stays_due begins due
  · unfold System.Due at due ⊢
    have bound := handled.handled
    rw [called.handled, called.generation, called.ready]
    rcases due with news | ready
    · exact .inl (by omega)
    · exact .inr ready

theorem WorkerStep.requested (single : Single σ) {b : WorkBooks} (handled : Handled σ.worker b σ.point) {k : κ}
    (step : WorkerStep d σ (some (.requested k)) σ') : σ'.Due := by
  rcases step.inv single with ⟨p, w, p', _, ran, _⟩ | called
  · cases ran
  · have bound := handled.handled
    have one : requests [WorkerEvent.requested k] = 1 := rfl
    refine .inl ?_
    rw [called.handled, called.generation, Option.toList_some, one]
    omega

theorem WorkerStep.working (single : Single σ) (step : WorkerStep d σ e σ') (unfinished : e ≠ some .workEnds)
    (works : σ.Works) : σ'.Works := by
  rcases step.inv single with ⟨p, w, p', one, ran, rfl⟩ | called
  · rw [System.Works, point_eq one] at works
    exact ran.stays_working unfinished works
  · exact called.works.mpr works

theorem WorkerStep.begun (single : Single σ) {span : WorkSpan} (step : WorkerStep d σ (some (.workStarts span)) σ') : σ'.Works := by
  rcases step.inv single with ⟨p, w, p', _, ran, rfl⟩ | called
  · cases ran
    exact ⟨span, rfl⟩
  · exact absurd rfl (called.starts span)

end Worker

/-! ### The counts -/

instance : Finite ClientId :=
  Finite.of_injective (fun id => id.uuid.toFin) fun _ _ same =>
    congrArg ClientId.mk (BitVec.eq_of_toFin_eq same)

theorem exists_counts {τ : Type} (σ : Store τ) : ∃ counts, σ.Counts counts := by
  have finite (p : ClientId → Prop) : ∃ n : Nat, Set.encard {id | p id} = n :=
    ⟨_, (Set.toFinite {id | p id}).cast_ncard_eq.symm⟩
  obtain ⟨present, withToken⟩ := finite fun id => ∃ row, σ id = some row ∧ row.token ≠ none
  obtain ⟨revoked, withoutToken⟩ := finite fun id => ∃ row, σ id = some row ∧ row.token = none
  exact ⟨_, present, revoked, rfl, withToken, withoutToken⟩

/-- `token_state_counts()` of the database counts the map that it holds. -/
theorem Database.Holds.tokenStateCounts_iff {db : Database} {σ : Store Bytes} (holds : db.Holds σ) {counts : TokenStateCounts} :
    db.tokenStateCounts = .ok counts ↔ σ.Counts [("present", counts.present), ("revoked", counts.revoked)] := by
  obtain ⟨present, revoked, read, withToken, withoutToken⟩ := holds.counts
  rw [read]
  constructor
  · intro same
    obtain rfl := Except.ok.inj same
    exact ⟨present, revoked, rfl, withToken, withoutToken⟩
  · intro ⟨present', revoked', same, withToken', withoutToken'⟩
    obtain rfl : present' = present := Nat.cast_inj.mp (withToken'.symm.trans withToken)
    obtain rfl : revoked' = revoked := Nat.cast_inj.mp (withoutToken'.symm.trans withoutToken)
    obtain ⟨p, r⟩ := counts
    simp only [List.cons.injEq, Prod.mk.injEq, true_and, and_true] at same
    rw [same.1, same.2]

/-! ### What keeps the gauge fresh -/

namespace MetricsApp
variable {τ κ : Type} [DecidableEq κ] {F : Fernet τ} {a a' : MetricsApp τ κ}

/-- The gauge shows the table. -/
def Fresh (a : MetricsApp τ κ) : Prop := ∃ counts, a.store.Counts counts ∧ a.gauge.Shows counts

/-- The refresher has shown, or is about to show, the table as it is. -/
def Refreshes (a : MetricsApp τ κ) : Prop :=
  match a.refreshing with
  | .idle => a.Fresh
  | .counting => True
  | .setting rest => ∃ counts shown, a.store.Counts counts ∧ counts = shown ++ rest ∧ a.gauge.Shows shown

/-- While the worker runs: the gauge is fresh, or somebody is about to refresh it, unless the last refresh failed. -/
structure Attended (owed : Prop) (a : MetricsApp τ κ) : Prop where
  run : ∃ t, Coalesces metricsRefresh t a.worker
  busy : a.refreshing = .idle ∨ a.worker.Works
  attended : a.stage = .running → a.failed = true ∨ owed ∨ a.worker.Due ∨ a.Refreshes

section Step
variable {owed : Prop}

theorem Attended.handled (h : a.Attended owed) : Single a.worker ∧ ∃ b, Handled a.worker.worker b a.worker.point := by
  obtain ⟨t, run⟩ := h.run
  obtain ⟨single, handled⟩ := coalesces_handled run
  exact ⟨single, _, handled⟩

/-- A step of the worker that neither begins nor ends the work. -/
theorem Attended.worker (h : a.Attended owed) {σ : System κ} {e : Option (WorkerEvent κ)}
    (step : WorkerStep metricsRefresh a.worker e σ) (begins : ∀ span, e ≠ some (.workStarts span))
    (unfinished : e ≠ some .workEnds) : Attended owed { a with worker := σ } where
  run := by
    obtain ⟨t, run⟩ := h.run
    exact ⟨_, run.tail step⟩
  busy := h.busy.imp_right (step.working h.handled.1 unfinished)
  attended running := by
    obtain ⟨single, b, handled⟩ := h.handled
    exact (h.attended running).imp_right (Or.imp_right (Or.imp_left (step.due single handled begins)))

theorem Attended.requests (h : a.Attended owed) {σ : System κ} {k : κ}
    (step : WorkerStep metricsRefresh a.worker (some (.requested k)) σ) (stage : RefreshStage) {owed' : Prop} :
    Attended owed' { a with worker := σ, stage } where
  run := by
    obtain ⟨t, run⟩ := h.run
    exact ⟨_, run.tail step⟩
  busy := h.busy.imp_right (step.working h.handled.1 nofun)
  attended _ := by
    obtain ⟨single, b, handled⟩ := h.handled
    exact .inr (.inr (.inl (step.requested single handled)))

theorem counts_distinct {σ : Store τ} {counts : StateCounts} (counted : σ.Counts counts) :
    (counts.map Prod.fst).Nodup := by
  obtain ⟨present, revoked, rfl, _⟩ := counted
  simp

/-- Setting the next sample leaves the earlier ones in place. -/
theorem shows_set {gauge : TokenStateGauge} {shown rest : StateCounts} {state : String} {count : Int}
    (shows : gauge.Shows shown) (distinct : ((shown ++ (state, count) :: rest).map Prod.fst).Nodup) :
    TokenStateGauge.Shows (Function.update gauge state (some count)) (shown ++ [(state, count)]) := by
  intro sample member
  rcases List.mem_append.mp member with earlier | last
  · have other : sample.1 ≠ state := by
      intro same
      rw [List.map_append, List.nodup_append] at distinct
      exact distinct.2.2 _ (List.mem_map_of_mem earlier) state (by simp) same
    rw [Function.update_of_ne other]
    exact shows sample earlier
  · obtain rfl := List.mem_singleton.mp last
    exact Function.update_self _ _ _

theorem Attended.background (h : a.Attended owed) (step : Background a a') : a'.Attended owed := by
  have quiet : ∀ {r}, a.refreshing = r → r ≠ .idle → a.worker.Works := by
    intro r same busy
    rcases h.busy with idle | works
    · exact absurd (same.symm.trans idle) busy
    · exact works
  cases step with
  | register absent => exact ⟨h.run, h.busy, nofun⟩
  | worker step _ => exact h.worker step nofun nofun
  | launch _ _ step => exact h.requests step .running
  | again _ step => exact h.requests step a.stage
  | remove _ => exact ⟨h.run, h.busy, nofun⟩
  | stop _ step => exact h.worker step nofun nofun
  | stopped _ step => exact h.worker step nofun nofun
  | begin _ step =>
    obtain ⟨t, run⟩ := h.run
    exact ⟨⟨_, run.tail step⟩, .inr (step.begun h.handled.1), fun _ => .inr (.inr (.inr trivial))⟩
  | count counting counted =>
    refine ⟨h.run, .inr (quiet counting nofun), fun _ => .inr (.inr (.inr ?_))⟩
    exact ⟨_, [], counted, rfl, nofun⟩
  | fail counting => exact ⟨h.run, .inr (quiet counting nofun), fun _ => .inl rfl⟩
  | set setting =>
    refine ⟨h.run, .inr (quiet setting nofun), fun running => ?_⟩
    refine (h.attended running).imp_right (Or.imp_right (Or.imp_right fun refreshes => ?_))
    unfold Refreshes at refreshes
    rw [setting] at refreshes
    obtain ⟨counts, shown, counted, rfl, shows⟩ := refreshes
    exact ⟨_, _, counted, (List.append_assoc _ [_] _).symm, shows_set shows (counts_distinct counted)⟩
  | finish done step =>
    obtain ⟨t, run⟩ := h.run
    obtain ⟨single, b, handled⟩ := h.handled
    refine ⟨⟨_, run.tail step⟩, .inl rfl, fun running => ?_⟩
    refine (h.attended running).imp_right (Or.imp_right (Or.imp (step.due single handled nofun) fun refreshes => ?_))
    unfold Refreshes at refreshes
    rw [done] at refreshes
    obtain ⟨counts, shown, counted, rfl, shows⟩ := refreshes
    exact ⟨shown ++ [], counted, by rwa [List.append_nil]⟩

theorem Attended.backgrounds (h : a.Attended owed) (steps : Relation.ReflTransGen Background a a') : a'.Attended owed := by
  induction steps with
  | refl => exact h
  | tail _ step ih => exact ih.background step

theorem Attended.fresh (h : a.Attended owed) (settled : ¬ owed) (running : a.stage = .running) (healthy : a.failed = false)
    (waits : a.worker.threads[0]? = some (.blocked false)) : a.Fresh := by
  obtain ⟨single, b, handled⟩ := h.handled
  have point : a.worker.point = .blocked false := point_eq (single.found waits).2
  have idle : a.refreshing = .idle := by
    rcases h.busy with idle | ⟨span, works⟩
    · exact idle
    · cases point.symm.trans works
  rcases h.attended running with failed | owed | (news | ready) | refreshes
  · cases healthy.symm.trans failed
  · exact absurd owed settled
  · exact absurd (handled.blocked point).2 news
  · rw [point] at ready
    cases ready
  · unfold Refreshes at refreshes
    rwa [idle] at refreshes

end Step

/-! ### The requests beside it -/

theorem enter_owed {b : Journal} {e : Event (bridge F)} (other : e.op ≠ .emit .requestRefresh) (owed : b.owed = true) :
    (b.enter e).owed = true := by
  obtain ⟨o, answer⟩ := e
  cases o with
  | select id =>
    cases answer <;> exact owed
  | insert _ _ _ =>
    cases answer with
    | inserted => rfl
    | integrityError => exact owed
  | update _ _ _ => simp [Journal.enter, owed]
  | emit e =>
    cases e with
    | requestRefresh => exact absurd rfl other
    | metric m => cases m <;> exact owed
    | _ => exact owed
  | _ => exact owed

/-- A statement that changes the table is entered as one. -/
theorem enter_change {b : Journal} {σ σ' : Store τ} {e : Event (bridge F)} (step : Store.Step σ e σ') (changed : σ' ≠ σ) :
    (b.enter e).owed = true := by
  rcases Store.step_cases step with ⟨same, _⟩ | ⟨id, token, now, rfl, _⟩ | ⟨id, row, token, now, n, rfl, found, _⟩
  · exact absurd same changed
  · rfl
  · have one : n = (σ.update id token now).1 := (Prod.mk.inj step).1
    simp [Journal.enter, one, Store.update, found]

variable {ι : Type} [DecidableEq ι]

/-- Some request has changed the table, and has not asked for new counts. -/
def Owed (js : ι → Journal) : Prop := ∃ i, (js i).owed = true

theorem operates_cases {e : Event (bridge F)} (step : a.Operates e a') :
    e.op = .emit .requestRefresh ∧ a.RequestRefresh a' ∨
      e.op ≠ .emit .requestRefresh ∧ ∃ σ, a.store.Step e σ ∧ a' = { a with store := σ } := by
  obtain ⟨o, answer⟩ := e
  by_cases asks : o = .emit .requestRefresh
  · subst asks
    exact .inl ⟨rfl, step⟩
  · refine .inr ⟨asks, ?_⟩
    cases o with
    | emit e =>
      cases e with
      | requestRefresh => exact absurd rfl asks
      | _ => exact step
    | _ => exact step

theorem Attended.operates {js : ι → Journal} (h : a.Attended (Owed js)) {e : Event (bridge F)} (i : ι)
    (step : a.Operates e a') : a'.Attended (Owed (Function.update js i ((js i).enter e))) := by
  rcases operates_cases step with ⟨_, asked⟩ | ⟨asks, σ, now, rfl⟩
  · cases asked with
    | none absent =>
      refine ⟨h.run, h.busy, fun running => ?_⟩
      rcases absent with other | other <;> cases running.symm.trans other
    | request _ asked => exact h.requests asked a.stage
  · have still : Owed js → Owed (Function.update js i ((js i).enter e)) := by
      intro ⟨j, owed⟩
      refine ⟨j, ?_⟩
      by_cases same : j = i
      · subst same
        rw [Function.update_self]
        exact enter_owed asks owed
      · rwa [Function.update_of_ne same]
    refine ⟨h.run, h.busy, fun running => ?_⟩
    by_cases changed : σ = a.store
    · subst changed
      exact (h.attended running).imp_right (Or.imp_left still)
    · refine .inr (.inl ⟨i, ?_⟩)
      rw [Function.update_self]
      exact enter_change now changed

section Service
variable {P : Platform τ} {s : Settings} {σ : Store τ} {requests : ι → Request}
  {c : Pool.Config (bridge P.fernet) Exc Response (MetricsApp τ κ) ι}

theorem attended_reachable (h : Pool.Reachable observed (service P s { store := σ } requests) c) :
    c.world.Attended (Owed fun i => (c.thread i).done.foldl Journal.enter {}) := by
  apply Pool.invariant_tally (Φ := fun _ _ => True) (Q := fun _ _ => True) (I := fun a js => a.Attended (Owed js))
    (fun i => safe_of_stable (I := fun _ => True) (fun _ _ _ _ _ => trivial) _ trivial) _ _ h
  · exact ⟨⟨[], .refl⟩, .inl rfl, nofun⟩
  · intro a js i o answer a' attended _ now
    obtain ⟨m, beside, operates⟩ := now
    exact (attended.backgrounds beside).operates i operates

theorem answered_settled (h : Pool.Reachable observed (service P s { store := σ } requests) c)
    (answered : ∀ i, (∃ r, (c.thread i).rest = .pure r) ∨ (c.thread i).done = []) :
    ¬ Owed fun i => (c.thread i).done.foldl Journal.enter {} := by
  intro ⟨i, owed⟩
  rcases answered i with ⟨r, finished⟩ | fresh
  · cases (respond_accounted (Pool.runs (r := .ok r) h finished)).settled.symm.trans owed
  · simp only [fresh] at owed
    cases owed

/-- Whatever the requests and their interleaving with the worker: once all requests under way are answered and the
worker waits with nothing to do, the gauge shows the table as it is, unless the last refresh failed. -/
theorem metrics_fresh (h : Pool.Reachable observed (service P s { store := σ } requests) c)
    (later : Relation.ReflTransGen Background c.world a) (running : a.stage = .running) (healthy : a.failed = false)
    (answered : ∀ i, (∃ r, (c.thread i).rest = .pure r) ∨ (c.thread i).done = [])
    (waits : a.worker.threads[0]? = some (.blocked false)) :
    ∃ counts, a.store.Counts counts ∧ a.gauge.Shows counts := by
  have attended := (attended_reachable h).backgrounds later
  exact attended.fresh (answered_settled h answered) running healthy waits

end Service
/-- Before a worker is registered, requests only change the table. -/
theorem follows_unregistered {t : Trace (bridge F)} {σ σ' : Store τ} (absent : a.stage = .unregistered)
    (follows : Follows Store.Step σ t σ') : Follows observed { a with store := σ } t { a with store := σ' } := by
  induction follows with
  | nil σ => exact .nil _
  | @cons σ σ₁ σ₂ e t now _ ih =>
    refine .cons ⟨_, .refl, ?_⟩ ih
    by_cases asks : e.op = .emit .requestRefresh
    · obtain ⟨o, answer⟩ := e
      obtain rfl : o = .emit .requestRefresh := asks
      obtain rfl : σ₁ = σ := now
      exact RequestRefresh.none (.inl absent)
    · obtain ⟨o, answer⟩ := e
      have step : ∃ σ', Store.Step σ ⟨o, answer⟩ σ' ∧ ({ a with store := σ₁ } : MetricsApp τ κ) = { a with store := σ' } :=
        ⟨σ₁, now, rfl⟩
      cases o with
      | emit e =>
        cases e with
        | requestRefresh => exact absurd rfl asks
        | _ => exact step
      | _ => exact step

end MetricsApp

namespace Sample
open MetricsApp

/-- A callback that was served before the worker was started. -/
def counted : Pool.Config (bridge platform.fernet) Exc Response (MetricsApp Sealed Unit) Unit :=
  let run := callbackRun fun _ => response 200 accessToken
  (service platform settings { store := fun _ => none } fun _ => .callback arguments).advance ()
    { store := run.world.store } run.trace (Program.ofExcept run.result)

theorem counted_reachable :
    Pool.Reachable observed (service platform settings { store := fun _ => none } fun _ : Unit => .callback arguments) counted :=
  Pool.reachable_run (callbackRun_runs _)
    (follows_unregistered (a := { store := fun _ => none }) rfl (callbackRun_follows _))

theorem counted_answered : ∃ r, (counted.thread ()).rest = .pure r := by
  obtain ⟨r, ended⟩ := callbackRun_result fun _ => response 200 accessToken
  refine ⟨r, ?_⟩
  show Program.ofExcept (callbackRun fun _ => response 200 accessToken).result = _
  rw [ended]
  rfl

/-- The worker was started and requested, and its thread has done nothing. -/
def launched (callers : Unit → Call) : MetricsApp Sealed Unit :=
  { counted.world with
    stage := .running
    worker := { worker := { generation := 1, started := true, thread := some 0 }, threads := [.began], callers } }

theorem launched_later : ∃ callers, Relation.ReflTransGen Background counted.world (launched callers) := by
  have registered : Relation.ReflTransGen (Background (κ := Unit)) counted.world _ := Relation.ReflTransGen.refl.tail (.register rfl)
  have started := (registered.tail (.worker (.start (i := ()) rfl rfl rfl) (.inr rfl))).tail
    (.worker (.started (i := ()) rfl) (.inr rfl))
  exact ⟨_, started.tail (.launch (k := ()) rfl rfl (.request (i := ()) rfl rfl (.none (by decide))))⟩

theorem counted_refreshed : ∃ a, Relation.ReflTransGen Background counted.world a ∧ a.stage = .running ∧ a.failed = false ∧
    a.worker.threads[0]? = some (.blocked false) := by
  obtain ⟨_, present, revoked, rfl, counts⟩ := exists_counts counted.world.store
  obtain ⟨callers, launched⟩ := launched_later
  have begun := ((launched.tail (.worker (.thread (k := 0) rfl (.begin ⟨le_refl (0 : ℚ), by norm_num⟩)) (.inl rfl))).tail
    (.worker (.thread (k := 0) rfl (.pass rfl (le_refl 0))) (.inl rfl))).tail
    (.worker (.thread (k := 0) rfl (.watch rfl)) (.inl rfl))
  have marked := ((begun.tail (.worker (.thread (k := 0) rfl (.arm 0 (show (0 : ℚ) < 1 / 2 by norm_num))) (.inl rfl))).tail
    (.worker (.thread (k := 0) rfl (.due 1 rfl rfl (by norm_num [metricsRefresh]))) (.inl rfl))).tail
    (.worker (.thread (k := 0) rfl (.mark rfl rfl)) (.inl rfl))
  have set := (((marked.tail (.begin rfl (.thread (k := 0) rfl .work))).tail
    (.count rfl ⟨present, revoked, rfl, counts⟩)).tail (.set rfl)).tail (.set rfl)
  exact ⟨_, (set.tail (.finish rfl (.thread (k := 0) rfl .finish))).tail (.worker (.thread (k := 0) rfl (.watch rfl)) (.inl rfl)),
    rfl, rfl, rfl⟩

end Sample

/-- The worker catches up with what was written before it was started. -/
theorem metrics_fresh_counted : ∃ (a : MetricsApp Sealed Unit) (counts : StateCounts), a.stage = .running ∧
    a.store.Counts counts ∧ a.gauge.Shows counts := by
  obtain ⟨a, later, running, healthy, waits⟩ := Sample.counted_refreshed
  obtain ⟨r, answered⟩ := Sample.counted_answered
  obtain ⟨counts, counted, shows⟩ := MetricsApp.metrics_fresh Sample.counted_reachable later running healthy
    (fun _ => .inl ⟨r, answered⟩) waits
  exact ⟨a, counts, running, counted, shows⟩

end OAuthClientBridge
