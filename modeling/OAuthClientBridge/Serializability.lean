import OAuthClientBridge.Custody
import OAuthClientBridge.Effect.Commute

/-! Requests about different clients do not see each other. -/

namespace OAuthClientBridge
open Python Effect Program

variable {τ : Type}

/-- The client id whose row the operation reads or writes. -/
def Op.row : Op τ → Option ClientId
  | .select id | .insert id _ _ | .update id _ _ => some id
  | _ => none

namespace Store
variable {F : Fernet τ} {σ σ' : Store τ} {e f : Event (bridge F)} {id : ClientId}

/-- What one event makes of the one row that it is about. -/
def RowStep (before : Option (Row τ)) : Event (bridge F) → Option (Row τ) → Prop
  | ⟨.select _, row⟩, after => row = before ∧ after = before
  | ⟨.insert _ token now, result⟩, after =>
    before = none ∧ result = .inserted ∧ after = some ⟨some token, some now, some now⟩ ∨
      before ≠ none ∧ result = .integrityError ∧ after = before
  | ⟨.update _ token now, rowcount⟩, after =>
    rowcount = (before.map fun _ => 1).getD 0 ∧ after = before.map fun row => { row with token, lastUpdatedAt := some now }
  | _, _ => False

theorem write_eq_update (σ : Store τ) (id : ClientId) (row : Row τ) : σ.write id row = Function.update σ id (some row) := by
  funext other
  by_cases same : other = id
  · subst same
    rw [write_self, Function.update_self]
  · rw [write_other _ _ same, Function.update_of_ne same]

theorem step_rowless (rowless : e.op.row = none) : Step σ e σ' ↔ σ' = σ := by
  obtain ⟨o, answer⟩ := e
  cases o <;> first | rfl | cases rowless

theorem step_row (row : e.op.row = some id) :
    Step σ e σ' ↔ ∃ after, RowStep (σ id) e after ∧ σ' = Function.update σ id after := by
  obtain ⟨o, answer⟩ := e
  have stays : Function.update σ id (σ id) = σ := Function.update_eq_self id σ
  cases o with
  | select id' =>
    obtain rfl := Option.some.inj row
    constructor
    · intro ⟨read, same⟩
      exact ⟨_, ⟨read, rfl⟩, same.trans stays.symm⟩
    · intro ⟨after, ⟨read, kept⟩, same⟩
      subst kept
      exact ⟨read, same.trans stays⟩
  | insert id' token now =>
    obtain rfl := Option.some.inj row
    simp only [Step, RowStep, insert]
    cases found : σ id' with
    | none => simp [write_eq_update]
    | some row =>
      rw [found] at stays
      simp [stays]
  | update id' token now =>
    obtain rfl := Option.some.inj row
    simp only [Step, RowStep, update]
    cases found : σ id' with
    | none =>
      rw [found] at stays
      simp [stays]
    | some row => simp [write_eq_update]
  | _ => cases row

/-- Statements about different rows commute, and so does what is not about a row. -/
theorem step_swaps (apart : ∀ id, e.op.row = some id → f.op.row ≠ some id) : Swaps Step e f := by
  intro σ σ₁ σ₂ first second
  cases at_e : e.op.row with
  | none =>
    obtain rfl := (step_rowless at_e).mp first
    exact ⟨σ₂, second, (step_rowless at_e).mpr rfl⟩
  | some id =>
    cases at_f : f.op.row with
    | none =>
      obtain rfl := (step_rowless at_f).mp second
      exact ⟨σ, (step_rowless at_f).mpr rfl, first⟩
    | some id' =>
      have other : id' ≠ id := by
        intro same
        exact apart id at_e (same ▸ at_f)
      obtain ⟨after, now, rfl⟩ := (step_row at_e).mp first
      obtain ⟨after', now', rfl⟩ := (step_row at_f).mp second
      rw [Function.update_of_ne other] at now'
      refine ⟨Function.update σ id' after', (step_row at_f).mpr ⟨after', now', rfl⟩, (step_row at_e).mpr ⟨after, ?_, ?_⟩⟩
      · rwa [Function.update_of_ne other.symm]
      · exact Function.update_comm other.symm _ _ _

end Store

/-- The client ids that a request has to do with: the one it presents, or the ones drawn for it. -/
def Concerns (P : Platform τ) : Request → Trace (bridge P.fernet) → ClientId → Prop
  | .authorize _, _, _ => False
  | .callback _, t, id => ⟨.generateId, id⟩ ∈ t
  | .token req, _, id => ∃ secret, Presents P req ⟨id, secret⟩

variable {P : Platform τ} {s : Settings}

theorem ServiceOp.concerns {req : Request} {t : Trace (bridge P.fernet)} {o : Op τ} {id : ClientId}
    (h : ServiceOp P s req t o) (row : o.row = some id) : Concerns P req t id := by
  cases req with
  | authorize args => cases h <;> cases row
  | callback args =>
    cases h with
    | insert secret nonce id' now exchanged =>
      obtain rfl := Option.some.inj row
      simp [Concerns, drawn]
    | _ => cases row
  | token req =>
    cases h with
    | select presents =>
      obtain rfl := Option.some.inj row
      exact ⟨_, presents⟩
    | revoke now granted _ _ _ | update nonce now granted _ _ _ =>
      obtain rfl := Option.some.inj row
      obtain ⟨_, _, presents, _⟩ := granted
      exact ⟨_, presents⟩
    | _ => cases row

section
variable {ι : Type} [DecidableEq ι] {σ : Store τ} {requests : ι → Request}
  {c : Pool.Config (bridge P.fernet) Exc Response (Store τ) ι}

theorem Concerns.mono {req : Request} {t u : Trace (bridge P.fernet)} {id : ClientId} (h : Concerns P req t id) :
    Concerns P req (t ++ u) id := by
  cases req with
  | authorize args => exact h
  | callback args => exact List.mem_append_left u h
  | token req => exact h

/-- A request only touches rows of clients that it has to do with. -/
theorem concerns_reachable (h : Pool.Reachable Store.Step (service P s σ requests) c) {i : ι} {e : Event (bridge P.fernet)}
    (performed : e ∈ (c.thread i).done) {id : ClientId} (row : e.op.row = some id) :
    Concerns P (requests i) (acts c i) id := by
  have met : e ∈ acts c i := by
    apply List.mem_filter.mpr
    obtain ⟨o, answer⟩ := e
    cases o <;> first | exact ⟨performed, rfl⟩ | cases row
  obtain ⟨t₁, t₂, split⟩ := List.append_of_mem met
  rw [split]
  exact ((acts_past h i _ e _ split).concerns row).mono

/-- Requests that have to do with different clients are serializable, in any order: each might have been
served from beginning to end before all requests outside the order, and would have done and answered the same. -/
theorem requests_serializable {order : List ι} (h : Pool.Reachable Store.Step (service P s σ requests) c)
    (distinct : order.Nodup)
    (apart : ∀ i ∈ order, ∀ j, j ≠ i → ∀ id, Concerns P (requests i) (acts c i) id → ¬Concerns P (requests j) (acts c j) id) :
    ∃ m, Pool.InTurn Store.Step order (service P s σ requests) m ∧ Pool.Reachable Store.Step m c ∧
      (∀ i ∈ order, m.thread i = c.thread i) ∧ ((∀ i, i ∉ order → (c.thread i).done = []) → m = c) := by
  apply Pool.serializable h distinct
  intro i member j other e own f foreign
  apply Store.step_swaps
  intro id row row'
  exact apart i member j other id (concerns_reachable h own row') (concerns_reachable h foreign row)

end

namespace Sample

/-- A client that refreshes its grant, and then the callback of another one. -/
def refreshing : Outcome (bridge platform.fernet) Exc Response (World platform.fernet) :=
  tokenRun grant fun _ => response 200 accessToken

def newcomer : Outcome (bridge platform.fernet) Exc Response (World platform.fernet) :=
  (respond platform settings (.callback arguments)).eval World.answer
    { emptyWorld (fun _ => response 200 accessToken) with store := refreshing.world.store, ids := fun _ => ⟨2⟩ }

def twoClients : Pool.Config (bridge platform.fernet) Exc Response (Store Sealed) Bool :=
  ((service platform settings (store grant) requests).advance true refreshing.world.store refreshing.trace
      (Program.ofExcept refreshing.result)).advance false newcomer.world.store newcomer.trace (Program.ofExcept newcomer.result)

theorem twoClients_reachable : Pool.Reachable Store.Step (service platform settings (store grant) requests) twoClients := by
  have first : Pool.Reachable Store.Step (service platform settings (store grant) requests)
      ((service platform settings (store grant) requests).advance true refreshing.world.store refreshing.trace
        (Program.ofExcept refreshing.result)) :=
    Pool.reachable_run (tokenRun_runs _ _) (tokenRun_follows _ _)
  apply first.trans
  apply Pool.reachable_run
  · exact Program.eval_runs World.answer (respond platform settings (.callback arguments)) _
  · exact World.eval_follows_store _ { emptyWorld _ with store := refreshing.world.store, ids := fun _ => ⟨2⟩ }

theorem twoClients_apart (id : ClientId) : Concerns platform (requests true) (acts twoClients true) id →
    ¬Concerns platform (requests false) (acts twoClients false) id := by
  intro ⟨secret, presented⟩ drew
  have own : (⟨id, secret⟩ : ClientCredentials platform.fernet) = credentials := presents.unique presented
  have others : ((acts twoClients false).all fun e => match e with
      | ⟨.generateId, id⟩ => decide (id ≠ clientId)
      | _ => true) = true := by decide +kernel
  have other := List.all_eq_true.mp others _ drew
  exact of_decide_eq_true other (congrArg ClientCredentials.clientId own)

end Sample

/-- The newcomer might have come first. -/
theorem requests_serializable_twoClients :
    Pool.InTurn Store.Step [false, true] (service Sample.platform Sample.settings (Sample.store Sample.grant) Sample.requests)
      Sample.twoClients := by
  obtain ⟨m, turns, _, _, whole⟩ := requests_serializable Sample.twoClients_reachable
    (show [false, true].Nodup by decide) fun i _ j other id concerned => by
      cases i <;> cases j
      · exact absurd rfl other
      · exact fun concerned' => Sample.twoClients_apart id concerned' concerned
      · exact Sample.twoClients_apart id concerned
      · exact absurd rfl other
  rwa [whole fun i outside => by cases i <;> simp at outside] at turns

end OAuthClientBridge
