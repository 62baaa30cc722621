import OAuthClientBridge.OAuth.Answers
import OAuthClientBridge.OAuth.Steps

/-!
What a call of `fetch` reports about itself, read off its trace, and the same kept as a ledger
while the trace grows.
-/

namespace OAuthClientBridge
open Python Effect Program

section
variable {τ : Type} {F : Fernet τ}

/-! ### Reports -/

def Event.attempt? : Event (bridge F) → Option RetryAttemptKind
  | ⟨.emit (.metric (.clientAttempt _ kind)), _⟩ => some kind
  | _ => none

def Event.decision? : Event (bridge F) → Option RetryDecisionAction
  | ⟨.emit (.metric (.retryDecision _ decision)), _⟩ => some decision.action
  | _ => none

def Event.completed? : Event (bridge F) → Option Nat
  | ⟨.emit (.metric (.clientRetries _ _ count)), _⟩ => some count
  | _ => none

def Event.granted : Event (bridge F) → Bool
  | ⟨.budgetConsume, granted⟩ => granted
  | _ => false

/-- What a call ought to label `n` requests. -/
def labels : Nat → List RetryAttemptKind
  | 0 => []
  | n + 1 => .initial :: List.replicate n .retry

/-- The retry decisions up to the next request. -/
def decisions (t : Trace (bridge F)) : List RetryDecisionAction :=
  (t.takeWhile fun e => !e.op.isSend).filterMap Event.decision?

/-- The decision that a retryable response calls for, by what follows it. -/
def called (t : Trace (bridge F)) : RetryDecisionAction := if 0 < sends t then .retry else .skip

/-- Every retryable response gets one decision, the one it calls for. -/
def Decided (s : FetchSettings) (t : Trace (bridge F)) : Prop :=
  ∀ t₁ e t₂, t = t₁ ++ e :: t₂ → ∀ a, Seen.of e = some (.answer a) → a.retried s = true → decisions t₂ = [called t₂]

/-- Attempts, retries, tokens and decisions agree with the requests sent. -/
structure Accounted (s : FetchSettings) (t : Trace (bridge F)) : Prop where
  attempts : t.filterMap Event.attempt? = labels (sends t)
  completed : ∀ count ∈ t.filterMap Event.completed?, count = sends t - 1
  consumed : t.countP Event.granted = sends t - 1
  decided : Decided s t

/-! ### What the loop has read -/

/-- The readings that the next step of the loop depends on. -/
structure Watch where
  deadline : Option ℚ := none
  /-- Time left at the last clock reading. -/
  left : ℚ := 0
  answered : Nat := 0
  /-- The `Retry-After` of the last answer. -/
  floor : Nat := 0
  slept : Bool := false

def Watch.enter (s : FetchSettings) (w : Watch) : Event (bridge F) → Watch
  | ⟨.monotonic, now⟩ =>
    match w.deadline with
    | none => { w with deadline := some (now + s.totalTimeout) }
    | some deadline => { w with left := deadline - now }
  | ⟨.sleep _, _⟩ => { w with slept := true }
  | ⟨.send _ _ _, a⟩ => { w with answered := w.answered + 1, floor := waitFloor s a, slept := false }
  | _ => w

/-- `backoff` in the iteration after the answers so far. -/
def Watch.backoff (s : FetchSettings) (w : Watch) : ℚ := (2 ^ w.answered - 1) * s.backoffFactor

/-- The answers under which the loop keeps its books. The first attempt and the end of a sleep
come before the deadline; a retry that is still in time has to wait; a jittered delay is not
negative and fits into the time left; and a retryable response raises nothing. -/
def Watch.Admits (P : Platform τ) (s : FetchSettings) (w : Watch) : Event (bridge F) → Prop
  | ⟨.monotonic, now⟩ => ∀ deadline, w.deadline = some deadline →
      if w.answered = 0 ∨ w.slept = true then now < deadline
      else deadline < now ∨ 0 < baseDelay w.floor (w.backoff s)
  | ⟨.uniform _ _, u⟩ => 0 ≤ jittered w.floor (w.backoff s) u ∧ jittered w.floor (w.backoff s) u ≤ w.left
  | ⟨.send _ _ _, a⟩ => a.retried s = true → ∃ k, settle P s a = .ok k
  | _ => True

/-- Every answer of a call is one that the loop keeps its books under. -/
def Steady (P : Platform τ) (s : FetchSettings) (t : Trace (bridge F)) : Prop :=
  ∀ t₁ e t₂, t = t₁ ++ e :: t₂ → (t₁.foldl (Watch.enter s) {}).Admits P s e

/-! ### The ledger -/

/-- The reports so far. `pending` lists the decisions since the last answer, if that is retryable. -/
structure Ledger where
  watch : Watch := {}
  steady : Prop := True
  sent : Nat := 0
  attempts : List RetryAttemptKind := []
  completed : List Nat := []
  consumed : Nat := 0
  pending : Option (List RetryDecisionAction) := none
  /-- Every response but the last was decided as it ought to be. -/
  decided : Prop := True

def Ledger.enter (P : Platform τ) (s : FetchSettings) (g : Ledger) (e : Event (bridge F)) : Ledger :=
  let seen := { g with watch := g.watch.enter s e, steady := g.steady ∧ g.watch.Admits P s e }
  match e with
  | ⟨.send _ _ _, a⟩ => { seen with
      sent := g.sent + 1
      decided := g.decided ∧ ∀ ds ∈ g.pending, ds = [.retry]
      pending := if a.retried s then some [] else none }
  | ⟨.budgetConsume, granted⟩ => { seen with consumed := g.consumed + granted.toNat }
  | ⟨.emit (.metric (.clientAttempt _ kind)), _⟩ => { seen with attempts := g.attempts ++ [kind] }
  | ⟨.emit (.metric (.retryDecision _ decision)), _⟩ => { seen with
      pending := g.pending.map (· ++ [decision.action]) }
  | ⟨.emit (.metric (.clientRetries _ _ count)), _⟩ => { seen with completed := g.completed ++ [count] }
  | _ => seen

structure Ledger.Balanced (g : Ledger) : Prop where
  attempts : g.attempts = labels g.sent
  completed : ∀ count ∈ g.completed, count = g.sent - 1
  consumed : g.consumed = g.sent - 1
  decided : g.decided
  last : ∀ ds ∈ g.pending, ds = [.skip]

/-! ### The ledger of a trace -/

variable (P : Platform τ) (s : FetchSettings) (g : Ledger)

structure Entered (e : Event (bridge F)) : Prop where
  sent : (g.enter P s e).sent = g.sent + (if e.op.isSend then 1 else 0)
  attempts : (g.enter P s e).attempts = g.attempts ++ (Event.attempt? e).toList
  completed : (g.enter P s e).completed = g.completed ++ (Event.completed? e).toList
  consumed : (g.enter P s e).consumed = g.consumed + (Event.granted e).toNat
  watch : (g.enter P s e).watch = g.watch.enter s e
  steady : (g.enter P s e).steady ↔ g.steady ∧ g.watch.Admits P s e

theorem ledger_entered (e : Event (bridge F)) : Entered P s g e := by
  obtain ⟨o, answer⟩ := e
  cases o with
  | emit e =>
    cases e with
    | metric m =>
      cases m <;> exact ⟨rfl, by simp [Ledger.enter, Event.attempt?],
        by simp [Ledger.enter, Event.completed?], rfl, rfl, .rfl⟩
    | _ => exact ⟨rfl, by simp [Ledger.enter, Event.attempt?], by simp [Ledger.enter, Event.completed?], rfl, rfl, .rfl⟩
  | _ => exact ⟨rfl, by simp [Ledger.enter, Event.attempt?], by simp [Ledger.enter, Event.completed?], rfl, rfl, .rfl⟩

theorem ledger_pending {e : Event (bridge F)} (quiet : e.op.isSend = false) :
    (g.enter P s e).pending = g.pending.map (· ++ (Event.decision? e).toList) ∧
      ((g.enter P s e).decided ↔ g.decided) := by
  obtain ⟨o, answer⟩ := e
  cases o with
  | emit e =>
    cases e with
    | metric m => cases m <;> exact ⟨by simp [Ledger.enter, Event.decision?], .rfl⟩
    | _ => exact ⟨by simp [Ledger.enter, Event.decision?], .rfl⟩
  | send uri data timeout => cases quiet
  | _ => exact ⟨by simp [Ledger.enter, Event.decision?], .rfl⟩

theorem ledger_counts (t : Trace (bridge F)) :
    (t.foldl (Ledger.enter P s) g).sent = g.sent + sends t ∧
      (t.foldl (Ledger.enter P s) g).attempts = g.attempts ++ t.filterMap Event.attempt? ∧
      (t.foldl (Ledger.enter P s) g).completed = g.completed ++ t.filterMap Event.completed? ∧
      (t.foldl (Ledger.enter P s) g).consumed = g.consumed + t.countP Event.granted := by
  induction t generalizing g with
  | nil => simp [sends]
  | cons e t ih =>
    obtain ⟨sent, attempts, completed, consumed, _, _⟩ := ledger_entered P s g e
    obtain ⟨sents, attemptss, completeds, consumeds⟩ := ih (g.enter P s e)
    rw [List.foldl_cons, sents, attemptss, completeds, consumeds, sent, attempts, completed, consumed]
    unfold sends
    rw [List.countP_cons, List.countP_cons, List.filterMap_cons, List.filterMap_cons]
    refine ⟨by omega, ?_, ?_, ?_⟩
    · cases Event.attempt? e <;> simp
    · cases Event.completed? e <;> simp
    · cases Event.granted e
      · simp
      · simp
        omega

theorem splits_cons {C : Trace (bridge F) → Event (bridge F) → Trace (bridge F) → Prop} {e : Event (bridge F)}
    {t : Trace (bridge F)} : (∀ t₁ x t₂, e :: t = t₁ ++ x :: t₂ → C t₁ x t₂) ↔
      C [] e t ∧ ∀ t₁ x t₂, t = t₁ ++ x :: t₂ → C (e :: t₁) x t₂ := by
  constructor
  · exact fun h => ⟨h [] e t rfl, fun t₁ x t₂ split => h (e :: t₁) x t₂ (by rw [split]; rfl)⟩
  · rintro ⟨first, later⟩ (_ | ⟨y, t₁⟩) x t₂ split
    · obtain ⟨rfl, rfl⟩ := List.cons.inj split
      exact first
    · obtain ⟨rfl, rest⟩ := List.cons.inj split
      exact later t₁ x t₂ rest

theorem ledger_steady (t : Trace (bridge F)) : (t.foldl (Ledger.enter P s) g).steady ↔
    g.steady ∧ ∀ t₁ e t₂, t = t₁ ++ e :: t₂ → (t₁.foldl (Watch.enter s) g.watch).Admits P s e := by
  induction t generalizing g with
  | nil => simp
  | cons e t ih =>
    obtain ⟨_, _, _, _, watch, steady⟩ := ledger_entered P s g e
    rw [List.foldl_cons, ih, steady, watch, splits_cons]
    exact and_assoc

theorem decisions_cons {e : Event (bridge F)} (quiet : e.op.isSend = false) (t : Trace (bridge F)) :
    decisions (e :: t) = (Event.decision? e).toList ++ decisions t ∧ called (e :: t) = called t := by
  constructor
  · unfold decisions
    rw [List.takeWhile_cons, quiet, Bool.not_false, if_pos rfl, List.filterMap_cons]
    cases Event.decision? e <;> rfl
  · simp [called, sends, quiet]

theorem decisions_send (uri : String) (data : List (String × Json)) (timeout : ℚ) (a : Upstream)
    (t : Trace (bridge F)) : decisions ((⟨.send uri data timeout, a⟩ : Event (bridge F)) :: t) = [] ∧
      called ((⟨.send uri data timeout, a⟩ : Event (bridge F)) :: t) = .retry := by
  simp [decisions, called, sends, Op.isSend]

theorem ledger_decided (t : Trace (bridge F)) :
    ((t.foldl (Ledger.enter P s) g).decided ∧ ∀ ds ∈ (t.foldl (Ledger.enter P s) g).pending, ds = [.skip]) ↔
      g.decided ∧ (∀ ds ∈ g.pending, ds ++ decisions t = [called t]) ∧ Decided s t := by
  induction t generalizing g with
  | nil => simp [decisions, called, sends, Decided]
  | cons e t ih =>
    rw [List.foldl_cons, ih]
    unfold Decided
    rw [splits_cons]
    cases quiet : e.op.isSend with
    | false =>
      obtain ⟨pending, decided⟩ := ledger_pending P s g quiet
      obtain ⟨more, same⟩ := decisions_cons quiet t
      have notAnswer : ∀ a, Seen.of e = some (.answer a) → a.retried s = true → decisions t = [called t] := by
        intro a is
        obtain ⟨o, answer⟩ := e
        cases o with
        | send uri data timeout => cases quiet
        | _ => cases is
      rw [pending, decided, more, same]
      simp only [Option.mem_map, forall_exists_index, and_imp, forall_apply_eq_imp_iff₂, List.append_assoc]
      exact and_congr_right' (and_congr_right' ⟨fun h => ⟨notAnswer, h⟩, fun h => h.2⟩)
    | true =>
      obtain ⟨o, a⟩ := e
      cases o with
      | send uri data timeout =>
        obtain ⟨nothing, retry⟩ := decisions_send uri data timeout a t
        rw [nothing, retry]
        simp only [Ledger.enter, List.append_nil, Seen.of, Option.some.injEq, Seen.answer.injEq, forall_eq']
        cases again : a.retried s <;> simp [and_assoc]
      | _ => cases quiet

/-- The ledger of a trace says whether it is accounted for, and whether it is steady. -/
theorem ledger_accounted (t : Trace (bridge F)) : ((t.foldl (Ledger.enter P s) {}).Balanced ↔ Accounted s t) ∧
    ((t.foldl (Ledger.enter P s) {}).steady ↔ Steady P s t) := by
  obtain ⟨sent, attempts, completed, consumed⟩ := ledger_counts P s {} t
  have decided := ledger_decided P s {} t
  simp only [Option.not_mem_none, false_imp_iff, implies_true, true_and] at decided
  rw [Nat.zero_add] at sent consumed
  constructor
  · constructor
    · rintro ⟨a, c, n, d, l⟩
      rw [sent] at a c n
      rw [attempts] at a
      rw [completed] at c
      rw [consumed] at n
      exact ⟨a, c, n, decided.mp ⟨d, l⟩⟩
    · rintro ⟨a, c, n, d⟩
      obtain ⟨d, l⟩ := decided.mpr d
      exact ⟨by rw [attempts, sent]; exact a, by rw [completed, sent]; exact c, by rw [consumed, sent]; exact n, d, l⟩
  · exact (ledger_steady P s {} t).trans (iff_of_eq (true_and _))

end
end OAuthClientBridge
