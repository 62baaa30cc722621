import OAuthClientBridge.Effect.Contract
import OAuthClientBridge.Operations

/-!
What the contracts of the views speak of. The order of clock readings, sleeps, budget
operations and emissions is left out: their answers are arbitrary wherever a contract holds.
-/

namespace OAuthClientBridge
open Python Effect Program

variable {τ : Type} {F : Fernet τ}

def Op.silent : Op τ → Bool
  | .emit _ | .monotonic | .utcnow | .sleep _ | .budgetAdd _ | .budgetConsume => true
  | _ => false

def raised {α : Type} (r : Except PyError α) : Except Exc α := r.mapError .python

@[simp] theorem raised_ok {α : Type} (a : α) : raised (.ok a) = .ok a := rfl

@[simp] theorem raised_error {α : Type} (e : PyError) :
    (raised (.error e) : Except Exc α) = .error (.python e) := rfl

@[simp] theorem ok_eq_raised {α : Type} {r : Except PyError α} {a : α} : .ok a = raised r ↔ r = .ok a := by
  cases r <;> simp [eq_comm]

@[simp] theorem error_eq_raised {α : Type} {r : Except PyError α} {e : Exc} :
    .error e = raised r ↔ ∃ p, r = .error p ∧ e = .python p := by
  cases r <;> simp

section Except
variable {ε α β : Type}

@[simp] theorem except_pure (a : α) : (Pure.pure a : Except ε α) = .ok a := rfl

@[simp] theorem ok_bind (a : α) (f : α → Except ε β) : (Except.ok a >>= f) = f a := rfl

@[simp] theorem error_bind (e : ε) (f : α → Except ε β) : (Except.error e >>= f) = .error e := rfl

@[simp] theorem except_map_ok (f : α → β) (a : α) : Except.map f (.ok a : Except ε α) = .ok (f a) := rfl

@[simp] theorem except_map_error (f : α → β) (e : ε) :
    Except.map f (.error e : Except ε α) = .error e := rfl

end Except

section Rules
variable {α β : Type} {Φ : Trace (bridge F) → Op τ → Prop} {Q : Trace (bridge F) → Except Exc β → Prop}

@[simp] theorem ensures_emit (e : Emission) (f : Unit → Action F β) :
    (emit e >>= f).Ensures Op.silent Φ Q ↔ (f ()).Ensures Op.silent Φ Q :=
  (@ensures_op_silent (bridge F) Exc β Op.silent Φ Q (.emit e) rfl f).trans ⟨fun h => h (), fun h _ => h⟩

@[simp] theorem ensures_log (level : LogLevel) (event : String) (arguments : List LogValue)
    (fields : List (String × LogValue)) (f : Unit → Action F β) :
    (log level event arguments fields >>= f).Ensures Op.silent Φ Q ↔ (f ()).Ensures Op.silent Φ Q :=
  ensures_emit _ f

@[simp] theorem ensures_record (m : Metric) (f : Unit → Action F β) :
    (record m >>= f).Ensures Op.silent Φ Q ↔ (f ()).Ensures Op.silent Φ Q :=
  ensures_emit _ f

theorem ensures_perform_silent {o : Op τ} (h : o.silent = true) (f : Answer F o → Action F β) :
    (perform o >>= f).Ensures Op.silent Φ Q ↔ ∀ answer, (f answer).Ensures Op.silent Φ Q :=
  @ensures_op_silent (bridge F) Exc β Op.silent Φ Q o h f

theorem ensures_perform {o : Op τ} (h : o.silent = false) (f : Answer F o → Action F β) :
    (perform o >>= f).Ensures Op.silent Φ Q ↔ Φ [] o ∧ ∀ answer, (f answer).Ensures Op.silent
      (fun t => Φ (⟨o, answer⟩ :: t)) (fun t => Q (⟨o, answer⟩ :: t)) :=
  @ensures_op (bridge F) Exc β Op.silent Φ Q o h f

theorem ensures_liftPy (r : Except PyError β) :
    (liftPy r : Action F β).Ensures Op.silent Φ Q ↔ Q [] (raised r) := by
  cases r <;> rfl

@[simp] theorem liftPy_ok_bind (a : α) (f : α → Action F β) : (liftPy (.ok a) >>= f) = f a := rfl

@[simp] theorem liftPy_error_bind (e : PyError) (f : α → Action F β) :
    (liftPy (.error e) >>= f) = .throw (.python e) := rfl

end Rules

/-! ### The exchange with the provider -/

/-- What the retry loop learns from outside: answers of the provider and jitter draws. -/
inductive Seen where
  | answer (a : Upstream)
  | draw (u : ℚ)

def Seen.of : Event (bridge F) → Option Seen
  | ⟨.send _ _ _, a⟩ => some (.answer a)
  | ⟨.uniform _ _, u⟩ => some (.draw u)
  | _ => none

def seen (t : Trace (bridge F)) : List Seen := t.filterMap Seen.of

def Seen.answer? : Seen → Option Upstream
  | .answer a => some a
  | .draw _ => none

def answers (l : List Seen) : List Upstream := l.filterMap Seen.answer?

@[simp] theorem seen_nil : seen ([] : Trace (bridge F)) = [] := rfl

@[simp] theorem seen_append (t u : Trace (bridge F)) : seen (t ++ u) = seen t ++ seen u :=
  List.filterMap_append

@[simp] theorem seen_send (uri : String) (data : List (String × Json)) (timeout : ℚ) (a : Upstream)
    (t : Trace (bridge F)) : seen (⟨.send uri data timeout, a⟩ :: t) = .answer a :: seen t := rfl

@[simp] theorem seen_uniform (low high u : ℚ) (t : Trace (bridge F)) :
    seen (⟨.uniform low high, u⟩ :: t) = .draw u :: seen t := rfl

@[simp] theorem answers_nil : answers [] = [] := rfl

@[simp] theorem answers_append (l m : List Seen) : answers (l ++ m) = answers l ++ answers m :=
  List.filterMap_append

@[simp] theorem answers_answer (a : Upstream) (l : List Seen) : answers (.answer a :: l) = a :: answers l := rfl

@[simp] theorem answers_draw (u : ℚ) (l : List Seen) : answers (.draw u :: l) = answers l := rfl

theorem seen_visible (t : Trace (bridge F)) : seen (visible Op.silent t) = seen t := by
  unfold seen visible
  rw [List.filterMap_filter]
  refine List.filterMap_congr fun e _ => ?_
  obtain ⟨o, answer⟩ := e
  cases o <;> rfl

end OAuthClientBridge
