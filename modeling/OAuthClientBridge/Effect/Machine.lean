import OAuthClientBridge.Effect.Pool

/-!
# Running a program on a machine

A machine answers every operation by itself and moves on to its next state, so that a program
can be evaluated. What is evaluated is a run in the sense of `Reaches` and `Follows`.
-/

namespace Effect

variable {S : Signature} {ε α β W V : Type}

abbrev Machine (S : Signature) (W : Type) := (o : S.Op) → W → S.Answer o × W

/-- What a program did on a machine, how it ended, and the state it left. -/
structure Outcome (S : Signature) (ε α W : Type) where
  trace : Trace S
  result : Except ε α
  world : W

namespace Program

def eval (m : Machine S W) : Program S ε α → W → Outcome S ε α W
  | .pure a, w => ⟨[], .ok a, w⟩
  | .throw e, w => ⟨[], .error e, w⟩
  | .op o next, w =>
    let rest := (next (m o w).1).eval m (m o w).2
    ⟨⟨o, (m o w).1⟩ :: rest.trace, rest.result, rest.world⟩

/-- The program after its operations up to the first one that `stop` names, with their trace. -/
def advance (m : Machine S W) (stop : S.Op → Bool) : Program S ε α → W → Trace S × Program S ε α × W
  | .pure a, w => ([], .pure a, w)
  | .throw e, w => ([], .throw e, w)
  | .op o next, w =>
    if stop o then ([], .op o next, w)
    else
      let rest := (next (m o w).1).advance m stop (m o w).2
      (⟨o, (m o w).1⟩ :: rest.1, rest.2.1, rest.2.2)

def passes (m : Machine S W) (check : W → S.Op → Bool) : Program S ε α → W → Bool
  | .pure _, _ | .throw _, _ => true
  | .op o next, w => check w o && (next (m o w).1).passes m check (m o w).2

theorem eval_runs (m : Machine S W) (p : Program S ε α) (w : W) :
    Runs p (p.eval m w).trace (p.eval m w).result := by
  induction p generalizing w with
  | pure a | throw e => exact .refl _
  | op o next ih => exact .step (ih _ _)

theorem advance_reaches (m : Machine S W) (stop : S.Op → Bool) (p : Program S ε α) (w : W) :
    Reaches p (p.advance m stop w).1 (p.advance m stop w).2.1 := by
  induction p generalizing w with
  | pure a | throw e => exact .refl _
  | op o next ih =>
    unfold advance
    split
    · exact .refl _
    · exact .step (ih _ _)

section Follows
variable {m : Machine S W} {env : Environment S V} (view : W → V)

/-- A machine whose every answer the environment allows, follows it along every program. -/
theorem eval_follows (allowed : ∀ o w, env (view w) ⟨o, (m o w).1⟩ (view (m o w).2)) (p : Program S ε α) (w : W) :
    Follows env (view w) (p.eval m w).trace (view (p.eval m w).world) := by
  induction p generalizing w with
  | pure a | throw e => exact .nil _
  | op o next ih => exact .cons (allowed o w) (ih _ _)

theorem passes_follows {check : W → S.Op → Bool}
    (allowed : ∀ o w, check w o = true → env (view w) ⟨o, (m o w).1⟩ (view (m o w).2)) {p : Program S ε α} {w : W}
    (passed : p.passes m check w = true) : Follows env (view w) (p.eval m w).trace (view (p.eval m w).world) := by
  induction p generalizing w with
  | pure a | throw e => exact .nil _
  | op o next ih =>
    obtain ⟨now, later⟩ := Bool.and_eq_true_iff.mp passed
    exact .cons (allowed o w now) (ih _ later)

theorem advance_follows (allowed : ∀ o w, env (view w) ⟨o, (m o w).1⟩ (view (m o w).2)) (stop : S.Op → Bool)
    (p : Program S ε α) (w : W) :
    Follows env (view w) (p.advance m stop w).1 (view (p.advance m stop w).2.2) := by
  induction p generalizing w with
  | pure a | throw e => exact .nil _
  | op o next ih =>
    unfold advance
    split
    · exact .nil _
    · exact .cons (allowed o w) (ih _ _)

end Follows
end Program
end Effect
