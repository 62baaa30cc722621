import Mathlib.Logic.Relation
import Mathlib.Logic.Function.Basic
import OAuthClientBridge.Effect.Contract

/-!
# Pools of programs over a shared world

An environment says how the world may answer an operation and change with it. Any number of
programs run against one world, one operation of one program at a time. The rule of this file is
`Pool.invariant`: an invariant of the world and of the traces of all programs holds in every
reachable configuration, when it survives each operation that some contract allows.
-/

namespace Effect
open Program

variable {S : Signature} {ε α W ι : Type}

abbrev Environment (S : Signature) (W : Type) := W → Event S → W → Prop

/-- The world answers the operations of the trace, one after the other. -/
inductive Follows (env : Environment S W) : W → Trace S → W → Prop where
  | nil (w : W) : Follows env w [] w
  | cons {w w₁ w₂ : W} {e : Event S} {t : Trace S} (now : env w e w₁) (rest : Follows env w₁ t w₂) :
      Follows env w (e :: t) w₂

theorem follows_append {env : Environment S W} {w w' : W} {t u : Trace S} :
    Follows env w (t ++ u) w' ↔ ∃ m, Follows env w t m ∧ Follows env m u w' := by
  induction t generalizing w with
  | nil =>
    refine ⟨fun h => ⟨w, .nil w, h⟩, ?_⟩
    rintro ⟨_, ⟨⟩, h⟩
    exact h
  | cons e t ih =>
    constructor
    · rintro (_ | ⟨now, rest⟩)
      obtain ⟨m, first, second⟩ := ih.mp rest
      exact ⟨m, .cons now first, second⟩
    · rintro ⟨m, _ | ⟨now, first⟩, second⟩
      exact .cons now (ih.mpr ⟨m, first, second⟩)

theorem Follows.restrict {env : Environment S W} {C : Event S → Prop} {w w' : W} {t : Trace S}
    (h : Follows env w t w') (all : ∀ e ∈ t, C e) : Follows (fun w e w' => env w e w' ∧ C e) w t w' := by
  induction h with
  | nil w => exact .nil w
  | cons now _ ih =>
    exact .cons ⟨now, all _ List.mem_cons_self⟩ (ih fun e later => all e (List.mem_cons_of_mem _ later))

theorem Follows.visible {env : Environment S W} {silent : S.Op → Bool}
    (quiet : ∀ w e w', silent e.op = true → env w e w' → w' = w) {w w' : W} {t : Trace S}
    (h : Follows env w t w') : Follows env w (visible silent t) w' := by
  induction h with
  | nil w => exact .nil w
  | @cons w w₁ w₂ e t now _ ih =>
    cases loud : silent e.op with
    | true =>
      rw [visible_cons_silent loud, ← quiet _ _ _ loud now]
      exact ih
    | false =>
      rw [visible_cons loud]
      exact .cons now ih

namespace Pool

/-- A program under way: what it did, and what it has left to do. -/
structure Thread (S : Signature) (ε α : Type) where
  done : Trace S
  rest : Program S ε α

structure Config (S : Signature) (ε α W ι : Type) where
  world : W
  thread : ι → Thread S ε α

def start (w : W) (programs : ι → Program S ε α) : Config S ε α W ι := ⟨w, fun i => ⟨[], programs i⟩⟩

variable [DecidableEq ι] {env : Environment S W} {programs : ι → Program S ε α} {w₀ : W}
  {c c' : Config S ε α W ι}

def Config.advance (c : Config S ε α W ι) (i : ι) (w : W) (t : Trace S) (rest : Program S ε α) :
    Config S ε α W ι :=
  ⟨w, Function.update c.thread i ⟨(c.thread i).done ++ t, rest⟩⟩

inductive Step (env : Environment S W) (c : Config S ε α W ι) : Config S ε α W ι → Prop where
  | thread (i : ι) {o : S.Op} {next : S.Answer o → Program S ε α} {answer : S.Answer o} {w : W}
      (ready : (c.thread i).rest = .op o next) (now : env c.world ⟨o, answer⟩ w) :
      Step env c (c.advance i w [⟨o, answer⟩] (next answer))

abbrev Reachable (env : Environment S W) : Config S ε α W ι → Config S ε α W ι → Prop :=
  Relation.ReflTransGen (Step env)

theorem reaches (h : Reachable env (start w₀ programs) c) (i : ι) :
    Reaches (programs i) (c.thread i).done (c.thread i).rest := by
  induction h with
  | refl => exact .refl _
  | @tail c c' _ step ih =>
    obtain ⟨j, ready, now⟩ := step
    by_cases same : i = j
    · subst same
      simpa [Config.advance] using (ready ▸ ih).snoc _
    · simpa [Config.advance, same] using ih

theorem runs (h : Reachable env (start w₀ programs) c) {i : ι} {r : Except ε α}
    (finished : (c.thread i).rest = ofExcept r) : Runs (programs i) (c.thread i).done r := by
  have steps := reaches h i
  rwa [finished] at steps

/-- One thread may run on alone. -/
theorem reachable_run {i : ι} {t : Trace S} {q : Program S ε α} {w : W} {c : Config S ε α W ι}
    (steps : Reaches (c.thread i).rest t q) (follows : Follows env c.world t w) :
    Reachable env c (c.advance i w t q) := by
  generalize hp : (c.thread i).rest = p at steps
  induction steps generalizing c with
  | refl p =>
    cases follows
    have same : c.advance i c.world [] p = c := by
      simp [Config.advance, ← hp]
    rw [same]
  | @step o next answer t q rest ih =>
    rcases follows with _ | ⟨now, later⟩
    rename_i w₁
    have first : Step env c (c.advance i w₁ [⟨o, answer⟩] (next answer)) := .thread i hp now
    have onward := @ih (c.advance i w₁ [⟨o, answer⟩] (next answer)) later (by simp [Config.advance])
    have same : (c.advance i w₁ [⟨o, answer⟩] (next answer)).advance i w t q =
        c.advance i w (⟨o, answer⟩ :: t) q := by
      simp [Config.advance]
    exact .head first (same ▸ onward)

/-- The invariant rule: what every allowed operation preserves holds in every reachable configuration. -/
theorem invariant {silent : S.Op → Bool} {Φ : ι → Trace S → S.Op → Prop}
    {Q : ι → Trace S → Except ε α → Prop} {I : W → (ι → Trace S) → Prop}
    (contract : ∀ i, (programs i).Ensures silent (Φ i) (Q i)) (initially : I w₀ fun _ => [])
    (silently : ∀ w ts e w', silent e.op = true → I w ts → env w e w' → I w' ts)
    (visibly : ∀ w ts i o answer w', silent o = false → (∀ j, Past (Φ j) (ts j)) → I w ts → Φ i (ts i) o →
      env w ⟨o, answer⟩ w' → I w' (Function.update ts i (ts i ++ [⟨o, answer⟩])))
    (h : Reachable env (start w₀ programs) c) : I c.world fun i => visible silent (c.thread i).done := by
  induction h with
  | refl => exact initially
  | @tail c c' before step ih =>
    obtain ⟨i, ready, now⟩ := step
    rename_i o next answer w
    cases loud : silent o with
    | true =>
      have same : (fun j => visible silent ((c.advance i w [⟨o, answer⟩] (next answer)).thread j).done) =
          fun j => visible silent (c.thread j).done := by
        funext j
        by_cases hj : j = i
        · subst hj; simp [Config.advance, visible_append, visible_cons_silent, loud]
        · simp [Config.advance, hj]
      rw [same]
      exact silently _ _ ⟨o, answer⟩ _ loud ih now
    | false =>
      have same : (fun j => visible silent ((c.advance i w [⟨o, answer⟩] (next answer)).thread j).done) =
          Function.update (fun j => visible silent (c.thread j).done) i
            (visible silent (c.thread i).done ++ [⟨o, answer⟩]) := by
        funext j
        by_cases hj : j = i
        · subst hj; simp [Config.advance, visible_append, visible_cons, loud]
        · simp [Config.advance, hj]
      rw [same]
      refine visibly _ _ i o answer _ loud (fun j => (contract j).past (reaches before j)) ih ?_ now
      exact (contract i).performs (ready ▸ reaches before i) loud

end Pool
end Effect
