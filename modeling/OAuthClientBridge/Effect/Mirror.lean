import Mathlib.Data.List.Forall2
import OAuthClientBridge.Effect.Coupling
import OAuthClientBridge.Effect.Pool

/-!
# Programs that do alike

Two programs mirror each other when they do alike as long as they are answered alike, and end alike. Where one world can
answer like another one, a pool of programs has its image in the pool of their mirrors, in every interleaving.
-/

namespace Effect

variable {S : Signature} {ε α β γ δ W V ι : Type} {like like' : Event S → Event S → Prop}

/-- Some events of the two operations are alike, if the first one has any. -/
def Matches (like : Event S → Event S → Prop) (o o' : S.Op) : Prop :=
  S.Answer o → ∃ answer answer', like ⟨o, answer⟩ ⟨o', answer'⟩

namespace Program

inductive Mirrors (like : Event S → Event S → Prop) (A : α → β → Prop) : Program S ε α → Program S ε β → Prop where
  | pure {a : α} {b : β} (h : A a b) : Mirrors like A (.pure a) (.pure b)
  | throw (e : ε) : Mirrors like A (.throw e) (.throw e)
  | op {o o' : S.Op} {next : S.Answer o → Program S ε α} {next' : S.Answer o' → Program S ε β} (now : Matches like o o')
      (later : ∀ answer answer', like ⟨o, answer⟩ ⟨o', answer'⟩ → Mirrors like A (next answer) (next' answer')) :
      Mirrors like A (.op o next) (.op o' next')

section Rules
variable {A : α → β → Prop} {B : γ → δ → Prop} {p : Program S ε α} {q : Program S ε β}

theorem Mirrors.mono {A' : α → β → Prop} (h : Mirrors like A p q) (values : ∀ a b, A a b → A' a b) : Mirrors like A' p q := by
  induction h with
  | pure h => exact .pure (values _ _ h)
  | throw e => exact .throw e
  | op now _ ih => exact .op now ih

theorem Mirrors.bind {f : α → Program S ε γ} {g : β → Program S ε δ} (h : Mirrors like A p q)
    (next : ∀ a b, A a b → Mirrors like B (f a) (g b)) : Mirrors like B (p >>= f) (q >>= g) := by
  induction h with
  | pure h => exact next _ _ h
  | throw e => exact .throw e
  | op now _ ih => exact .op now ih

theorem Mirrors.tryCatch {handler : ε → Program S ε α} {handler' : ε → Program S ε β} (h : Mirrors like A p q)
    (handlers : ∀ e, Mirrors like A (handler e) (handler' e)) : Mirrors like A (p.tryCatch handler) (q.tryCatch handler') := by
  induction h with
  | pure h => exact .pure h
  | throw e => exact handlers e
  | op now _ ih => exact .op now ih

/-- A program that only performs operations whose events are alike when they are the same. -/
theorem Mirrors.self {allowed : S.Op → Prop} (same : ∀ o, allowed o → ∀ a a', like ⟨o, a⟩ ⟨o, a'⟩ ↔ a' = a) (h : p.Only allowed) :
    Mirrors like Eq p p := by
  induction p with
  | pure a => exact .pure rfl
  | throw e => exact .throw e
  | op o next ih =>
    apply Mirrors.op
    · intro answer
      exact ⟨answer, answer, (same o h.1 _ _).mpr rfl⟩
    · intro answer answer' alike
      obtain rfl := (same o h.1 _ _).mp alike
      exact ih answer' (h.2 answer')

theorem Only.mono {allowed allowed' : S.Op → Prop} (h : p.Only allowed) (wider : ∀ o, allowed o → allowed' o) : p.Only allowed' := by
  induction p with
  | pure _ | throw _ => trivial
  | op o next ih => exact ⟨wider o h.1, fun answer => ih answer (h.2 answer)⟩

/-- A contract bounds the operations. -/
theorem Ensures.only {silent : S.Op → Bool} {Φ : Trace S → S.Op → Prop} {Q : Trace S → Except ε α → Prop}
    (h : p.Ensures silent Φ Q) : p.Only fun o => silent o = true ∨ ∃ t, Φ t o := by
  induction p generalizing Φ Q with
  | pure _ | throw _ => trivial
  | op o next ih =>
    cases quiet : silent o with
    | true => exact ⟨.inl quiet, fun answer => ih answer ((ensures_op_silent quiet next).mp h answer)⟩
    | false =>
      obtain ⟨now, later⟩ := (ensures_op quiet next).mp h
      refine ⟨.inr ⟨[], now⟩, fun answer => (ih answer (later answer)).mono fun o' allowed => ?_⟩
      rcases allowed with quiet | ⟨t, now⟩
      · exact .inl quiet
      · exact .inr ⟨_, now⟩

end Rules
end Program

/-- From related worlds, the second one can answer like the first one whatever may be alike, and they stay related. -/
def Imitates (env : Environment S W) (env' : Environment S V) (like : Event S → Event S → Prop) (R : W → V → Prop) : Prop :=
  ∀ w v o o' answer w', R w v → Matches like o o' → env w ⟨o, answer⟩ w' →
    ∃ answer' v', like ⟨o, answer⟩ ⟨o', answer'⟩ ∧ env' v ⟨o', answer'⟩ v' ∧ R w' v'

namespace Pool
variable [DecidableEq ι] {env : Environment S W} {env' : Environment S V} {R : W → V → Prop} {A : α → β → Prop}
  {likes : ι → Event S → Event S → Prop} {programs : ι → Program S ε α} {programs' : ι → Program S ε β} {w : W} {v : V}
  {c : Config S ε α W ι} {d : Config S ε β V ι}

/-- Two threads that did alike, and will. -/
structure Abreast (like : Event S → Event S → Prop) (A : α → β → Prop) (t : Thread S ε α) (t' : Thread S ε β) : Prop where
  done : List.Forall₂ like t.done t'.done
  rest : Program.Mirrors like A t.rest t'.rest

theorem mirror_step {c' : Config S ε α W ι} (imitates : ∀ i, Imitates env env' (likes i) R) (related : R c.world d.world)
    (abreast : ∀ i, Abreast (likes i) A (c.thread i) (d.thread i)) (step : Step env c c') :
    ∃ d', Step env' d d' ∧ R c'.world d'.world ∧ ∀ i, Abreast (likes i) A (c'.thread i) (d'.thread i) := by
  obtain ⟨i, ready, now⟩ := step
  rename_i o next answer w'
  have rest := (abreast i).rest
  rw [ready] at rest
  generalize ready' : (d.thread i).rest = q at rest
  cases rest with
  | @op _ o' _ next' pairs later =>
    obtain ⟨answer', v', alike, now', related'⟩ := imitates i _ _ _ _ _ _ related pairs now
    refine ⟨_, .thread i ready' now', related', fun j => ?_⟩
    by_cases same : j = i
    · subst same
      have done := (abreast j).done
      constructor
      · simpa [Config.advance] using List.rel_append done (.cons alike .nil)
      · simpa [Config.advance] using later _ _ alike
    · simpa [Config.advance, same] using abreast j

theorem mirror (imitates : ∀ i, Imitates env env' (likes i) R) (mirrors : ∀ i, Program.Mirrors (likes i) A (programs i) (programs' i))
    (related : R w v) (h : Reachable env (start w programs) c) :
    ∃ d, Reachable env' (start v programs') d ∧ R c.world d.world ∧ ∀ i, Abreast (likes i) A (c.thread i) (d.thread i) := by
  induction h with
  | refl => exact ⟨_, .refl, related, fun i => ⟨.nil, mirrors i⟩⟩
  | tail _ step ih =>
    obtain ⟨d, reached, related, abreast⟩ := ih
    obtain ⟨d', step', related', abreast'⟩ := mirror_step imitates related abreast step
    exact ⟨d', reached.tail step', related', abreast'⟩

end Pool
end Effect
