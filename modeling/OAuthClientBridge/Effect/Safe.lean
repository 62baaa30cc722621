import OAuthClientBridge.Effect.Pool

/-!
# Programs against an environment

`Safe` is the weakest precondition of a program whose operations an environment answers: it is
read against the state of that environment instead of a trace. A tally is the environment that
answers anything and keeps books of it.
-/

namespace Effect
namespace Program
variable {S : Signature} {ε α β W V G : Type}

/-- Whatever `env` answers, every operation is performed under `Φ` and every run ends in `Q`. -/
def Safe (env : Environment S W) (Φ : W → S.Op → Prop) (Q : Except ε α → W → Prop) :
    Program S ε α → W → Prop
  | .pure a, w => Q (.ok a) w
  | .throw e, w => Q (.error e) w
  | .op o next, w => Φ w o ∧ ∀ answer w', env w ⟨o, answer⟩ w' → Safe env Φ Q (next answer) w'

section Rules
variable {env : Environment S W} {Φ Ψ : W → S.Op → Prop} {Q R : Except ε α → W → Prop} {w w' : W}

@[simp] theorem safe_pure (a : α) : (Program.pure a : Program S ε α).Safe env Φ Q w ↔ Q (.ok a) w := .rfl

@[simp] theorem safe_throw (e : ε) : (Program.throw e : Program S ε α).Safe env Φ Q w ↔ Q (.error e) w := .rfl

theorem safe_ofExcept (r : Except ε α) : (ofExcept r : Program S ε α).Safe env Φ Q w ↔ Q r w := by
  cases r <;> rfl

theorem Safe.mono {p : Program S ε α} (h : p.Safe env Φ Q w) (ops : ∀ w o, Φ w o → Ψ w o)
    (ends : ∀ r w, Q r w → R r w) : p.Safe env Ψ R w := by
  induction p generalizing w with
  | pure a => exact ends _ _ h
  | throw e => exact ends _ _ h
  | op o next ih => exact ⟨ops _ _ h.1, fun answer w' now => ih answer (h.2 answer w' now)⟩

/-- What has to hold at the end of a program that `f` goes on from. -/
def andThen (env : Environment S W) (Φ : W → S.Op → Prop) (f : α → Program S ε β) (R : Except ε β → W → Prop) :
    Except ε α → W → Prop
  | .ok a, w => (f a).Safe env Φ R w
  | .error e, w => R (.error e) w

@[simp] theorem andThen_ok (f : α → Program S ε β) (R : Except ε β → W → Prop) (a : α) :
    andThen env Φ f R (.ok a) w ↔ (f a).Safe env Φ R w := .rfl

@[simp] theorem andThen_error (f : α → Program S ε β) (R : Except ε β → W → Prop) (e : ε) :
    andThen env Φ f R (.error e) w ↔ R (.error e) w := .rfl

theorem safe_bind {p : Program S ε α} {f : α → Program S ε β} {R : Except ε β → W → Prop} :
    (p >>= f).Safe env Φ R w ↔ p.Safe env Φ (andThen env Φ f R) w := by
  induction p generalizing w with
  | pure a | throw e => rfl
  | op o k ih => exact and_congr_right' (forall₃_congr fun answer w' now => ih answer)

theorem Safe.bind {p : Program S ε α} {f : α → Program S ε β} {R : Except ε β → W → Prop}
    (h : p.Safe env Φ Q w) (error : ∀ e w, Q (.error e) w → R (.error e) w)
    (next : ∀ a w, Q (.ok a) w → (f a).Safe env Φ R w) : (p >>= f).Safe env Φ R w := by
  refine safe_bind.mpr (h.mono (fun _ _ allowed => allowed) fun r w ended => ?_)
  cases r with
  | ok a => exact next a w ended
  | error e => exact error e w ended

/-- What has to hold at the end of a program whose exceptions `handler` takes. -/
def orElse (env : Environment S W) (Φ : W → S.Op → Prop) (handler : ε → Program S ε α) (Q : Except ε α → W → Prop) :
    Except ε α → W → Prop
  | .ok a, w => Q (.ok a) w
  | .error e, w => (handler e).Safe env Φ Q w

theorem safe_tryCatch {p : Program S ε α} {handler : ε → Program S ε α} :
    (p.tryCatch handler).Safe env Φ Q w ↔ p.Safe env Φ (orElse env Φ handler Q) w := by
  induction p generalizing w with
  | pure a | throw e => rfl
  | op o k ih => exact and_congr_right' (forall₃_congr fun answer w' now => ih answer)

theorem Safe.reaches {p q : Program S ε α} {t : Trace S} (h : p.Safe env Φ Q w) (steps : Reaches p t q)
    (follows : Follows env w t w') : q.Safe env Φ Q w' := by
  induction steps generalizing w with
  | refl p =>
    cases follows
    exact h
  | step _ ih =>
    rcases follows with _ | ⟨now, rest⟩
    exact ih (h.2 _ _ now) rest

theorem Safe.runs {p : Program S ε α} {t : Trace S} {r : Except ε α} (h : p.Safe env Φ Q w)
    (run : Runs p t r) (follows : Follows env w t w') : Q r w' :=
  (safe_ofExcept r).mp (h.reaches run follows)

theorem Safe.performs {p : Program S ε α} {t : Trace S} {o : S.Op} {next : S.Answer o → Program S ε α}
    (h : p.Safe env Φ Q w) (steps : Reaches p t (.op o next)) (follows : Follows env w t w') : Φ w' o :=
  (h.reaches steps follows).1

theorem Safe.past {p q : Program S ε α} {t t₁ t₂ : Trace S} {e : Event S} (h : p.Safe env Φ Q w)
    (steps : Reaches p t q) (follows : Follows env w t w') (split : t = t₁ ++ e :: t₂) :
    ∃ m m', Follows env w t₁ m ∧ Φ m e.op ∧ env m e m' := by
  induction steps generalizing w t₁ with
  | refl p => simp at split
  | @step o next answer t q _ ih =>
    rcases follows with _ | ⟨now, rest⟩
    cases t₁ with
    | nil =>
      obtain ⟨rfl, rfl⟩ := List.cons.inj split
      exact ⟨w, _, .nil w, h.1, now⟩
    | cons e' t₁ =>
      obtain ⟨rfl, later⟩ := List.cons.inj split
      obtain ⟨m, m', before, allowed, answered⟩ := ih (h.2 _ _ now) rest later
      exact ⟨m, m', .cons now before, allowed, answered⟩

/-- What every allowed operation preserves holds wherever a program is. -/
theorem Safe.invariant {I : W → Prop} {p q : Program S ε α} {t : Trace S} (h : p.Safe env Φ Q w) (initially : I w)
    (preserved : ∀ w e w', I w → Φ w e.op → env w e w' → I w') (steps : Reaches p t q)
    (follows : Follows env w t w') : I w' := by
  induction steps generalizing w with
  | refl p =>
    cases follows
    exact initially
  | @step o next answer t q _ ih =>
    rcases follows with _ | ⟨now, rest⟩
    exact ih (h.2 _ _ now) (preserved _ ⟨o, answer⟩ _ initially h.1 now) rest

/-- What every step preserves holds wherever a program stops. -/
theorem safe_of_stable {I : W → Prop} (stable : ∀ w e w', I w → env w e w' → I w') (p : Program S ε α) (h : I w) :
    p.Safe env (fun _ _ => True) (fun _ w => I w) w := by
  induction p generalizing w with
  | pure a | throw e => exact h
  | op o next ih => exact ⟨trivial, fun answer w' now => ih answer (stable _ _ _ h now)⟩

end Rules

/-! ### Books of a trace -/

/-- The environment that answers anything and enters every event in `g`. -/
def tally (enter : G → Event S → G) : Environment S G := fun g e g' => g' = enter g e

section Tally
variable {enter : G → Event S → G} {g g' : G}

theorem follows_tally {t : Trace S} : Follows (tally enter) g t g' ↔ g' = t.foldl enter g := by
  induction t generalizing g with
  | nil => exact ⟨fun h => by cases h; rfl, fun h => h ▸ .nil _⟩
  | cons e t ih =>
    constructor
    · rintro (_ | ⟨rfl, rest⟩)
      exact ih.mp rest
    · exact fun h => .cons rfl (ih.mpr h)

theorem Safe.tallied {Φ : G → S.Op → Prop} {Q : Except ε α → G → Prop} {p : Program S ε α} {t : Trace S}
    {r : Except ε α} (h : p.Safe (tally enter) Φ Q g) (run : Runs p t r) : Q r (t.foldl enter g) :=
  h.runs run (follows_tally.mpr rfl)

/-- The world of an environment, with books of what happens in it. -/
def audited (env : Environment S W) (enter : G → Event S → G) : Environment S (W × G) :=
  fun w e w' => env w.1 e w'.1 ∧ w'.2 = enter w.2 e

theorem follows_audited {env : Environment S W} (enter : G → Event S → G) (g : G) {t : Trace S} {w w' : W} (h : Follows env w t w') :
    Follows (audited env enter) (w, g) t (w', t.foldl enter g) := by
  induction h generalizing g with
  | nil w => exact .nil _
  | cons now _ ih => exact .cons ⟨now, rfl⟩ (ih _)

theorem audited_books {env : Environment S W} {t : Trace S} {x y : W × G} (h : Follows (audited env enter) x t y) :
    y.2 = t.foldl enter x.2 := by
  induction h with
  | nil x => rfl
  | cons now _ ih => rw [ih, now.2, List.foldl_cons]

end Tally
end Program

namespace Pool
variable {S : Signature} {ε α W G ι : Type} [DecidableEq ι] {env : Environment S W}
  {programs : ι → Program S ε α} {w₀ : W} {c : Config S ε α W ι}

/-- The invariant rule over books: each program keeps its own, by the same rules of entry. -/
theorem invariant_tally {enter : G → Event S → G} {g₀ : G} {Φ : G → S.Op → Prop} {Q : Except ε α → G → Prop}
    {I : W → (ι → G) → Prop} (safe : ∀ i, (programs i).Safe (Program.tally enter) Φ Q g₀)
    (initially : I w₀ fun _ => g₀)
    (preserved : ∀ w gs i o answer w', I w gs → Φ (gs i) o → env w ⟨o, answer⟩ w' →
      I w' (Function.update gs i (enter (gs i) ⟨o, answer⟩)))
    (h : Reachable env (start w₀ programs) c) : I c.world fun i => (c.thread i).done.foldl enter g₀ := by
  induction h with
  | refl => exact initially
  | @tail c c' before step ih =>
    obtain ⟨i, ready, now⟩ := step
    rename_i o next answer w
    have allowed := (safe i).performs (ready ▸ reaches before i) (Program.follows_tally.mpr rfl)
    have same : (fun j => ((c.advance i w [⟨o, answer⟩] (next answer)).thread j).done.foldl enter g₀) =
        Function.update (fun j => (c.thread j).done.foldl enter g₀) i
          (enter ((c.thread i).done.foldl enter g₀) ⟨o, answer⟩) := by
      funext j
      by_cases hj : j = i
      · subst hj
        simp [Config.advance]
      · simp [Config.advance, hj]
    rw [same]
    exact preserved _ _ i o answer _ ih allowed now

end Pool
end Effect
