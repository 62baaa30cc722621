import OAuthClientBridge.Effect.Machine

/-!
# Two programs side by side

`Coupled` is the relational triple of two programs on one machine: from worlds in `R` they end alike
and leave worlds in `R'`.
-/

namespace Effect

variable {S : Signature} {ε α β γ δ W : Type}

/-- Two runs ended alike: with values in `A`, or with the same exception. -/
inductive Alike (A : α → β → Prop) : Except ε α → Except ε β → Prop where
  | ok {a : α} {b : β} (h : A a b) : Alike A (.ok a) (.ok b)
  | error (e : ε) : Alike A (.error e) (.error e)

theorem Alike.mono {A B : α → β → Prop} {x : Except ε α} {y : Except ε β} (h : Alike A x y)
    (values : ∀ a b, A a b → B a b) : Alike B x y := by
  cases h with
  | ok h => exact .ok (values _ _ h)
  | error e => exact .error e

theorem Alike.eq {x y : Except ε α} (h : Alike Eq x y) : x = y := by
  cases h with
  | ok h => rw [h]
  | error e => rfl

namespace Program

def Coupled (m : Machine S W) (R R' : W → W → Prop) (A : α → β → Prop) (p : Program S ε α) (q : Program S ε β) : Prop :=
  ∀ w w', R w w' → Alike A (p.eval m w).result (q.eval m w').result ∧ R' (p.eval m w).world (q.eval m w').world

/-- Every operation of the program, whatever it is answered, is an allowed one. -/
def Only (allowed : S.Op → Prop) : Program S ε α → Prop
  | .pure _ | .throw _ => True
  | .op o next => allowed o ∧ ∀ answer, (next answer).Only allowed

section Rules
variable {m : Machine S W} {R R' R'' : W → W → Prop} {A : α → β → Prop} {B : γ → δ → Prop} {p : Program S ε α}
  {q : Program S ε β}

theorem Coupled.pure {a : α} {b : β} (h : A a b) : Coupled m R R A (.pure a : Program S ε α) (.pure b) :=
  fun _ _ related => ⟨.ok h, related⟩

theorem Coupled.throw (e : ε) : Coupled m R R A (.throw e) (.throw e) :=
  fun _ _ related => ⟨.error e, related⟩

theorem Coupled.mono {A' : α → β → Prop} (h : Coupled m R R' A p q) (values : ∀ a b, A a b → A' a b)
    (worlds : ∀ w w', R' w w' → R'' w w') : Coupled m R R'' A' p q := fun w w' related =>
  ⟨(h w w' related).1.mono values, worlds _ _ (h w w' related).2⟩

/-- Both programs perform an operation: `answers` relates what they get, `between` the worlds after it. -/
theorem Coupled.op {o o' : S.Op} {next : S.Answer o → Program S ε α} {next' : S.Answer o' → Program S ε β}
    (answers : S.Answer o → S.Answer o' → Prop) (between : W → W → Prop)
    (now : ∀ w w', R w w' → answers (m o w).1 (m o' w').1 ∧ between (m o w).2 (m o' w').2)
    (later : ∀ a a', answers a a' → Coupled m between R' A (next a) (next' a')) :
    Coupled m R R' A (.op o next) (.op o' next') :=
  fun w w' related => later _ _ (now w w' related).1 _ _ (now w w' related).2

theorem eval_bind (f : α → Program S ε γ) (p : Program S ε α) (w : W) :
    ((p >>= f).eval m w).result = (match (p.eval m w).result with
      | .ok a => ((f a).eval m (p.eval m w).world).result
      | .error e => .error e) ∧
    ((p >>= f).eval m w).world = match (p.eval m w).result with
      | .ok a => ((f a).eval m (p.eval m w).world).world
      | .error _ => (p.eval m w).world := by
  induction p generalizing w with
  | pure a => exact ⟨rfl, rfl⟩
  | throw e => exact ⟨rfl, rfl⟩
  | op o next ih => exact ih _ _

theorem eval_tryCatch (handler : ε → Program S ε α) (p : Program S ε α) (w : W) :
    ((p.tryCatch handler).eval m w).result = (match (p.eval m w).result with
      | .ok a => .ok a
      | .error e => ((handler e).eval m (p.eval m w).world).result) ∧
    ((p.tryCatch handler).eval m w).world = match (p.eval m w).result with
      | .ok _ => (p.eval m w).world
      | .error e => ((handler e).eval m (p.eval m w).world).world := by
  induction p generalizing w with
  | pure a => exact ⟨rfl, rfl⟩
  | throw e => exact ⟨rfl, rfl⟩
  | op o next ih => exact ih _ _

theorem Coupled.bind {f : α → Program S ε γ} {g : β → Program S ε δ} (h : Coupled m R R' A p q)
    (next : ∀ a b, A a b → Coupled m R' R'' B (f a) (g b)) (worlds : ∀ w w', R' w w' → R'' w w') :
    Coupled m R R'' B (p >>= f) (q >>= g) := by
  intro w w' related
  obtain ⟨ended, left⟩ := h w w' related
  rw [(eval_bind f p w).1, (eval_bind f p w).2, (eval_bind g q w').1, (eval_bind g q w').2]
  cases hp : (p.eval m w).result <;> cases hq : (q.eval m w').result <;> rw [hp, hq] at ended
  case ok.ok a b =>
    obtain ⟨values⟩ := ended
    exact next a b values _ _ left
  case error.error e e' =>
    cases ended
    exact ⟨.error e, worlds _ _ left⟩
  all_goals cases ended

theorem Coupled.tryCatch {p' : Program S ε β} {handler : ε → Program S ε α} {handler' : ε → Program S ε β}
    (h : Coupled m R R' A p p') (handlers : ∀ e, Coupled m R' R'' A (handler e) (handler' e))
    (worlds : ∀ w w', R' w w' → R'' w w') : Coupled m R R'' A (p.tryCatch handler) (p'.tryCatch handler') := by
  intro w w' related
  obtain ⟨ended, left⟩ := h w w' related
  rw [(eval_tryCatch handler p w).1, (eval_tryCatch handler p w).2, (eval_tryCatch handler' p' w').1,
    (eval_tryCatch handler' p' w').2]
  cases hp : (p.eval m w).result <;> cases hq : (p'.eval m w').result <;> rw [hp, hq] at ended
  case ok.ok a b => exact ⟨ended, worlds _ _ left⟩
  case error.error e e' =>
    cases ended
    exact handlers e _ _ left
  all_goals cases ended

/-! ### A program beside itself -/

@[simp] theorem only_pure {allowed : S.Op → Prop} (a : α) : (Program.pure a : Program S ε α).Only allowed := trivial

@[simp] theorem only_throw {allowed : S.Op → Prop} (e : ε) : (Program.throw e : Program S ε α).Only allowed := trivial

@[simp] theorem only_op {allowed : S.Op → Prop} (o : S.Op) (next : S.Answer o → Program S ε α) :
    (Program.op o next).Only allowed ↔ allowed o ∧ ∀ answer, (next answer).Only allowed := .rfl

theorem Only.bind {allowed : S.Op → Prop} {f : α → Program S ε γ} (h : p.Only allowed)
    (next : ∀ a, (f a).Only allowed) : (p >>= f).Only allowed := by
  induction p with
  | pure a => exact next a
  | throw e => trivial
  | op o k ih => exact ⟨h.1, fun answer => ih answer (h.2 answer)⟩

/-- A program that only performs operations answered alike in both worlds. -/
theorem Coupled.self {allowed : S.Op → Prop}
    (now : ∀ o, allowed o → ∀ w w', R w w' → (m o w).1 = (m o w').1 ∧ R (m o w).2 (m o w').2) (h : p.Only allowed) :
    Coupled m R R Eq p p := by
  induction p with
  | pure a => exact .pure rfl
  | throw e => exact .throw e
  | op o next ih =>
    refine Coupled.op Eq R (now o h.1) fun a a' same => ?_
    subst same
    exact ih a (h.2 a)

end Rules
end Program
end Effect
