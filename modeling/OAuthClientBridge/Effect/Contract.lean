import OAuthClientBridge.Effect.Program

/-!
# The program logic

A contract has a precondition for every operation and a postcondition, both read against the
trace so far. `Meets` sees the whole trace; `Ensures` sees it without its silent operations.
-/

namespace Effect
namespace Program
variable {S : Signature} {ε α β γ : Type}

/-- Every operation is performed under `Φ` and every run ends in `Q`; both see the trace so far. -/
def Meets (p : Program S ε α) (Φ : Trace S → S.Op → Prop) (Q : Trace S → Except ε α → Prop) : Prop :=
  match p with
  | .pure a => Q [] (.ok a)
  | .throw e => Q [] (.error e)
  | .op o next => Φ [] o ∧ ∀ answer, (next answer).Meets
      (fun t => Φ (⟨o, answer⟩ :: t)) (fun t => Q (⟨o, answer⟩ :: t))

section Contracts
variable {Φ Ψ : Trace S → S.Op → Prop} {Q R : Trace S → Except ε α → Prop}

@[simp] theorem meets_pure (a : α) : (Program.pure a : Program S ε α).Meets Φ Q ↔ Q [] (.ok a) := .rfl

@[simp] theorem meets_throw (e : ε) : (Program.throw e : Program S ε α).Meets Φ Q ↔ Q [] (.error e) :=
  .rfl

@[simp] theorem meets_op (o : S.Op) (next : S.Answer o → Program S ε α) :
    (Program.op o next).Meets Φ Q ↔ Φ [] o ∧ ∀ answer, (next answer).Meets
      (fun t => Φ (⟨o, answer⟩ :: t)) (fun t => Q (⟨o, answer⟩ :: t)) := .rfl

theorem Meets.mono {p : Program S ε α} (h : p.Meets Φ Q) (ops : ∀ t o, Φ t o → Ψ t o)
    (ends : ∀ t r, Q t r → R t r) : p.Meets Ψ R := by
  induction p generalizing Φ Ψ Q R with
  | pure a => exact ends _ _ h
  | throw e => exact ends _ _ h
  | op o next ih =>
    exact ⟨ops _ _ h.1, fun answer => ih answer (h.2 answer) (fun _ _ => ops _ _) (fun _ _ => ends _ _)⟩

/-- Sequencing: the second program starts from the trace the first one left. -/
theorem Meets.bind {p : Program S ε α} {f : α → Program S ε β} {Q : Trace S → Except ε α → Prop}
    {R : Trace S → Except ε β → Prop} (h : p.Meets Φ Q)
    (error : ∀ t e, Q t (.error e) → R t (.error e))
    (next : ∀ t a, Q t (.ok a) → (f a).Meets (fun t' => Φ (t ++ t')) (fun t' => R (t ++ t'))) :
    (p >>= f).Meets Φ R := by
  induction p generalizing Φ Q R with
  | pure a => exact next [] a h
  | throw e => exact error [] e h
  | op o k ih =>
    exact ⟨h.1, fun answer => ih answer (h.2 answer) (fun _ _ => error _ _) (fun _ _ => next _ _)⟩

theorem Meets.tryCatch {p : Program S ε α} {handler : ε → Program S ε α} (h : p.Meets Φ Q)
    (value : ∀ t a, Q t (.ok a) → R t (.ok a))
    (caught : ∀ t e, Q t (.error e) → (handler e).Meets (fun t' => Φ (t ++ t')) (fun t' => R (t ++ t'))) :
    (p.tryCatch handler).Meets Φ R := by
  induction p generalizing Φ Q R with
  | pure a => exact value [] a h
  | throw e => exact caught [] e h
  | op o k ih =>
    exact ⟨h.1, fun answer => ih answer (h.2 answer) (fun _ _ => value _ _) (fun _ _ => caught _ _)⟩

theorem meets_ofExcept (r : Except ε α) : (ofExcept r : Program S ε α).Meets Φ Q ↔ Q [] r := by
  cases r <;> rfl

theorem Meets.reaches {p q : Program S ε α} {t : Trace S} (h : p.Meets Φ Q) (steps : Reaches p t q) :
    q.Meets (fun t' => Φ (t ++ t')) (fun t' => Q (t ++ t')) := by
  induction steps generalizing Φ Q with
  | refl p => exact h
  | step _ ih => exact ih (h.2 _)

theorem Meets.runs {p : Program S ε α} {t : Trace S} {r : Except ε α} (h : p.Meets Φ Q)
    (run : Runs p t r) : Q t r := by
  simpa using (meets_ofExcept r).mp (h.reaches run)

theorem Meets.performs {p : Program S ε α} {t : Trace S} {o : S.Op}
    {next : S.Answer o → Program S ε α} (h : p.Meets Φ Q) (steps : Reaches p t (.op o next)) : Φ t o := by
  simpa using (h.reaches steps).1

end Contracts

/-! ### Silent operations -/

def visible (silent : S.Op → Bool) (t : Trace S) : Trace S := t.filter fun e => !silent e.op

/-- A contract that does not see the silent operations. -/
def Ensures (p : Program S ε α) (silent : S.Op → Bool) (Φ : Trace S → S.Op → Prop)
    (Q : Trace S → Except ε α → Prop) : Prop :=
  p.Meets (fun t o => silent o = false → Φ (visible silent t) o) (fun t r => Q (visible silent t) r)

section Silent
variable {silent : S.Op → Bool} {Φ Ψ : Trace S → S.Op → Prop} {Q R : Trace S → Except ε α → Prop}

@[simp] theorem visible_nil : visible silent [] = [] := rfl

theorem visible_append (t u : Trace S) : visible silent (t ++ u) = visible silent t ++ visible silent u :=
  List.filter_append t u

theorem visible_cons_silent {e : Event S} (h : silent e.op = true) (t : Trace S) :
    visible silent (e :: t) = visible silent t := by
  simp [visible, h]

theorem visible_cons {e : Event S} (h : silent e.op = false) (t : Trace S) :
    visible silent (e :: t) = e :: visible silent t := by
  simp [visible, h]

@[simp] theorem ensures_pure (a : α) :
    (Program.pure a : Program S ε α).Ensures silent Φ Q ↔ Q [] (.ok a) := .rfl

@[simp] theorem ensures_throw (e : ε) :
    (Program.throw e : Program S ε α).Ensures silent Φ Q ↔ Q [] (.error e) := .rfl

theorem ensures_op_silent {o : S.Op} (h : silent o = true) (next : S.Answer o → Program S ε α) :
    (Program.op o next).Ensures silent Φ Q ↔ ∀ answer, (next answer).Ensures silent Φ Q := by
  simp [Ensures, h, visible_cons_silent (show silent (Event.op ⟨o, _⟩) = true from h)]

theorem ensures_op {o : S.Op} (h : silent o = false) (next : S.Answer o → Program S ε α) :
    (Program.op o next).Ensures silent Φ Q ↔ Φ [] o ∧ ∀ answer, (next answer).Ensures silent
      (fun t => Φ (⟨o, answer⟩ :: t)) (fun t => Q (⟨o, answer⟩ :: t)) := by
  simp [Ensures, h, visible_cons (show silent (Event.op ⟨o, _⟩) = false from h)]

theorem Ensures.mono {p : Program S ε α} (h : p.Ensures silent Φ Q) (ops : ∀ t o, Φ t o → Ψ t o)
    (ends : ∀ t r, Q t r → R t r) : p.Ensures silent Ψ R :=
  Meets.mono h (fun _ _ allowed loud => ops _ _ (allowed loud)) (fun _ _ => ends _ _)

theorem Ensures.bind {p : Program S ε α} {f : α → Program S ε β} {R : Trace S → Except ε β → Prop}
    (h : p.Ensures silent Φ Q) (error : ∀ t e, Q t (.error e) → R t (.error e))
    (next : ∀ t a, Q t (.ok a) → (f a).Ensures silent (fun t' => Φ (t ++ t')) (fun t' => R (t ++ t'))) :
    (p >>= f).Ensures silent Φ R := by
  refine Meets.bind h (fun _ _ => error _ _) (fun t a ended => ?_)
  simpa [Ensures, visible_append] using next (visible silent t) a ended

theorem Ensures.tryCatch {p : Program S ε α} {handler : ε → Program S ε α} (h : p.Ensures silent Φ Q)
    (value : ∀ t a, Q t (.ok a) → R t (.ok a))
    (caught : ∀ t e, Q t (.error e) →
      (handler e).Ensures silent (fun t' => Φ (t ++ t')) (fun t' => R (t ++ t'))) :
    (p.tryCatch handler).Ensures silent Φ R := by
  refine Meets.tryCatch h (fun _ _ => value _ _) (fun t e ended => ?_)
  simpa [Ensures, visible_append] using caught (visible silent t) e ended

def Past (Φ : Trace S → S.Op → Prop) (t : Trace S) : Prop :=
  ∀ t₁ e t₂, t = t₁ ++ e :: t₂ → Φ t₁ e.op

theorem Past.nil : Past Φ [] := by
  intro t₁ e t₂ split
  simp at split

theorem Past.snoc {t : Trace S} (past : Past Φ t) {o : S.Op} (h : Φ t o) (answer : S.Answer o) :
    Past Φ (t ++ [⟨o, answer⟩]) := by
  intro t₁ e t₂ split
  rcases List.eq_nil_or_concat t₂ with rfl | ⟨rest, last, rfl⟩
  · obtain ⟨rfl, rfl⟩ : t = t₁ ∧ ⟨o, answer⟩ = e := by simpa using List.append_inj' split rfl
    exact h
  · apply past t₁ e rest
    have split' : t ++ [⟨o, answer⟩] = (t₁ ++ e :: rest) ++ [last] := by simpa using split
    exact (List.append_inj' split' rfl).1

theorem Ensures.mono_past {p : Program S ε α} (h : p.Ensures silent Φ Q)
    (ops : ∀ t o, Past Φ t → Φ t o → Ψ t o) (ends : ∀ t r, Past Φ t → Q t r → R t r) :
    p.Ensures silent Ψ R := by
  have general : ∀ (p : Program S ε α) (u : Trace S), Past Φ u →
      p.Ensures silent (fun t => Φ (u ++ t)) (fun t => Q (u ++ t)) →
      p.Ensures silent (fun t => Ψ (u ++ t)) (fun t => R (u ++ t)) := by
    intro p
    induction p with
    | pure a | throw a => exact fun u past ended => ends _ _ (by simpa using past) ended
    | op o next ih =>
      intro u past h
      cases loud : silent o with
      | true =>
        rw [ensures_op_silent loud] at h ⊢
        exact fun answer => ih answer u past (h answer)
      | false =>
        rw [ensures_op loud] at h ⊢
        have now : Φ u o := by simpa using h.1
        refine ⟨by simpa using ops u o past now, fun answer => ?_⟩
        simpa using ih answer _ (past.snoc now answer) (by simpa using h.2 answer)
  simpa using general p [] .nil (by simpa using h)

theorem Ensures.past {p q : Program S ε α} {t : Trace S} (h : p.Ensures silent Φ Q) (steps : Reaches p t q) :
    Past Φ (visible silent t) := by
  have general : ∀ u, Past Φ u → p.Ensures silent (fun t => Φ (u ++ t)) (fun t => Q (u ++ t)) →
      Past Φ (u ++ visible silent t) := by
    clear h
    induction steps with
    | refl p => exact fun u past _ => by simpa using past
    | @step o next answer t q rest ih =>
      intro u past h
      cases loud : silent o with
      | true =>
        rw [visible_cons_silent loud]
        exact ih u past ((ensures_op_silent loud next).mp h answer)
      | false =>
        obtain ⟨now, later⟩ := (ensures_op loud next).mp h
        rw [visible_cons loud]
        simpa using ih _ (past.snoc (by simpa using now) answer) (by simpa using later answer)
  simpa using general [] .nil (by simpa using h)

theorem Ensures.runs {p : Program S ε α} {t : Trace S} {r : Except ε α} (h : p.Ensures silent Φ Q)
    (run : Runs p t r) : Q (visible silent t) r := by
  unfold Ensures at h
  exact h.runs run

theorem Ensures.performs {p : Program S ε α} {t : Trace S} {o : S.Op} {next : S.Answer o → Program S ε α}
    (h : p.Ensures silent Φ Q) (steps : Reaches p t (.op o next)) (loud : silent o = false) :
    Φ (visible silent t) o := by
  unfold Ensures at h
  exact h.performs steps loud

end Silent

end Program
end Effect
