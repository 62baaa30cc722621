/-!
# Programs that ask their environment

A program performs operations of a signature and goes on from the answer it gets. `Reaches`
is what it does step by step, whatever the answers are.
-/

namespace Effect

/-- The operations a program may perform, and the type of the answer to each. -/
structure Signature where
  Op : Type
  Answer : Op → Type

structure Event (S : Signature) where
  op : S.Op
  answer : S.Answer op

abbrev Trace (S : Signature) := List (Event S)

inductive Program (S : Signature) (ε α : Type) where
  | pure (value : α)
  | throw (error : ε)
  | op (o : S.Op) (next : S.Answer o → Program S ε α)

namespace Program
variable {S : Signature} {ε α β γ : Type}

def bind (p : Program S ε α) (f : α → Program S ε β) : Program S ε β :=
  match p with
  | .pure a => f a
  | .throw e => .throw e
  | .op o next => .op o (fun answer => (next answer).bind f)

instance : Monad (Program S ε) where
  pure := Program.pure
  bind := Program.bind

def perform (o : S.Op) : Program S ε (S.Answer o) := .op o .pure

def ofExcept : Except ε α → Program S ε α
  | .ok a => .pure a
  | .error e => .throw e

/-- Python's `try: p except e: handler(e)`. -/
def tryCatch (p : Program S ε α) (handler : ε → Program S ε α) : Program S ε α :=
  match p with
  | .pure a => .pure a
  | .throw e => handler e
  | .op o next => .op o (fun answer => (next answer).tryCatch handler)

@[simp] theorem pure_eq (a : α) : (Pure.pure a : Program S ε α) = .pure a := rfl

@[simp] theorem pure_bind (a : α) (f : α → Program S ε β) : (Program.pure a >>= f) = f a := rfl

@[simp] theorem throw_bind (e : ε) (f : α → Program S ε β) :
    ((Program.throw e : Program S ε α) >>= f) = .throw e := rfl

@[simp] theorem op_bind (o : S.Op) (next : S.Answer o → Program S ε α) (f : α → Program S ε β) :
    (Program.op o next >>= f) = .op o (fun answer => next answer >>= f) := rfl

@[simp] theorem perform_bind (o : S.Op) (f : S.Answer o → Program S ε β) :
    (perform o >>= f) = .op o f := rfl

@[simp] theorem ofExcept_ok (a : α) : (ofExcept (.ok a) : Program S ε α) = .pure a := rfl

@[simp] theorem ofExcept_error (e : ε) : (ofExcept (.error e) : Program S ε α) = .throw e := rfl

theorem bind_pure (p : Program S ε α) : p >>= Program.pure = p := by
  induction p with
  | pure a => rfl
  | throw e => rfl
  | op o next ih => exact congrArg (Program.op o) (funext ih)

theorem bind_assoc (p : Program S ε α) (f : α → Program S ε β) (g : β → Program S ε γ) :
    (p >>= f) >>= g = p >>= fun a => f a >>= g := by
  induction p with
  | pure a => rfl
  | throw e => rfl
  | op o next ih => exact congrArg (Program.op o) (funext ih)

instance : LawfulMonad (Program S ε) :=
  LawfulMonad.mk' _ (fun p => bind_pure p) (fun _ _ => rfl) (fun p f g => bind_assoc p f g)

/-! ### Steps -/

/-- `p` can perform the operations of the trace, get its answers, and go on as `q`. -/
inductive Reaches : Program S ε α → Trace S → Program S ε α → Prop where
  | refl (p : Program S ε α) : Reaches p [] p
  | step {o : S.Op} {next : S.Answer o → Program S ε α} {answer : S.Answer o} {t : Trace S}
      {q : Program S ε α} (rest : Reaches (next answer) t q) :
      Reaches (.op o next) (⟨o, answer⟩ :: t) q

def Runs (p : Program S ε α) (t : Trace S) (r : Except ε α) : Prop := Reaches p t (ofExcept r)

theorem Reaches.snoc {p : Program S ε α} {t : Trace S} {o : S.Op}
    {next : S.Answer o → Program S ε α} (h : Reaches p t (.op o next)) (answer : S.Answer o) :
    Reaches p (t ++ [⟨o, answer⟩]) (next answer) := by
  generalize hq : Program.op o next = q at h
  induction h with
  | refl p => subst hq; exact .step (.refl _)
  | step _ ih => exact .step (ih hq)

end Program
end Effect
