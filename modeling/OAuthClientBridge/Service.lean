import OAuthClientBridge.World
import OAuthClientBridge.Views.AuthorizeRuns

/-!
The service: any number of requests over one token table, each db call atomic. The answers of
everything but the table are arbitrary.
-/

namespace OAuthClientBridge
open Python Effect Program

inductive Request where
  | authorize (args : List (String × String))
  | callback (args : List (String × String))
  | token (req : TokenRequest)

section
variable {τ : Type} (P : Platform τ) (s : Settings)

def view : Request → Action P.fernet Response
  | .authorize args => authorize P s args
  | .callback args => callback P s args
  | .token req => token P s req

def respond (req : Request) : Action P.fernet Response := serve s (view P s req)

/-- The operations that the view of a request performs, each with what came before it. -/
def ServiceOp : Request → Trace (bridge P.fernet) → Op τ → Prop
  | .authorize _ => fun _ o => AuthorizeOp o
  | .callback args => CallbackOp P s args
  | .token req => TokenOp P s req

theorem respond_ensures (req : Request) :
    (respond P s req).Ensures Op.silent (ServiceOp P s req) (fun _ _ => True) := by
  cases req with
  | authorize args =>
    exact (serve_ensures s (authorize_ensures P s args)).mono (fun _ _ h => h) (fun _ _ _ => trivial)
  | callback args => exact (serve_ensures s (callback_ensures P s args)).mono (fun _ _ h => h) (fun _ _ _ => trivial)
  | token req => exact (serve_ensures s (token_ensures P s req)).mono (fun _ _ h => h) (fun _ _ _ => trivial)

theorem respond_answers {req : Request} {t : Trace (bridge P.fernet)} {r : Except Exc Response}
    (run : Runs (respond P s req) t r) : ∃ response, r = .ok response := by
  have served : ∀ {Q : Trace (bridge P.fernet) → Except Exc Response → Prop},
      (view P s req).Ensures Op.silent (ServiceOp P s req) Q → ∃ response, r = .ok response := by
    intro Q ensures
    obtain ⟨_, _, answer⟩ := (serve_ensures s ensures).runs run
    exact ⟨_, answer⟩
  cases req with
  | authorize args => exact served (authorize_ensures P s args)
  | callback args => exact served (callback_ensures P s args)
  | token req => exact served (token_ensures P s req)

/-- The service with its requests, before any of them did anything. -/
def service {W ι : Type} (w : W) (requests : ι → Request) : Pool.Config (bridge P.fernet) Exc Response W ι :=
  Pool.start w fun i => respond P s (requests i)

end

/-- What a request did, its silent operations left out. -/
def acts {τ W ι : Type} {F : Fernet τ} (c : Pool.Config (bridge F) Exc Response W ι) (i : ι) : Trace (bridge F) :=
  visible Op.silent (c.thread i).done

section
variable {τ W ι : Type} {P : Platform τ} {s : Settings} {w : W} {requests : ι → Request} [DecidableEq ι]
  {env : Environment (bridge P.fernet) W} {c : Pool.Config (bridge P.fernet) Exc Response W ι}

theorem acts_past (h : Pool.Reachable env (service P s w requests) c) (i : ι) :
    Past (ServiceOp P s (requests i)) (acts c i) :=
  (respond_ensures P s (requests i)).past (Pool.reaches h i)

theorem acts_next (h : Pool.Reachable env (service P s w requests) c) {i : ι} {o : Op τ}
    {next : Answer P.fernet o → Action P.fernet Response} (ready : (c.thread i).rest = .op o next)
    (loud : o.silent = false) : ServiceOp P s (requests i) (acts c i) o :=
  (respond_ensures P s (requests i)).performs (ready ▸ Pool.reaches h i) loud

/-- A step adds to what its own request did, if anything. -/
theorem acts_advance {c : Pool.Config (bridge P.fernet) Exc Response W ι} {i j : ι} {w : W} {e e' : Event (bridge P.fernet)}
    {rest : Action P.fernet Response} (met : e' ∈ acts (c.advance i w [e] rest) j) : e' ∈ acts c j ∨ j = i ∧ e' = e := by
  by_cases same : j = i
  · subst same
    have split : acts (c.advance j w [e] rest) j = acts c j ++ visible Op.silent [e] := by
      simp [acts, Pool.Config.advance, visible]
    rw [split] at met
    rcases List.mem_append.mp met with old | new
    · exact .inl old
    · exact .inr ⟨rfl, List.mem_singleton.mp (List.mem_filter.mp new).1⟩
  · left
    simpa [acts, Pool.Config.advance, same] using met

end
end OAuthClientBridge
