import OAuthClientBridge.Unavailability

/-!
Which answers of the provider the service gets through: those on which `fetch` raises nothing, and
those whose error the views can show.
-/

namespace OAuthClientBridge
open Python Effect Program

section Exchange
variable {τ : Type} {P : Platform τ} {s : FetchSettings} {l : List Seen} {p : Payload}

theorem Digestible.waitFloor {a : Upstream} (h : Digestible P s a) {n : Nat} (readable : a.retryAfter = .ok n) :
    waitFloor s a = n := by
  obtain ⟨status, known, _⟩ := Upstream.status_known h.known
  simp [OAuthClientBridge.waitFloor, received_eq, known, readable]

end Exchange

section Views
variable {τ : Type} {P : Platform τ} {s : Settings}

/-! ### `/token` -/

theorem TokenRun.asked {req : TokenRequest} {t : Trace (bridge P.fernet)} {r : Except Exc Response}
    (run : TokenRun P s req t r) (asked : answers (seen t) ≠ []) :
    (∃ p, Raised P s.fetch (seen t) p ∧ r = .error (.python p)) ∨
      ∃ c stored refreshed t', Returned P s.fetch (seen t) refreshed ∧ Refreshed P s c stored refreshed t' r := by
  cases run with
  | unauthenticated _ | missing _ | revoked _ _ | wrongSecret _ _ _ | stored _ _ _ | malformed _ _ =>
    exact absurd rfl asked
  | raised granted raises => exact .inl ⟨_, raises.asked asked, rfl⟩
  | @refreshed c stored refreshed t t' r granted returned ends _ =>
    refine .inr ⟨c, stored, refreshed, t', ?_, ends⟩
    rwa [seen_append, ends.seen, List.append_nil]

theorem PageError.describe_stock {e : OAuthError} {text : String} (stock : e.description? = some text) :
    (PageError.oauth e).describe text = .ok text := by
  unfold PageError.describe
  simp only [stock]
  split <;> rfl

theorem exchangeError_none {p : Payload} (exchanged : exchangeError s p = .ok none) : p["error"]? = none := by
  cases he : p["error"]? with
  | none => rfl
  | some error =>
    rcases exchangeError_of_error (s := s) he with ⟨_, raises⟩ | ⟨_, e, text, _, _, fails⟩
    · cases exchanged.symm.trans raises
    · cases exchanged.symm.trans fails

end Views

namespace Sample

/-- The request with nothing around it but the handlers for the errors of the bridge. -/
def handledToken (upstream : Stream' Upstream) :
    Outcome (bridge platform.fernet) Exc Response (World platform.fernet) :=
  (handled settings (token platform settings request)).eval World.answer (world grant upstream)

def handledCallback (upstream : Stream' Upstream) :
    Outcome (bridge platform.fernet) Exc Response (World platform.fernet) :=
  (handled settings (callback platform settings arguments)).eval World.answer (emptyWorld upstream)

end Sample

end OAuthClientBridge
