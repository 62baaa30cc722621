import OAuthClientBridge.Classification

/-!
A provider that does not serve the last request: what `fetch` returns, and what the two views make
of it. The bodies that came along must not show through.
-/

namespace OAuthClientBridge
open Python Effect Program

/-- An attempt without a response, or with a retryable status over a body that is no JSON or an
object whose `error`, if any, is a string. -/
inductive Unserved (s : FetchSettings) : Upstream → Prop where
  | failure (kind : FailureKind) (redirects : Nat) : Unserved s (.failure kind none redirects)
  | undecodable {r : UpstreamResponse} (retry : r.statusCode ∈ s.retryStatusCodes.map HTTPStatus.code)
      (body : r.body = .undecodable) : Unserved s (.response r)
  | object {r : UpstreamResponse} {b : Payload} (retry : r.statusCode ∈ s.retryStatusCodes.map HTTPStatus.code)
      (body : r.body = .document (.object b)) (plain : ∀ error ∈ b["error"]?, ∃ code, error = .str code) :
      Unserved s (.response r)

/-- The error object of an unavailable provider, with nothing of a token in it. -/
structure UnavailableObject (p : Payload) : Prop where
  error : p["error"]? = some (.str OAuthError.temporarilyUnavailable.value)
  accessToken : p["access_token"]? = none
  refreshToken : p["refresh_token"]? = none

/-- The wait that the exchange ended on was possible: the last `Retry-After` can be read, and no
negative delay was drawn. -/
def Waitable (s : FetchSettings) (l : List Seen) : Prop :=
  (∀ a ∈ (answers l).getLast?, ∃ n, a.retryAfter = .ok n) ∧ ¬SleepRefused s l

section Exchange
variable {τ : Type} {P : Platform τ} {s : FetchSettings} {a : Upstream} {l : List Seen}

theorem Unserved.retried (h : Unserved s a) : a.retried s = true := by
  cases h with
  | failure kind redirects => rfl
  | undecodable retry _ | object retry _ _ =>
    simpa [Upstream.retried, Upstream.exception?, Upstream.statusCode?] using retry

theorem errorObject_hashable (error : OAuthError) (description : String) :
    ((errorObject error description).getOrNull "error").hashable = true := by
  cases error <;> rfl

theorem Unserved.document (h : Unserved s a) :
    ∃ b, a.document s = .object b ∧ (b.getOrNull "error").hashable = true := by
  cases h with
  | failure kind redirects => exact ⟨_, rfl, errorObject_hashable _ _⟩
  | @undecodable r _ body =>
    exact ⟨errorObject (undecodableCode s r.statusCode) (undecodableText s r.statusCode),
      by simp only [Upstream.document, body], errorObject_hashable _ _⟩
  | @object r b _ body plain =>
    refine ⟨b, by simp only [Upstream.document, body], ?_⟩
    unfold Payload.getOrNull
    cases present : b["error"]? with
    | none => rfl
    | some error =>
      obtain ⟨code, rfl⟩ := plain error present
      rfl

theorem Unserved.known (h : Unserved s a) : ∀ code ∈ a.statusCode?, code ∈ knownCodes := by
  cases h with
  | failure kind redirects => simp [Upstream.statusCode?]
  | undecodable retry _ | object retry _ _ =>
    obtain ⟨status, _, same⟩ := List.mem_map.mp retry
    simp [Upstream.statusCode?, ← same, status.known]

theorem Unserved.digestible (h : Unserved s a) (readable : ∃ n, a.retryAfter = .ok n) : Digestible P s a := by
  obtain ⟨b, document, scalar⟩ := h.document
  obtain ⟨n, read⟩ := readable
  refine ⟨Upstream.returned_of_readable read, h.known, ⟨n, read⟩, ⟨b, document⟩, fun _ b' document' => ?_, fun final => ?_⟩
  · cases document.symm.trans document'
    exact scalar
  · cases h.retried.symm.trans final

theorem unavailableResult_object (description : Json) : UnavailableObject (unavailableResult description) :=
  ⟨rfl, rfl, rfl⟩

theorem UnavailableObject.withRetryAfter {p : Payload} (h : UnavailableObject p) (n : Nat) :
    UnavailableObject (withRetryAfter n p) where
  error := (withRetryAfter_getElem? n p (by decide)).trans h.error
  accessToken := (withRetryAfter_getElem? n p (by decide)).trans h.accessToken
  refreshToken := (withRetryAfter_getElem? n p (by decide)).trans h.refreshToken

theorem Unserved.returned {p : Payload} (h : Unserved s a) (last : (answers l).getLast? = some a)
    (returned : Returned P s l p) :
    Waitable s l ∧ UnavailableObject p ∧ HeaderReady (p.getOrNull "retry_after") := by
  obtain ⟨slept, ends⟩ := returned.last
  rw [last] at ends
  obtain ⟨_, b, n, _, readable, rfl⟩ := ends
  rw [Upstream.outcome, if_pos h.retried]
  have object := unavailableResult_object (b.getOrNull "error_description")
  refine ⟨⟨by simp [last, readable], slept⟩, object.withRetryAfter n, ?_⟩
  rw [withRetryAfter_ready n (by simp [object.error])]
  exact .inr (.inl rfl)

theorem Unserved.raised {p : PyError} (h : Unserved s a) (last : (answers l).getLast? = some a)
    (raises : Raised P s l p) : ¬Waitable s l := by
  rintro ⟨readable, slept⟩
  rcases raises.last with ⟨refused, _⟩ | ⟨_, a', last', indigestible⟩
  · exact slept refused
  · obtain rfl := Option.some.inj (last.symm.trans last')
    exact indigestible (h.digestible (readable a last))

end Exchange

/-- The configuration leaves the code of an unavailable provider alone. -/
def KeepsUnavailable (s : FetchSettings) : Prop :=
  ∀ e ∈ s.errorTypes[OAuthError.temporarilyUnavailable.value]?, e = .temporarilyUnavailable

section Views
variable {τ : Type} {P : Platform τ} {s : Settings} {p : Payload}

theorem KeepsUnavailable.resolve {s : FetchSettings} (h : KeepsUnavailable s) (fallback : OAuthError) :
    resolveError s.errorTypes OAuthError.temporarilyUnavailable.value fallback = .temporarilyUnavailable := by
  unfold resolveError
  cases mapped : s.errorTypes[OAuthError.temporarilyUnavailable.value]? with
  | some e => exact h e mapped
  | none => simp [OAuthError.ofValue?_value]

theorem KeepsUnavailable.normalize {s : FetchSettings} (h : KeepsUnavailable s) (P : Platform τ)
    (fallback : OAuthError) :
    normalizeTokenError P s (.str OAuthError.temporarilyUnavailable.value) fallback = .temporarilyUnavailable := by
  unfold normalizeTokenError
  have text : P.str (.str OAuthError.temporarilyUnavailable.value) = OAuthError.temporarilyUnavailable.value := rfl
  simp only [text, h.resolve]
  rfl

theorem KeepsUnavailable.viewError (h : KeepsUnavailable s.fetch) (P : Platform τ) :
    viewError P s.fetch (.str OAuthError.temporarilyUnavailable.value) = .temporarilyUnavailable := by
  unfold OAuthClientBridge.viewError
  split
  · rfl
  · exact h.normalize P _

theorem Refreshed.unavailable {c : ClientCredentials P.fernet} {stored : Payload} {t : Trace (bridge P.fernet)}
    {r₀ : Except Exc Response} (kept : KeepsUnavailable s.fetch) (object : UnavailableObject p)
    (ready : HeaderReady (p.getOrNull "retry_after")) (h : Refreshed P s c stored p t r₀) :
    Surfaces .temporarilyUnavailable (served s r₀) ∧ t = [] := by
  have contains : p.contains "error" = true := by
    simp [Std.ExtTreeMap.contains_eq_isSome_getElem?, object.error]
  refine ⟨(h.surfaces_iff object.error _).mpr ⟨(kept.viewError P).symm, fun _ => ready⟩, ?_⟩
  cases h with
  | revoked now n failed invalid =>
    obtain ⟨_, error, present, grant⟩ := (secondOutcome_invalidates failed).mp invalid
    obtain rfl := Option.some.inj (object.error.symm.trans present)
    cases (kept.normalize P .serverError).symm.trans grant
  | failed _ _ => rfl
  | invalid noError _ => cases contains.symm.trans noError
  | unchanged accepted _ | updated _ _ _ accepted _ => cases contains.symm.trans accepted.1

variable {a : Upstream} {σ σ' : Store τ} {t : Trace (bridge P.fernet)} {response : Response}

end Views

namespace Sample

end Sample

end OAuthClientBridge
