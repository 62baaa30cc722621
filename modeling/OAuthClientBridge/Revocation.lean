import OAuthClientBridge.World

/-!
When a refresh writes `NULL` over the stored token. The decision is taken twice, by `fetch` on the
real status and by the view on a status made up from the body.
-/

namespace OAuthClientBridge
open Python Effect Program

section
variable {τ : Type} (P : Platform τ) (s : FetchSettings)

/-- The error code turns into `invalid_grant`. -/
def InvalidGrant (error : Json) : Prop := normalizeTokenError P s error .serverError = .invalidGrant

/-- The provider itself revoked the grant: a final 400 whose `error` means `invalid_grant`. -/
def RevokedByProvider (a : Upstream) : Prop :=
  ∃ r b error, a = .response r ∧ r.statusCode = 400 ∧ HTTPStatus.badRequest ∉ s.retryStatusCodes ∧
    r.body = .document (.object b) ∧ b["error"]? = some error ∧ InvalidGrant P s error

/-- The error code that the view acts on after the answer. -/
def actedOn (a : Upstream) : Option Json :=
  if a.retried s then some (.str OAuthError.temporarilyUnavailable.value)
  else match a.document s with
    | .object b => b["error"]?
    | .other _ => none

/-- What was seen of the provider cannot mislead the view: `fetch` can digest a revocation by the
provider, and no other answer comes with a code that turns into `invalid_grant`. -/
def RevocationSound (l : List Seen) : Prop :=
  HTTPStatus.badRequest ∈ s.retryStatusCodes ∨ SleepRefused s l ∨
    match (answers l).getLast? with
    | none => ¬InvalidGrant P s (.str OAuthError.serverError.value)
    | some a => (RevokedByProvider P s a → Digestible P s a) ∧
        (RevokedByProvider P s a ∨ ¬Digestible P s a ∨ ∀ error ∈ actedOn s a, ¬InvalidGrant P s error)

end

variable {τ : Type} {P : Platform τ} {s : FetchSettings}

theorem withRetryAfter_getElem? (n : Nat) (b : Payload) {key : String} (h : "retry_after" ≠ key) :
    (withRetryAfter n b)[key]? = b[key]? := by
  unfold withRetryAfter
  split
  · simp [Std.ExtTreeMap.getElem?_insert, h]
  · rfl

theorem outcome_error (a : Upstream) {b : Payload} (object : a.document s = .object b) :
    (a.outcome s b)["error"]? = actedOn s a := by
  unfold Upstream.outcome actedOn
  split
  · rfl
  · rw [object]

theorem RevokedByProvider.retried {a : Upstream} (h : RevokedByProvider P s a) : a.retried s = false := by
  obtain ⟨r, b, error, rfl, bad, final, _⟩ := h
  have code : (Upstream.response r).statusCode? = (some HTTPStatus.badRequest).map HTTPStatus.code := by
    simp [Upstream.statusCode?, bad, HTTPStatus.badRequest]
  simp [Upstream.retried_eq rfl code, final]

theorem RevokedByProvider.acted {a : Upstream} (h : RevokedByProvider P s a) :
    ∃ error ∈ actedOn s a, InvalidGrant P s error := by
  have final := h.retried
  obtain ⟨r, b, error, rfl, _, _, body, present, grant⟩ := h
  exact ⟨error, by simp [actedOn, final, Upstream.document, body, present], grant⟩

theorem secondOutcome_invalidates {s : Settings} {p : Payload} (failed : p.contains "error" = true) :
    (secondOutcome P s p).invalidateRefreshToken = true ↔
      HTTPStatus.badRequest ∉ s.fetch.retryStatusCodes ∧ ∃ error ∈ p["error"]?, InvalidGrant P s.fetch error := by
  have present := Payload.getElem?_of_contains failed
  have notSuccess : HTTPStatus.badRequest.isSuccess = false := by decide
  unfold secondOutcome objectOutcome assumedStatus
  rw [if_pos failed]
  by_cases retry : HTTPStatus.badRequest ∈ s.fetch.retryStatusCodes <;>
    simp [retry, notSuccess, present, InvalidGrant]

/-- The error code that the view acts on after the whole exchange. -/
def lastActedOn (s : FetchSettings) (l : List Seen) : Option Json :=
  match (answers l).getLast? with
  | none => some (.str OAuthError.serverError.value)
  | some a => actedOn s a

theorem Returned.error {l : List Seen} {p : Payload} (h : Returned P s l p) : p["error"]? = lastActedOn s l := by
  have last := h.last.2
  unfold lastActedOn
  cases ha : (answers l).getLast? with
  | none =>
    rw [ha] at last
    subst last
    rfl
  | some a =>
    rw [ha] at last
    obtain ⟨_, b, n, object, _, rfl⟩ := last
    rw [withRetryAfter_getElem? n _ (by decide), outcome_error a object]

section Serving
variable {s : Settings} {req : TokenRequest} {σ σ' : Store τ} {c : ClientCredentials P.fernet} {row : Row τ}
  {stored : Payload} {t : Trace (bridge P.fernet)}

theorem Refreshable.revokes_iff {r : Except Exc Response} (h : Refreshable P req σ c row stored)
    (run : TokenRun P s req t r) (follows : Follows Store.Step σ t σ') :
    (∃ row', σ' c.clientId = some row' ∧ row'.token = none) ↔
      Sendable s stored ∧ ∃ p, Returned P s.fetch (seen t) p ∧ HTTPStatus.badRequest ∉ s.fetch.retryStatusCodes ∧
        ∃ error ∈ lastActedOn s.fetch (seen t), InvalidGrant P s.fetch error := by
  have untouched : ¬∃ row', σ c.clientId = some row' ∧ row'.token = none := by
    rintro ⟨row', found, null⟩
    obtain rfl := Option.some.inj (h.found.symm.trans found)
    exact h.opens.token null
  rcases h.cases run follows with ⟨p, raises, rfl, _⟩ | ⟨p, t', returned, ends, written, sendable, _⟩
  · exact iff_of_false untouched fun ⟨sendable, _, returned, _⟩ => returned.not_raised (raises.raised sendable)
  rw [and_iff_right sendable]
  have decision : (∃ p', Returned P s.fetch (seen t) p' ∧ HTTPStatus.badRequest ∉ s.fetch.retryStatusCodes ∧
      ∃ error ∈ lastActedOn s.fetch (seen t), InvalidGrant P s.fetch error) ↔
      p.contains "error" = true ∧ (secondOutcome P s p).invalidateRefreshToken = true := by
    rw [← returned.error]
    constructor
    · rintro ⟨_, _, final, error, present, grant⟩
      have failed : p.contains "error" = true := by
        simp [Std.ExtTreeMap.contains_eq_isSome_getElem?, Option.mem_def.mp present]
      exact ⟨failed, (secondOutcome_invalidates failed).mpr ⟨final, error, present, grant⟩⟩
    · rintro ⟨failed, invalid⟩
      obtain ⟨final, error, present, grant⟩ := (secondOutcome_invalidates failed).mp invalid
      exact ⟨p, returned, final, error, present, grant⟩
  rw [decision]
  -- `NULL` is written in the first case only; the last one writes a token.
  cases ends with
  | revoked now n failed invalid =>
    have written := Store.step_update (Store.follows_single.mp written) h.found
    exact iff_of_true ⟨_, by rw [written, Store.write_self], rfl⟩ ⟨failed, invalid⟩
  | failed failed valid =>
    cases written
    exact iff_of_false untouched (by simp [valid])
  | invalid noError _ =>
    cases written
    exact iff_of_false untouched (by simp [noError])
  | unchanged accepted _ =>
    cases written
    exact iff_of_false untouched (by simp [accepted.1])
  | updated nonce now n accepted changed =>
    rcases written with _ | ⟨rfl, written⟩
    have written := Store.step_update (Store.follows_single.mp written) h.found
    refine iff_of_false ?_ (by simp [accepted.1])
    rintro ⟨row', found, null⟩
    rw [written, Store.write_self] at found
    obtain rfl := Option.some.inj found
    cases null

theorem revocationSound_iff {l : List Seen} {s : FetchSettings}
    (ended : (∃ p, Returned P s l p) ∨ ∃ e, Raised P s l e) :
    ((∃ p, Returned P s l p ∧ HTTPStatus.badRequest ∉ s.retryStatusCodes ∧
          ∃ error ∈ lastActedOn s l, InvalidGrant P s error) ↔
        ∃ a ∈ (answers l).getLast?, RevokedByProvider P s a) ↔ RevocationSound P s l := by
  by_cases final : HTTPStatus.badRequest ∈ s.retryStatusCodes
  · have noRevocation : ∀ a, ¬RevokedByProvider P s a := by
      rintro a ⟨_, _, _, _, _, notRetried, _⟩
      exact notRetried final
    simp [RevocationSound, final, noRevocation]
  simp only [RevocationSound, final, false_or, not_false_eq_true, true_and]
  rcases ended with ⟨p, returned⟩ | ⟨e, raises⟩
  · obtain ⟨slept, last⟩ := returned.last
    have written : (∃ p, Returned P s l p ∧ ∃ error ∈ lastActedOn s l, InvalidGrant P s error) ↔
        ∃ error ∈ lastActedOn s l, InvalidGrant P s error :=
      ⟨fun ⟨_, _, grant⟩ => grant, fun grant => ⟨p, returned, grant⟩⟩
    rw [written]
    simp only [slept, false_or, lastActedOn]
    cases ha : (answers l).getLast? with
    | none => simp
    | some a =>
      rw [ha] at last
      obtain ⟨digestible, _⟩ := last
      have acted := fun revoked : RevokedByProvider P s a => revoked.acted
      simp only [Option.mem_def, Option.some.injEq, exists_eq_left', imp_true_iff, true_and, digestible,
        not_true_eq_false, false_or] at acted ⊢
      grind
  · have unwritten : ¬∃ p, Returned P s l p ∧ ∃ error ∈ lastActedOn s l, InvalidGrant P s error :=
      fun ⟨_, returned, _⟩ => returned.not_raised raises
    simp only [unwritten, false_iff]
    rcases raises.last with ⟨refused, retried⟩ | ⟨slept, a, ha, indigestible⟩
    · refine iff_of_true ?_ (.inl refused)
      rintro ⟨a, ha, revoked⟩
      exact absurd (retried a ha).2 (by simp [revoked.retried])
    · simp only [slept, false_or, Option.mem_def.mp ha, Option.mem_def, Option.some.injEq, exists_eq_left',
        indigestible, not_false_eq_true, true_or, or_true, and_true, imp_false]

/-- The table loses the token exactly when the provider revoked it, if and only if what was seen of
the provider is sound, or the token could not even be sent. -/
theorem token_revokes_iff {r : Except Exc Response} (h : Refreshable P req σ c row stored)
    (run : Runs (serve s (token P s req)) t r) (follows : Follows Store.Step σ t σ') :
    ((∃ row', σ' c.clientId = some row' ∧ row'.token = none) ↔
        ∃ a ∈ (answers (seen t)).getLast?, RevokedByProvider P s.fetch a) ↔
      ¬Sendable s stored ∨ RevocationSound P s.fetch (seen t) := by
  obtain ⟨r₀, ended, _⟩ := (serve_ensures s (token_ensures P s req)).runs run
  have follows := Store.follows_visible follows
  rw [h.revokes_iff ended follows, seen_visible]
  obtain sendable | unsendable := em (Sendable s stored)
  · rw [and_iff_right sendable, or_iff_right (not_not.mpr sendable)]
    apply revocationSound_iff
    rw [← seen_visible]
    rcases h.cases ended follows with ⟨p, raises, _⟩ | ⟨p, t', returned, _⟩
    · exact .inr ⟨p, raises.raised sendable⟩
    · exact .inl ⟨p, returned⟩
  · refine iff_of_true (iff_of_false (fun revoked => unsendable revoked.1) ?_) (.inl unsendable)
    rcases h.cases ended follows with ⟨p, raises, _⟩ | ⟨p, t', _, _, _, sendable, _⟩
    · rw [← seen_visible, raises.unseen unsendable]
      rintro ⟨a, none, _⟩
      cases none
    · exact absurd sendable unsendable

end Serving

/-- A real revocation is sound, and it is written. -/
theorem token_revokes_iff_revoked :
    let run := Sample.tokenRun Sample.grant fun _ =>
      Sample.response 400 (.ofList [("error", Json.str "invalid_grant")])
    ((∃ row', run.world.store Sample.clientId = some row' ∧ row'.token = none) ↔
        ∃ a ∈ (answers (seen run.trace)).getLast?, RevokedByProvider Sample.platform Sample.settings.fetch a) ↔
      ¬Sendable Sample.settings Sample.grant ∨ RevocationSound Sample.platform Sample.settings.fetch (seen run.trace) :=
  token_revokes_iff (Sample.refreshable rfl) (Sample.tokenRun_runs _ _) (Sample.tokenRun_follows _ _)

/-- A 401 that claims `invalid_grant` costs the client its grant. -/
theorem token_revokes_on_unauthorized :
    let run := Sample.tokenRun Sample.grant fun _ =>
      Sample.response 401 (.ofList [("error", Json.str "invalid_grant")])
    Refreshable Sample.platform Sample.request (Sample.store Sample.grant) Sample.credentials
        (Sample.row Sample.grant) Sample.grant ∧
      Runs (serve Sample.settings (token Sample.platform Sample.settings Sample.request)) run.trace run.result ∧
      Follows Store.Step (Sample.store Sample.grant) run.trace run.world.store ∧
      (∃ row', run.world.store Sample.clientId = some row' ∧ row'.token = none) ∧
      ¬∃ a ∈ (answers (seen run.trace)).getLast?, RevokedByProvider Sample.platform Sample.settings.fetch a := by
  intro run
  refine ⟨Sample.refreshable rfl, Sample.tokenRun_runs _ _, Sample.tokenRun_follows _ _, ?_, ?_⟩
  · have null : (run.world.store Sample.clientId).map (fun row => row.token.isNone) = some true := by
      decide +kernel
    obtain ⟨row', found, null⟩ := Option.map_eq_some_iff.mp null
    exact ⟨row', found, Option.isNone_iff_eq_none.mp null⟩
  · have codes : (answers (seen run.trace)).getLast?.map Upstream.statusCode? = some (some 401) := by
      decide +kernel
    rintro ⟨a, last, r, b, error, rfl, bad, _⟩
    simp [Option.mem_def.mp last, Upstream.statusCode?, bad] at codes

end OAuthClientBridge
