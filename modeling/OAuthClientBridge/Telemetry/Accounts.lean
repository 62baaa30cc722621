import OAuthClientBridge.Authorizations
import OAuthClientBridge.Custody
import OAuthClientBridge.Views.Journal

/-! The telemetry of the service accounts for its responses and for what it revoked. -/

namespace OAuthClientBridge
open Python Effect Program

/-- The response names the error, in its JSON or on its page. -/
def Names (code : String) (r : Response) : Prop :=
  (∃ p, r.body.object? = some p ∧ p["error"]? = some (.str code)) ∨
    ∃ template context, r.body = .page template context ∧ context.error = some code

/-- An error response is counted under its own status and error. The one that is counted twice is a page
that could not be given its `Retry-After`. -/
def ErrorsCounted (r : Response) (errors : List (Nat × String)) : Prop :=
  errors = [] ∧ (r.status = 200 ∨ r.status = 302) ∨
    ∃ earlier code, errors = earlier ++ [(r.status, code)] ∧ Names code r ∧ r.status ≠ 200 ∧ r.status ≠ 302 ∧
      (earlier = [] ∨ r.status = 500 ∧ ∃ code', earlier = [(503, code')])

structure Journaled {τ : Type} (P : Platform τ) (s : Settings) (req : Request) (r : Response) (b : Journal) : Prop where
  settled : b.owed = false
  errors : ErrorsCounted r b.serverErrors
  revocations : b.revocations = b.invalidations.length
  invalidations : b.invalidations = [] ∨ b.invalidations = [OAuthError.invalidGrant.value] ∧ Surfaces .invalidGrant r
  workarounds : b.workarounds = [] ∨ b.workarounds = ["revoked_grant"] ∧ b.grantAges = [] ∧ r.status = 200 ∧
    ∃ t payload, req = .token t ∧ revokedGrantWorkaround P s t.userAgent = some payload ∧ r.body = .json (.object payload)
  /-- A grant without a token is answered, and counted, with the workaround wherever there is one. -/
  substituted : b.nullReads ≠ 0 → ∃ t, req = .token t ∧
    (revokedGrantWorkaround P s t.userAgent ≠ none → b.workarounds = ["revoked_grant"])
  grantAges : b.grantAges = [] ∨ r.status = 200 ∧ ∃ createdAt, b.grantAges = [createdAt]

section
variable {τ : Type} {P : Platform τ} {s : Settings} {r : Response} {b b' : Journal}

theorem ErrorsCounted.nocache {errors : List (Nat × String)} (h : ErrorsCounted r errors) :
    ErrorsCounted (nocache r) errors := by
  unfold ErrorsCounted Names at h ⊢
  rwa [nocache_status, nocache_body]

theorem errorStatus_ne_redirect (e : OAuthError) : errorStatus e ≠ 302 := by
  unfold errorStatus
  split <;> [decide; split <;> decide]

/-- What the handlers answer to an exception of a view that counted nothing itself. -/
theorem Answered.errors_of_error {e : Exc} (answer : Answered s (.error e) b r b') (uncounted : b.serverErrors = []) :
    ErrorsCounted r b'.serverErrors := by
  cases answer with
  | @error e _ _ built =>
    rcases errorResponse_cases s e with ⟨_, r', built', status, p, body, named⟩ | ⟨_, p, failed⟩
    · obtain rfl := Except.ok.inj (built.symm.trans built')
      refine .inr ⟨[], e.error.value, by simp [Journal.errors, uncounted], .inl ⟨p, body, named⟩, ?_, ?_, .inl rfl⟩
      · rw [status]
        exact (errorStatus_ne e.error).1
      · rw [status]
        exact errorStatus_ne_redirect e.error
    · cases built.symm.trans failed
  | fallback _ _ =>
    refine .inr ⟨[], OAuthError.serverError.value, by simp [Journal.errors, uncounted, jsonify], .inl ⟨fallbackPayload, rfl, ?_⟩,
      by simp [jsonify], by simp [jsonify], .inl rfl⟩
    rfl

theorem PageError.status_ne (error : PageError) : error.status ≠ 200 ∧ error.status ≠ 302 := by
  unfold PageError.status
  split <;> [decide; split <;> decide]

theorem Answered.errors_of_page {error : PageError} {description shown : String} {state : Option String} {retryAfter : Json}
    (answer : Answered s (raised (pageAnswer s error description state retryAfter)) b r b')
    (described : error.describe description = .ok shown) (counted : b.serverErrors = [(error.status, error.code)]) :
    ErrorsCounted r b'.serverErrors := by
  generalize ended : pageAnswer s error description state retryAfter = page at answer
  obtain ⟨ne, ne'⟩ := error.status_ne
  cases page with
  | ok page =>
    cases answer with
    | answer _ _ =>
      obtain ⟨status, shown, body⟩ := pageAnswer_ok ended
      exact .inr ⟨[], error.code, by rw [counted, status, List.nil_append], .inr ⟨_, _, body, rfl⟩, status ▸ ne, status ▸ ne', .inl rfl⟩
    | fallback _ unanswered => cases unanswered
  | error p =>
    rcases pageAnswer_cases s described state retryAfter with ⟨_, page, built, _⟩ | ⟨unready, _⟩
    · cases ended.symm.trans built
    have unavailable : error.status = 503 := by
      apply PageError.status_unavailable.mpr
      by_contra other
      exact unready fun same => absurd same other
    cases answer with
    | fallback _ _ =>
      refine .inr ⟨[(503, error.code)], OAuthError.serverError.value, ?_, .inl ⟨fallbackPayload, rfl, rfl⟩, by simp [jsonify],
        by simp [jsonify], .inr ⟨rfl, error.code, rfl⟩⟩
      simp [Journal.errors, counted, unavailable, jsonify]

theorem Answered.frame {r₀ : Except Exc Response} (answer : Answered s r₀ b r b') :
    b' = { b with serverErrors := b'.serverErrors } := by
  cases answer <;> rfl

theorem Answered.ok {r₀ : Response} (answer : Answered s (.ok r₀) b r b') : r = r₀ ∧ b' = b := by
  cases answer with
  | answer _ _ => exact ⟨rfl, rfl⟩
  | fallback _ unanswered => cases unanswered

theorem Answered.response {r₀ : Except Exc Response} {r' : Response} (answer : Answered s r₀ b r b')
    (answers : answered s r₀ = .ok r') : r = r' := by
  cases answer with
  | answer _ _ => exact Except.ok.inj answers
  | error _ built =>
    rw [answered, built] at answers
    exact Except.ok.inj answers
  | fallback _ unanswered => cases unanswered.symm.trans answers

theorem PageJournal.accounted {req : Request} {r₀ : Except Exc Response} (journal : PageJournal s r₀ b)
    (answer : Answered s r₀ b r b') : Journaled P s req (nocache r) b' := by
  have errors : ErrorsCounted r b'.serverErrors := by
    cases journal with
    | raised e => exact answer.errors_of_error rfl
    | shown r₀ fine =>
      obtain ⟨rfl, rfl⟩ := answer.ok
      exact .inl ⟨rfl, fine⟩
    | error state retryAfter described => exact answer.errors_of_page described rfl
  have empty : b' = { serverErrors := b'.serverErrors } := by
    have frame := answer.frame
    cases journal <;> exact frame
  rw [empty]
  exact ⟨rfl, errors.nocache, rfl, .inl rfl, .inl rfl, fun reads => absurd rfl reads, .inl rfl⟩

theorem TokenJournal.accounted {t : TokenRequest} {r₀ : Except Exc Response} (journal : TokenJournal P s t r₀ b)
    (answer : Answered s r₀ b r b') : Journaled P s (.token t) (nocache r) b' := by
  cases journal with
  | raised e =>
    have errors := (answer.errors_of_error rfl).nocache
    rw [answer.frame]
    exact ⟨rfl, errors, rfl, .inl rfl, .inl rfl, fun reads => absurd rfl reads, .inl rfl⟩
  | refused e none =>
    have errors := (answer.errors_of_error rfl).nocache
    rw [answer.frame]
    exact ⟨rfl, errors, rfl, .inl rfl, .inl rfl, fun _ => ⟨t, rfl, absurd none⟩, .inl rfl⟩
  | workaround given =>
    obtain ⟨rfl, rfl⟩ := answer.ok
    refine ⟨rfl, .inl ⟨rfl, .inl ?_⟩, rfl, .inl rfl, .inr ⟨rfl, rfl, ?_, t, _, rfl, given, ?_⟩,
      fun _ => ⟨t, rfl, fun _ => rfl⟩, .inl rfl⟩
    · rw [nocache_status, jsonify]
    · rw [nocache_status, jsonify]
    · rw [nocache_body, jsonify]
  | served d createdAt =>
    obtain ⟨rfl, rfl⟩ := answer.ok
    have status : (nocache (jsonify 200 d)).status = 200 := by rw [nocache_status, jsonify]
    refine ⟨rfl, .inl ⟨rfl, .inl status⟩, rfl, .inl rfl, .inl rfl, fun reads => absurd rfl reads, ?_⟩
    cases createdAt with
    | none => exact .inl rfl
    | some createdAt => exact .inr ⟨status, createdAt, rfl⟩
  | revoked description uri retryAfter =>
    have errors := (answer.errors_of_error rfl).nocache
    -- The stock description of the error keeps its answer from failing.
    obtain ⟨_, r', answered, surfaces⟩ | ⟨unready, _⟩ :=
      answered_oauthError (e := .invalidGrant) rfl s description uri retryAfter
    · have same := answer.response answered
      rw [answer.frame]
      refine ⟨rfl, errors, rfl, .inr ⟨rfl, ?_⟩, .inl rfl, fun reads => absurd rfl reads, .inl rfl⟩
      simpa [Surfaces, same] using surfaces
    · exact absurd (fun unavailable => by cases unavailable) unready

/-- Every run of a request to its response, whatever its environment answered, is accounted for. -/
theorem respond_accounted {req : Request} {t : Trace (bridge P.fernet)} (run : Runs (respond P s req) t (.ok r)) :
    Journaled P s req r (t.foldl Journal.enter {}) := by
  have journals : Journals (respond P s req) (fun r₀ b => ∀ r, r₀ = .ok r → Journaled P s req r b) {} := by
    cases req with
    | authorize args =>
      apply serve_journals
      refine (authorize_journals P s args).mono (fun _ _ h => h) fun r₀ b journal r b' answer r' same => ?_
      obtain rfl := Except.ok.inj same
      exact journal.accounted answer
    | callback args =>
      apply serve_journals
      refine (callback_journals P s args).mono (fun _ _ h => h) fun r₀ b journal r b' answer r' same => ?_
      obtain rfl := Except.ok.inj same
      exact journal.accounted answer
    | token t =>
      apply serve_journals
      refine (token_journals P s t).mono (fun _ _ h => h) fun r₀ b journal r b' answer r' same => ?_
      obtain rfl := Except.ok.inj same
      exact journal.accounted answer
  exact journals.tallied run r rfl

end

namespace Sample

def invalidGrant : Upstream := response 400 (.ofList [("error", Json.str "invalid_grant")])

def revoked : Pool.Config (bridge platform.fernet) Exc Response (Store Sealed) Bool :=
  let run := tokenRun grant fun _ => invalidGrant
  (service platform settings (store grant) requests).advance true run.world.store run.trace (Program.ofExcept run.result)

end Sample

end OAuthClientBridge
