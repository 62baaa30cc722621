import OAuthClientBridge.Revocation

/-!
The two views act on the object that `fetch` returned, and derive success from the absence of an
`error` member; `fetch` classified the status together with the body. When the two agree.
-/

namespace OAuthClientBridge
open Python Effect Program

/-- A response that ends the retries, with the object that is its body. -/
structure FinalObject (s : FetchSettings) (r : UpstreamResponse) (status : HTTPStatus) (b : Payload) : Prop where
  code : r.statusCode = status.code
  final : status ∉ s.retryStatusCodes
  body : r.body = .document (.object b)

section
variable {τ : Type} (P : Platform τ) (s : FetchSettings) (status : HTTPStatus) (b : Payload)

/-- A response that hands out a token. -/
def Successful : Prop := status.isSuccess = true ∧ validateToken b = true

/-- The error that `token_endpoint_outcome` finds, or what the view puts in its place. -/
def classifiedError : OAuthError := (objectOutcome P s status b).normalizedError.getD .serverError

/-- `/token` answers as the classification says. -/
structure TokenAgrees (response : Response) : Prop where
  token : HandsOut response ↔ Successful status b
  error : ¬Successful status b → Surfaces (classifiedError P s status b) response

/-- A new row is stored. -/
def Stored (σ σ' : Store τ) : Prop := ∃ id row, σ id = none ∧ σ' id = some row

/-- `/callback` stores as the classification says. -/
structure CallbackAgrees (σ σ' : Store τ) : Prop where
  stored : Stored σ σ' ↔ Successful status b
  untouched : ¬Successful status b → σ' = σ

/-- The error that the view derives from an `error` member: it takes the status to be 400. -/
def viewError (error : Json) : OAuthError :=
  if .badRequest ∈ s.retryStatusCodes then .temporarilyUnavailable else normalizeTokenError P s error .serverError

def fallbackError : OAuthError := if status.isSuccess then .invalidRequest else .serverError

/-- The views see what `fetch` saw. An error comes without a valid token under a success status,
and means the same under the status that the view takes it to have; without an error, the status
is one of success. -/
def Agreement (retryAfter : Except PyError Nat) : Prop :=
  measure P (b.getOrNull "error") = .ok () ∧ ∃ n, retryAfter = .ok n ∧
    match b["error"]? with
    | some error => ¬Successful status b ∧
        viewError P s error = normalizeTokenError P s error (fallbackError status) ∧
        (viewError P s error = .temporarilyUnavailable → n ≠ 0 ∨ HeaderReady (b.getOrNull "retry_after"))
    | none => status.isSuccess = true ∧ (validateToken b = true ∨
        normalizeTokenError P s (.str OAuthError.invalidRequest.value) .invalidRequest = .invalidRequest)

end

variable {τ : Type} {P : Platform τ}

theorem validateToken_congr {p q : Payload} (access : p["access_token"]? = q["access_token"]?)
    (type : p["token_type"]? = q["token_type"]?) : validateToken p = validateToken q := by
  simp [validateToken, Payload.getOrNull, access, type]

section Fetched
variable {s : FetchSettings} {r : UpstreamResponse} {status : HTTPStatus} {b : Payload} {l : List Seen}

theorem withRetryAfter_validateToken (n : Nat) (b : Payload) :
    validateToken (withRetryAfter n b) = validateToken b :=
  validateToken_congr (withRetryAfter_getElem? n b (by decide)) (withRetryAfter_getElem? n b (by decide))

theorem withRetryAfter_contains_error (n : Nat) (b : Payload) :
    (withRetryAfter n b).contains "error" = b["error"]?.isSome := by
  rw [Std.ExtTreeMap.contains_eq_isSome_getElem?, withRetryAfter_getElem? n b (by decide)]

theorem withRetryAfter_ready (n : Nat) {b : Payload} (failed : b["error"]?.isSome) :
    HeaderReady ((withRetryAfter n b).getOrNull "retry_after") ↔ n ≠ 0 ∨ HeaderReady (b.getOrNull "retry_after") := by
  have failed : b.contains "error" = true := by rwa [Std.ExtTreeMap.contains_eq_isSome_getElem?]
  unfold withRetryAfter
  by_cases wait : n = 0
  · simp [wait]
  · simp [failed, wait, HeaderReady, Json.toInt]

theorem FinalObject.retried (h : FinalObject s r status b) : (Upstream.response r).retried s = false := by
  have code : (Upstream.response r).statusCode? = (some status).map HTTPStatus.code := by
    simp [Upstream.statusCode?, h.code]
  simp [Upstream.retried_eq rfl code, h.final]

theorem FinalObject.document (h : FinalObject s r status b) : (Upstream.response r).document s = .object b := by
  simp [Upstream.document, h.body]

theorem FinalObject.digestible (h : FinalObject s r status b)
    (readable : ∃ n, (Upstream.response r).retryAfter = .ok n) (measured : measure P (b.getOrNull "error") = .ok ()) :
    Digestible P s (.response r) where
  returned := rfl
  known := by simp [Upstream.statusCode?, h.code, status.known]
  readable := readable
  isObject := ⟨b, h.document⟩
  scalar := by simp [h.retried]
  measured _ b' object := by
    cases h.document.symm.trans object
    exact measured

theorem FinalObject.returned {p : Payload} (h : FinalObject s r status b) (returned : Returned P s l p)
    (last : (answers l).getLast? = some (.response r)) :
    measure P (b.getOrNull "error") = .ok () ∧
      ∃ n, (Upstream.response r).retryAfter = .ok n ∧ p = withRetryAfter n b := by
  have ends := returned.last.2
  rw [last] at ends
  obtain ⟨digestible, b', n, object, readable, rfl⟩ := ends
  cases h.document.symm.trans object
  exact ⟨digestible.measured h.retried b object, n, readable, by simp [Upstream.outcome, h.retried]⟩

theorem FinalObject.raised {p : PyError} (h : FinalObject s r status b) (raises : Raised P s l p)
    (last : (answers l).getLast? = some (.response r)) :
    ¬(measure P (b.getOrNull "error") = .ok () ∧ ∃ n, (Upstream.response r).retryAfter = .ok n) := by
  rcases raises.last with ⟨_, retried⟩ | ⟨_, a, ha, indigestible⟩
  · simpa [h.retried] using (retried _ last).2
  · obtain rfl := Option.some.inj (last.symm.trans ha)
    exact fun ⟨measured, readable⟩ => indigestible (h.digestible readable measured)

end Fetched

section Errors
variable {s : FetchSettings} {status : HTTPStatus} {b : Payload}

theorem classifiedError_of_error {error : Json} (final : status ∉ s.retryStatusCodes)
    (present : b["error"]? = some error) (failed : ¬Successful status b) :
    classifiedError P s status b = normalizeTokenError P s error (fallbackError status) := by
  unfold classifiedError objectOutcome fallbackError
  rw [if_neg final]
  cases success : status.isSuccess with
  | false => simp [present]
  | true =>
    have invalid : validateToken b = false := by simpa [Successful, success] using failed
    simp [invalid, present]

theorem classifiedError_of_invalid (final : status ∉ s.retryStatusCodes) (absent : b["error"]? = none)
    (success : status.isSuccess = true) (invalid : validateToken b = false) : classifiedError P s status b =
      normalizeTokenError P s (.str OAuthError.invalidRequest.value) .invalidRequest := by
  simp [classifiedError, objectOutcome, final, absent, success, invalid]

theorem classifiedError_of_failure (final : status ∉ s.retryStatusCodes) (absent : b["error"]? = none)
    (failure : status.isSuccess = false) : classifiedError P s status b = .serverError := by
  simp [classifiedError, objectOutcome, final, absent, failure]

theorem secondOutcome_error {s : Settings} {p : Payload} {error : Json} (present : p["error"]? = some error) :
    (secondOutcome P s p).normalizedError.getD .serverError = viewError P s.fetch error := by
  have contains : p.contains "error" = true := by simp [Std.ExtTreeMap.contains_eq_isSome_getElem?, present]
  have notSuccess : HTTPStatus.badRequest.isSuccess = false := by decide
  unfold secondOutcome objectOutcome assumedStatus viewError
  rw [if_pos contains]
  by_cases retry : HTTPStatus.badRequest ∈ s.fetch.retryStatusCodes <;> simp [retry, notSuccess, present]

theorem viewError_described (error : Json) : (viewError P s error).description?.isSome := by
  unfold viewError
  split
  · decide
  · exact tokenErrors_described _ (normalizeTokenError_mem P s error (by decide))

end Errors

/-! ### `/token` -/

section Token
variable {s : Settings} {c : ClientCredentials P.fernet} {stored p : Payload} {t : Trace (bridge P.fernet)}
  {r₀ : Except Exc Response}

theorem validateToken_refreshedToken (stored refreshed : Payload) :
    validateToken (refreshedToken stored refreshed) = validateToken refreshed := by
  have kept : ∀ key, key ≠ "scope" → key ≠ "refresh_token" →
      (refreshedToken stored refreshed)[key]? = refreshed[key]? := by
    intro key notScope notRefresh
    unfold refreshedToken
    dsimp only
    split <;> simp [Std.ExtTreeMap.getElem?_erase, Std.ExtTreeMap.getElem?_insert, notScope.symm, notRefresh.symm]
  exact validateToken_congr (kept _ (by decide) (by decide)) (kept _ (by decide) (by decide))

theorem Refreshed.handsOut_iff (h : Refreshed P s c stored p t r₀) : HandsOut (served s r₀) ↔ Accepted p := by
  cases h with
  | revoked _ _ failed _ | failed failed _ =>
    exact iff_of_false (served_error_not_handsOut s _) (by simp [Accepted, failed])
  | invalid noError invalid =>
    exact iff_of_false (served_error_not_handsOut s _) (by simp [Accepted, invalid])
  | unchanged accepted _ | updated _ _ _ accepted _ =>
    refine iff_of_true ?_ accepted
    exact ⟨by simp [served, answered, jsonify], refreshedToken stored p,
      by simp [served, answered, jsonify, ResponseBody.object?], (validateToken_refreshedToken stored p).trans accepted.2⟩

theorem Refreshed.surfaces_iff {error : Json} (h : Refreshed P s c stored p t r₀) (present : p["error"]? = some error)
    (e : OAuthError) : Surfaces e (served s r₀) ↔ e = viewError P s.fetch error ∧
      (viewError P s.fetch error = .temporarilyUnavailable → HeaderReady (p.getOrNull "retry_after")) := by
  have contains : p.contains "error" = true := by simp [Std.ExtTreeMap.contains_eq_isSome_getElem?, present]
  have answer : r₀ = .error (refreshError P s p) := by
    cases h with
    | revoked _ _ _ _ | failed _ _ => rfl
    | invalid noError _ => simp [contains] at noError
    | unchanged accepted _ | updated _ _ _ accepted _ => simp [Accepted, contains] at accepted
  rw [answer, refreshError, secondOutcome_error present]
  exact served_surfaces (viewError_described error) s _ _ _

theorem Refreshed.surfaces_invalid (h : Refreshed P s c stored p t r₀) (absent : p["error"]? = none)
    (invalid : validateToken p = false) : Surfaces .invalidRequest (served s r₀) := by
  have contains : p.contains "error" = false := by simp [Std.ExtTreeMap.contains_eq_isSome_getElem?, absent]
  cases h with
  | revoked _ _ failed _ | failed failed _ => simp [contains] at failed
  | unchanged accepted _ | updated _ _ _ accepted _ => simp [invalid, Accepted] at accepted
  | invalid _ _ => exact (served_surfaces (by decide) s _ _ _).mpr ⟨rfl, nofun⟩

theorem tokenAgrees_iff {req : TokenRequest} {σ σ' : Store τ} {row : Row τ} {r : UpstreamResponse}
    {status : HTTPStatus} {b : Payload} {response : Response} (h : Refreshable P req σ c row stored)
    (object : FinalObject s.fetch r status b) (run : Runs (serve s (token P s req)) t (.ok response))
    (follows : Follows Store.Step σ t σ') (last : (answers (seen t)).getLast? = some (.response r)) :
    TokenAgrees P s.fetch status b response ↔
      Agreement P s.fetch status b (Upstream.response r).retryAfter := by
  obtain ⟨r₀, ended, answer⟩ := (serve_ensures s (token_ensures P s req)).runs run
  obtain rfl := Except.ok.inj answer
  rw [← seen_visible] at last
  obtain ⟨p, raises, _, rfl⟩ | ⟨p, t', returned, ends, _⟩ := h.cases ended (Store.follows_visible follows)
  · have unreadable := object.raised (raises.asked fun none => by simp [none] at last) last
    refine iff_of_false (fun agrees => ?_) (fun ⟨measured, n, readable, _⟩ => unreadable ⟨measured, n, readable⟩)
    by_cases success : Successful status b
    · exact served_error_not_handsOut s _ (agrees.token.mpr success)
    · exact served_python_not_surfaces s p _ (agrees.error success)
  obtain ⟨measured, n, readable, rfl⟩ := object.returned returned last
  have accepts := ends.handsOut_iff
  rw [Accepted, withRetryAfter_contains_error, withRetryAfter_validateToken] at accepts
  unfold Agreement
  simp only [measured, true_and, readable, Except.ok.injEq, exists_eq_left']
  have member := withRetryAfter_getElem? n b (show "retry_after" ≠ "error" by decide)
  -- With an `error` the view surfaces it under the status 400; without one the token decides.
  cases he : b["error"]? with
  | some error =>
    have surfaces := fun e => ends.surfaces_iff (member.trans he) e
    have refused : ¬HandsOut (served s r₀) := by simp [accepts, he]
    simp only [withRetryAfter_ready n (show b["error"]?.isSome by simp [he])] at surfaces
    constructor
    · rintro ⟨token, error'⟩
      have failed : ¬Successful status b := fun success => refused (token.mpr success)
      have shown := (surfaces _).mp (error' failed)
      rw [classifiedError_of_error object.final he failed] at shown
      exact ⟨failed, shown.1.symm, shown.2⟩
    · rintro ⟨failed, same, ready⟩
      refine ⟨iff_of_false refused failed, fun _ => (surfaces _).mpr ⟨?_, ready⟩⟩
      rw [classifiedError_of_error object.final he failed, same]
  | none =>
    have accepts : HandsOut (served s r₀) ↔ validateToken b = true := by simpa [he] using accepts
    cases valid : validateToken b with
    | true =>
      have out := accepts.mpr valid
      refine ⟨fun agrees => ⟨(agrees.token.mp out).1, .inl rfl⟩, fun ⟨success, _⟩ => ?_⟩
      exact ⟨iff_of_true out ⟨success, valid⟩, fun failed => absurd ⟨success, valid⟩ failed⟩
    | false =>
      have refused : ¬HandsOut (served s r₀) := by simp [accepts, valid]
      have failed : ¬Successful status b := by simp [Successful, valid]
      have shown := ends.surfaces_invalid (member.trans he) ((withRetryAfter_validateToken n b).trans valid)
      have agrees : TokenAgrees P s.fetch status b (served s r₀) ↔
          classifiedError P s.fetch status b = .invalidRequest := by
        refine ⟨fun agrees => shown.unique (agrees.error failed), fun same => ?_⟩
        exact ⟨iff_of_false refused failed, fun _ => same ▸ shown⟩
      rw [agrees]
      cases success : status.isSuccess with
      | true => simp [classifiedError_of_invalid object.final he success valid]
      | false => simp [classifiedError_of_failure object.final he success]

end Token

/-! ### `/callback` -/

section Callback
variable {F : Fernet τ} {s : Settings} {args : List (String × String)} {σ σ' : Store τ} {u : Trace (bridge F)}
  {r : UpstreamResponse} {status : HTTPStatus} {b : Payload} {result : Except Exc Response}

theorem exchangeError_withRetryAfter (n : Nat) (b : Payload) : exchangeError s (withRetryAfter n b) = .ok none ↔
    b["error"]? = none ∧ validateToken b = true := by
  have member := withRetryAfter_getElem? n b (show "retry_after" ≠ "error" by decide)
  cases he : b["error"]? with
  | none =>
    rw [exchangeError_of_noError (member.trans he), withRetryAfter_validateToken]
    cases validateToken b <;> simp
  | some error =>
    obtain ⟨_, raises⟩ | ⟨_, e, text, _, _, fails⟩ := exchangeError_of_error (s := s) (member.trans he) <;> simp [*]

def insertRefused : Event (bridge F) → Bool
  | ⟨.insert _ _ _, .integrityError⟩ => true
  | _ => false

/-- A readable answer with a valid token and without an error. -/
def StoresObject (r : UpstreamResponse) (b : Payload) : Prop :=
  (∃ n, (Upstream.response r).retryAfter = .ok n) ∧ b["error"]? = none ∧ validateToken b = true

theorem stored_iff (object : FinalObject s.fetch r status b)
    (run : Runs (serve s (callback P s args) : Action F Response) u result)
    (follows : Follows Store.Step σ u σ') (last : (answers (seen u)).getLast? = some (.response r))
    (written : u.any insertRefused = false) :
    (Stored σ σ' ↔ StoresObject r b) ∧ (¬StoresObject r b → σ' = σ) := by
  have unstored : ¬Stored σ σ := by
    rintro ⟨id, row, missing, found⟩
    cases missing.symm.trans found
  have kept : σ' = σ → ¬StoresObject r b → (Stored σ σ' ↔ StoresObject r b) ∧ (¬StoresObject r b → σ' = σ) := by
    rintro rfl rejected
    exact ⟨iff_of_false unstored rejected, fun _ => rfl⟩
  obtain ⟨r₀, ended, answer⟩ := (serve_ensures s (callback_ensures P s args)).runs run
  rw [← seen_visible] at last
  have asked : answers (seen (visible Op.silent u)) ≠ [] := by
    intro none
    simp [none] at last
  cases ended.ends (Store.follows_visible follows) asked with
  | raised raises =>
    refine kept rfl fun ⟨readable, noError, _⟩ => object.raised raises last ⟨measure_hashable ?_, readable⟩
    simp [Payload.getOrNull, noError, Json.hashable]
  | unreadable returned fails | failed _ returned fails =>
    obtain ⟨_, n, _, rfl⟩ := object.returned returned last
    refine kept rfl fun accepted => ?_
    cases fails.symm.trans ((exchangeError_withRetryAfter n b).mpr accepted.2)
  | issued _ id secret nonce now returned exchanged fresh =>
    obtain ⟨_, n, readable, rfl⟩ := object.returned returned last
    have accepted : StoresObject r b := ⟨⟨n, readable⟩, (exchangeError_withRetryAfter n b).mp exchanged⟩
    exact ⟨iff_of_true ⟨id, _, fresh, Store.write_self _ _ _⟩ accepted, fun rejected => absurd accepted rejected⟩
  | taken _ id token now _ _ refused =>
    have found : u.any insertRefused = true := List.any_eq_true.mpr ⟨_, List.mem_of_mem_filter refused, rfl⟩
    cases found.symm.trans written

theorem Agreement.callbackAgrees (agreement : Agreement P s.fetch status b (Upstream.response r).retryAfter)
    (object : FinalObject s.fetch r status b)
    (run : Runs (serve s (callback P s args) : Action F Response) u result)
    (follows : Follows Store.Step σ u σ') (last : (answers (seen u)).getLast? = some (.response r))
    (written : u.any insertRefused = false) :
    CallbackAgrees status b σ σ' := by
  obtain ⟨stored, untouched⟩ := stored_iff object run follows last written
  suffices accepted : StoresObject r b ↔ Successful status b from
    ⟨stored.trans accepted, fun failed => untouched (mt accepted.mp failed)⟩
  obtain ⟨_, n, readable, agreement⟩ := agreement
  cases he : b["error"]? with
  | none =>
    simp only [he] at agreement
    simp [StoresObject, Successful, readable, he, agreement.1]
  | some error =>
    simp only [he] at agreement
    exact iff_of_false (by simp [StoresObject, he]) agreement.1

end Callback

/-- Both views act on the classification of `fetch`, exactly under `Agreement`. -/
theorem views_agree_iff {s : Settings} {req : TokenRequest} {args : List (String × String)}
    {r : UpstreamResponse} {status : HTTPStatus} {b : Payload} (object : FinalObject s.fetch r status b)
    {σ σ' : Store τ} {c : ClientCredentials P.fernet} {row : Row τ} {stored : Payload} {t : Trace (bridge P.fernet)}
    {response : Response} (h : Refreshable P req σ c row stored)
    (refresh : Runs (serve s (token P s req)) t (.ok response)) (follows : Follows Store.Step σ t σ')
    (last : (answers (seen t)).getLast? = some (.response r))
    {ρ ρ' : Store τ} {u : Trace (bridge P.fernet)} {result : Except Exc Response}
    (exchange : Runs (serve s (callback P s args)) u result) (follows' : Follows Store.Step ρ u ρ')
    (last' : (answers (seen u)).getLast? = some (.response r))
    (written : u.any insertRefused = false) :
    TokenAgrees P s.fetch status b response ∧ CallbackAgrees status b ρ ρ' ↔
      Agreement P s.fetch status b (Upstream.response r).retryAfter := by
  have agrees := tokenAgrees_iff h object refresh follows last
  refine ⟨fun both => agrees.mp both.1, fun agreement => ⟨agrees.mpr agreement, ?_⟩⟩
  exact agreement.callbackAgrees object exchange follows' last' written

namespace Sample

def accessToken : Payload := .ofList [("access_token", Json.str "access"), ("token_type", Json.str "Bearer")]

theorem finalObject (status : HTTPStatus) (b : Payload) (final : status ∉ settings.fetch.retryStatusCodes) :
    FinalObject settings.fetch { statusCode := status.code, body := .document (.object b) } status b :=
  ⟨rfl, final, rfl⟩

end Sample

/-- A 200 with a token, served by both views. -/
theorem views_agree_iff_ok :
    let refresh := Sample.tokenRun Sample.grant fun _ => Sample.response 200 Sample.accessToken
    let exchange := Sample.callbackRun fun _ => Sample.response 200 Sample.accessToken
    ∃ response, refresh.result = .ok response ∧
      (TokenAgrees Sample.platform Sample.settings.fetch .ok Sample.accessToken response ∧
          CallbackAgrees .ok Sample.accessToken (fun _ => none) exchange.world.store ↔
        Agreement Sample.platform Sample.settings.fetch .ok Sample.accessToken
          (Sample.response 200 Sample.accessToken).retryAfter) := by
  intro refresh exchange
  obtain ⟨response, answer⟩ := Sample.tokenRun_result Sample.grant fun _ => Sample.response 200 Sample.accessToken
  refine ⟨response, answer, views_agree_iff (Sample.finalObject .ok _ (by decide)) (Sample.refreshable rfl)
    (answer ▸ Sample.tokenRun_runs _ _) (Sample.tokenRun_follows _ _) (World.eval_last rfl (by decide +kernel))
    (Sample.callbackRun_runs _) (Sample.callbackRun_follows _) (World.eval_last rfl (by decide +kernel))
    (by decide +kernel)⟩

/-- A 400 whose body is a token without an error counts as a success for both views. -/
theorem views_disagree_on_bad_request :
    let refresh := Sample.tokenRun Sample.grant fun _ => Sample.response 400 Sample.accessToken
    let exchange := Sample.callbackRun fun _ => Sample.response 400 Sample.accessToken
    FinalObject Sample.settings.fetch { statusCode := 400, body := .document (.object Sample.accessToken) }
        .badRequest Sample.accessToken ∧
      Refreshable Sample.platform Sample.request (Sample.store Sample.grant) Sample.credentials
        (Sample.row Sample.grant) Sample.grant ∧
      Follows Store.Step (Sample.store Sample.grant) refresh.trace refresh.world.store ∧
      (answers (seen refresh.trace)).getLast? = some (Sample.response 400 Sample.accessToken) ∧
      Runs (serve Sample.settings (callback Sample.platform Sample.settings Sample.arguments))
        exchange.trace exchange.result ∧
      Follows Store.Step (fun _ => none) exchange.trace exchange.world.store ∧
      (answers (seen exchange.trace)).getLast? = some (Sample.response 400 Sample.accessToken) ∧
      exchange.trace.any insertRefused = false ∧
      ∃ response, Runs (serve Sample.settings (token Sample.platform Sample.settings Sample.request))
          refresh.trace (.ok response) ∧
        ¬TokenAgrees Sample.platform Sample.settings.fetch .badRequest Sample.accessToken response ∧
        ¬CallbackAgrees .badRequest Sample.accessToken (fun _ => none) exchange.world.store := by
  intro refresh exchange
  have failed : ¬Successful .badRequest Sample.accessToken := by simp [Successful, HTTPStatus.badRequest, HTTPStatus.isSuccess]
  refine ⟨Sample.finalObject .badRequest _ (by decide), Sample.refreshable rfl, Sample.tokenRun_follows _ _,
    World.eval_last rfl (by decide +kernel), Sample.callbackRun_runs _, Sample.callbackRun_follows _,
    World.eval_last rfl (by decide +kernel), by decide +kernel, ?_⟩
  obtain ⟨response, answer⟩ := Sample.tokenRun_result Sample.grant fun _ => Sample.response 400 Sample.accessToken
  refine ⟨response, answer ▸ Sample.tokenRun_runs _ _, fun agrees => ?_, fun agrees => ?_⟩
  · have out : refresh.result.toOption.any (fun r => decide (HandsOut r)) = true := by decide +kernel
    rw [show refresh.result = .ok response from answer] at out
    exact failed (agrees.token.mp (of_decide_eq_true out))
  · have row : (exchange.world.store Sample.clientId).isSome = true := by decide +kernel
    simp [agrees.untouched failed] at row

end OAuthClientBridge
