import OAuthClientBridge.Robustness

/-!
Where the `Retry-After` of a response comes from. The wait of the last answer travels in the object
that `fetch` returns, next to whatever members the provider put there.
-/

namespace OAuthClientBridge
open Python Effect Program

/-! ### The header of a response -/

def Response.retryAfter? (r : Response) : Option String := r.headers.lookup "Retry-After"

/-- The response that leaves the application, by the end of the handled view. -/
def leaving (r : Except Exc Response) : Response :=
  nocache (match r with
    | .ok response => response
    | .error _ => jsonify 500 (.object fallbackPayload))

/-- The answer of either view for `temporarily_unavailable`. -/
def ShowsUnavailable (r : Response) : Prop :=
  Surfaces .temporarilyUnavailable r ∨ ShowsError .temporarilyUnavailable r

/-- The last answer asked for a wait of `n` seconds. -/
def Asks (l : List Seen) (n : Nat) : Prop := ∃ a, (answers l).getLast? = some a ∧ a.retryAfter = .ok n ∧ 0 < n

theorem withHeader_retryAfter {r : Response} (bare : r.retryAfter? = none) (name value : String) :
    (r.withHeader name value).retryAfter? = if name = "Retry-After" then some value else none := by
  unfold Response.retryAfter? at *
  by_cases same : "Retry-After" = name
  · subst same
    simp [Response.withHeader, List.lookup_append, bare]
  · simp [Response.withHeader, List.lookup_append, bare, List.lookup_cons, beq_false_of_ne same, Ne.symm same]

theorem nocache_retryAfter (r : Response) : (nocache r).retryAfter? = r.retryAfter? := by
  unfold nocache
  split
  · rfl
  · simp [Response.retryAfter?, Response.withHeader, List.lookup_append, List.lookup_cons]

theorem render_retryAfter (s : Settings) (status : Nat) (context : PageVariables) :
    (render s status context).retryAfter? = none := by
  unfold render securityHeaders Response.retryAfter?
  dsimp only
  split <;> simp [List.lookup_cons]

theorem nocache_showsUnavailable (r : Response) : ShowsUnavailable (nocache r) ↔ ShowsUnavailable r := by
  simp [ShowsUnavailable, Surfaces, ShowsError]

/-! ### What `fetch` returned -/

/-- A final answer asks for no wait, but its body has a `retry_after` of its own next to an error
that the view shows as `temporarily_unavailable`. -/
def Forged {τ : Type} (P : Platform τ) (s : FetchSettings) (l : List Seen) (shows : Json → Except PyError OAuthError) : Prop :=
  ∃ a b error, (answers l).getLast? = some a ∧ Digestible P s a ∧ a.retried s = false ∧ a.document s = .object b ∧
    b["error"]? = some error ∧ shows error = .ok .temporarilyUnavailable ∧ a.retryAfter = .ok 0 ∧
    b.getOrNull "retry_after" ≠ .null

section Exchange
variable {τ : Type} {P : Platform τ} {s : FetchSettings} {l : List Seen} {p : Payload}
  {shows : Json → Except PyError OAuthError}

theorem withRetryAfter_wait (n : Nat) {b : Payload} (failed : b["error"]?.isSome) :
    (withRetryAfter n b).getOrNull "retry_after" = if n = 0 then b.getOrNull "retry_after" else .int n := by
  have failed : b.contains "error" = true := by rwa [Std.ExtTreeMap.contains_eq_isSome_getElem?]
  unfold withRetryAfter
  by_cases wait : n = 0 <;> simp [wait, failed]

theorem Returned.forged_iff (h : Returned P s l p) {error : Json} (present : p["error"]? = some error)
    (unavailable : shows error = .ok .temporarilyUnavailable) :
    (Forged P s l shows ∧ p.getOrNull "retry_after" ≠ .null ∧ ∀ n, ¬Asks l n) ∨
      ¬Forged P s l shows ∧ (p.getOrNull "retry_after" = .null ∨
        ∃ n : Nat, p.getOrNull "retry_after" = .int n ∧ Asks l n) := by
  have last := h.last.2
  cases ha : (answers l).getLast? with
  | none =>
    rw [ha] at last
    subst last
    exact .inr ⟨fun ⟨_, _, _, last, _⟩ => by simp [ha] at last, .inl rfl⟩
  | some a =>
    rw [ha] at last
    obtain ⟨digestible, b, n, object, readable, rfl⟩ := last
    have member := withRetryAfter_getElem? n (a.outcome s b) (show "retry_after" ≠ "error" by decide)
    have wait := withRetryAfter_wait n (b := a.outcome s b) (by rw [← member, present, Option.isSome_some])
    rw [wait]
    -- `fetch` overwrites the member only when it has seconds to tell.
    by_cases positive : n = 0
    swap
    · refine .inr ⟨?_, .inr ⟨n, by rw [if_neg positive], a, ha, readable, Nat.pos_of_ne_zero positive⟩⟩
      rintro ⟨a', _, _, last, _, _, _, _, _, zero, _⟩
      obtain rfl := Option.some.inj (ha.symm.trans last)
      exact positive (Except.ok.inj (readable.symm.trans zero))
    subst positive
    rw [if_pos rfl]
    have unasked : ∀ n, ¬Asks l n := by
      rintro n ⟨a', last, asked, positive⟩
      obtain rfl := Option.some.inj (ha.symm.trans last)
      obtain rfl := Except.ok.inj (readable.symm.trans asked)
      exact Nat.lt_irrefl 0 positive
    cases final : a.retried s with
    | true =>
      refine .inr ⟨?_, .inl ?_⟩
      · rintro ⟨a', _, _, last, _, final', _⟩
        obtain rfl := Option.some.inj (ha.symm.trans last)
        cases final.symm.trans final'
      · rw [Upstream.outcome, if_pos final]
        rfl
    | false =>
      have same : a.outcome s b = b := by simp [Upstream.outcome, final]
      rw [same] at member present ⊢
      by_cases null : b.getOrNull "retry_after" = .null
      · refine .inr ⟨?_, .inl null⟩
        rintro ⟨a', b', _, last, _, _, object', _, _, _, own⟩
        obtain rfl := Option.some.inj (ha.symm.trans last)
        cases object.symm.trans object'
        exact own null
      · exact .inl ⟨⟨a, b, error, ha, digestible, final, object, member.symm.trans present, unavailable, readable, null⟩,
          null, unasked⟩

theorem Returned.not_forged (h : Returned P s l p)
    (available : ∀ error ∈ p["error"]?, shows error ≠ .ok .temporarilyUnavailable) : ¬Forged P s l shows := by
  rintro ⟨a, b, error, last, _, final, object, present, unavailable, _⟩
  have returned := h.last.2
  rw [last] at returned
  obtain ⟨_, b', n, object', _, rfl⟩ := returned
  cases object.symm.trans object'
  refine available error ?_ unavailable
  rw [withRetryAfter_getElem? n _ (by decide), Upstream.outcome, if_neg (by simp [final])]
  exact present

theorem Raised.not_forged {e : PyError} (h : Raised P s l e) : ¬Forged P s l shows := by
  rintro ⟨a, _, _, last, digestible, final, _⟩
  rcases h.last with ⟨_, retried⟩ | ⟨_, a', last', indigestible⟩
  · cases (retried a last).2.symm.trans final
  · obtain rfl := Option.some.inj (last.symm.trans last')
    exact indigestible digestible

end Exchange

/-! ### The two renderers -/

/-- The header is that of a `temporarily_unavailable` answer, and says what the last answer asked for;
and once `fetch` has returned an error that the view can normalise, the response is built. -/
structure Provenance {τ : Type} (P : Platform τ) (s : FetchSettings) (shows : Json → Except PyError OAuthError)
    (l : List Seen) (r : Except Exc Response) : Prop where
  header : ∀ v, (leaving r).retryAfter? = some v →
    (leaving r).status = 503 ∧ ShowsUnavailable (leaving r) ∧ ∃ n : Nat, Asks l n ∧ v = toString (n : Int)
  built : answers l ≠ [] → ∀ p, Returned P s l p → (∀ error ∈ p["error"]?, ∃ e, shows error = .ok e) →
    ∃ response, r = .ok response

section Renderers
variable {τ : Type} {P : Platform τ} {s : FetchSettings} {l : List Seen} {p : Payload}
  {shows : Json → Except PyError OAuthError} {r : Except Exc Response}

/-- An answer for an error: a page without the header, to which it is added for `temporarily_unavailable`. -/
def Rendered (unavailable : Prop) (retryAfter : Json) (r : Except Exc Response) : Prop :=
  ∃ page : Response, page.retryAfter? = none ∧
    (unavailable ∧ ShowsUnavailable page ∧ r = raised (setRetryAfter page retryAfter) ∨ ¬unavailable ∧ r = .ok page)

theorem leaving_none {page : Response} (bare : page.retryAfter? = none) :
    (leaving (.ok page)).retryAfter? = none := (nocache_retryAfter page).trans bare

theorem leaving_error (e : Exc) : (leaving (.error e)).retryAfter? = none := rfl

theorem Provenance.of_none {page : Response} (bare : page.retryAfter? = none) : Provenance P s shows l (.ok page) where
  header v held := by cases (leaving_none bare).symm.trans held
  built _ _ _ _ := ⟨page, rfl⟩

theorem Rendered.quiet {unavailable : Prop} (h : Rendered unavailable .null r) : Provenance P s shows l r := by
  obtain ⟨page, bare, ⟨_, _, rfl⟩ | ⟨_, rfl⟩⟩ := h <;> exact .of_none bare

theorem ShowsUnavailable.status {r : Response} (h : ShowsUnavailable r) : r.status = 503 := by
  obtain h | h := h <;> exact h.1

theorem Rendered.provenance_iff {unavailable : Prop} (h : Rendered unavailable (p.getOrNull "retry_after") r)
    (returned : Returned P s l p) {error : Json} (present : p["error"]? = some error)
    (shown : unavailable ↔ shows error = .ok .temporarilyUnavailable) :
    Provenance P s shows l r ↔ ¬Forged P s l shows := by
  obtain ⟨page, bare, ⟨now, names, rfl⟩ | ⟨available, rfl⟩⟩ := h
  swap
  · refine iff_of_true (.of_none bare) (returned.not_forged fun error' present' => ?_)
    obtain rfl := Option.some.inj (present.symm.trans present')
    exact mt shown.mpr available
  rcases returned.forged_iff present (shown.mp now) with ⟨forged, own, unasked⟩ | ⟨genuine, null | ⟨n, wait, asked⟩⟩
  · refine iff_of_false (fun provenance => ?_) (not_not.mpr forged)
    rw [setRetryAfter_of_ne own] at provenance
    cases value : (p.getOrNull "retry_after").toInt with
    | ok m =>
      rw [value] at provenance
      obtain ⟨_, _, n, asked, _⟩ := provenance.header (toString m) (by
        rw [except_map_ok, raised_ok, leaving, nocache_retryAfter, withHeader_retryAfter bare, if_pos rfl])
      exact unasked n asked
    | error e =>
      rw [value] at provenance
      obtain ⟨a, _, _, last, _⟩ := forged
      have met : answers l ≠ [] := by
        intro nil
        simp [nil] at last
      obtain ⟨response, built⟩ := provenance.built met p returned fun error' present' => by
        obtain rfl := Option.some.inj (present.symm.trans present')
        exact ⟨_, shown.mp now⟩
      cases built
  · rw [null]
    exact iff_of_true (.of_none bare) genuine
  · refine iff_of_true ?_ genuine
    have set : raised (setRetryAfter page (p.getOrNull "retry_after")) =
        .ok (page.withHeader "Retry-After" (toString (n : Int))) := by
      rw [wait]
      rfl
    have shows : ShowsUnavailable (leaving (.ok (page.withHeader "Retry-After" (toString (n : Int))))) :=
      (nocache_showsUnavailable _).mpr names
    rw [set]
    refine ⟨fun v held => ⟨shows.status, shows, n, asked, ?_⟩, fun _ _ _ _ => ⟨_, rfl⟩⟩
    rw [leaving, nocache_retryAfter, withHeader_retryAfter bare, if_pos rfl] at held
    exact (Option.some.inj held).symm

theorem Provenance.unasked (nil : l = []) (bare : (leaving r).retryAfter? = none) : Provenance P s shows l r where
  header v held := by cases bare.symm.trans held
  built asked := absurd (nil ▸ rfl) asked

theorem Provenance.of_error {e : PyError} (unshown : ∀ p, Returned P s l p → ∃ error ∈ p["error"]?, ∃ x, shows error = .error x) :
    Provenance P s shows l (.error (.python e)) where
  header v held := by cases (leaving_error (.python e)).symm.trans held
  built _ p returned shown := by
    obtain ⟨error, present, x, fails⟩ := unshown p returned
    obtain ⟨e, shows⟩ := shown error present
    cases fails.symm.trans shows

theorem not_forged_nil : ¬Forged P s [] shows := by
  rintro ⟨_, _, _, last, _⟩
  cases last

end Renderers

section Views
variable {τ : Type} {P : Platform τ} {s : Settings}

theorem errorResponse_rendered (s : Settings) (e : OAuthException) :
    Rendered (e.error = .temporarilyUnavailable) e.retryAfter (raised (errorResponse s e)) := by
  unfold errorResponse
  have error := errorBody_error e
  generalize errorBody e = body at error
  dsimp only
  by_cases client : e.error = .invalidClient
  · rw [if_pos client]
    exact ⟨_, rfl, .inr ⟨by simp [client], rfl⟩⟩
  rw [if_neg client]
  refine ⟨jsonify (errorStatus e.error) (.object body), rfl, ?_⟩
  by_cases unavailable : e.error = .temporarilyUnavailable
  · rw [if_pos unavailable]
    refine .inl ⟨unavailable, .inl ⟨by rw [unavailable]; rfl, body, rfl, ?_⟩, rfl⟩
    rw [error, unavailable]
  · rw [if_neg unavailable]
    exact .inr ⟨unavailable, rfl⟩

theorem answered_rendered {e : OAuthError} (stock : e.description?.isSome) (s : Settings)
    (description uri retryAfter : Json) : Rendered (e = .temporarilyUnavailable) retryAfter
      (answered s (.error (oauthError e description uri retryAfter))) := by
  obtain ⟨described, text⟩ := OAuthError.describe_ok stock description
  simp only [oauthError, text, answered]
  exact errorResponse_rendered s ⟨e, described, uri, retryAfter⟩

theorem oauthError_bare (s : Settings) (e : OAuthError) (description uri : Json) :
    (leaving (answered s (.error (oauthError e description uri .null)))).retryAfter? = none := by
  unfold oauthError
  cases e.describe description with
  | error p => rfl
  | ok described =>
    obtain ⟨page, bare, ⟨_, _, answer⟩ | ⟨_, answer⟩⟩ := errorResponse_rendered s ⟨e, described, uri, .null⟩ <;>
      exact (congrArg _ (congrArg leaving answer)).trans (leaving_none bare)

theorem answered_raised (s : Settings) (r : Except PyError Response) : answered s (raised r) = raised r := by
  cases r <;> rfl

theorem pageAnswer_rendered (s : Settings) {error : PageError} {description shown : String}
    (described : error.describe description = .ok shown) (state : Option String) (retryAfter : Json) :
    Rendered (error.code = OAuthError.temporarilyUnavailable.value) retryAfter
      (answered s (raised (pageAnswer s error description state retryAfter))) := by
  simp only [answered_raised, pageAnswer, described, ok_bind, pageRetryAfter]
  refine ⟨_, render_retryAfter s error.status { state, error := some error.code, description := some shown }, ?_⟩
  by_cases unavailable : error.code = OAuthError.temporarilyUnavailable.value
  · have status := PageError.status_unavailable.mpr unavailable
    refine .inl ⟨unavailable, .inr ⟨status, _, _, rfl, congrArg some unavailable⟩, ?_⟩
    rw [if_pos (show (render s error.status _).status = 503 from status)]
  · have status := mt PageError.status_unavailable.mp unavailable
    refine .inr ⟨unavailable, ?_⟩
    rw [if_neg (show ¬(render s error.status _).status = 503 from status), raised_ok]

/-! ### The two views -/

theorem credentialError_bare (s : Settings) (P : Platform τ) (req : TokenRequest) :
    (leaving (answered s (.error (credentialError P req)))).retryAfter? = none := by
  unfold credentialError
  split
  · exact oauthError_bare s _ _ _
  split <;> exact oauthError_bare s _ _ _

theorem revokedAnswer_bare (userAgent : String) :
    (leaving (answered s (revokedAnswer P s userAgent))).retryAfter? = none := by
  unfold revokedAnswer
  split
  · exact leaving_none rfl
  · exact oauthError_bare s _ _ _

theorem Refreshed.provenance_iff {c : ClientCredentials P.fernet} {stored p : Payload} {t : Trace (bridge P.fernet)}
    {r₀ : Except Exc Response} {l : List Seen} (h : Refreshed P s c stored p t r₀) (returned : Returned P s.fetch l p) :
    Provenance P s.fetch (fun error => .ok (viewError P s.fetch error)) l (answered s r₀) ↔
      ¬Forged P s.fetch l fun error => .ok (viewError P s.fetch error) := by
  have noError : p.contains "error" = false →
      ¬Forged P s.fetch l fun error => .ok (viewError P s.fetch error) := by
    intro absent
    refine returned.not_forged fun error present => ?_
    simp [Std.ExtTreeMap.contains_eq_isSome_getElem?, Option.mem_def.mp present] at absent
  cases h with
  | revoked _ _ failed _ | failed failed _ =>
    have present := Payload.getElem?_of_contains failed
    rw [refreshError, secondOutcome_error present]
    exact (answered_rendered (viewError_described (p.getOrNull "error")) s _ _ _).provenance_iff returned present (by simp)
  | invalid absent _ =>
    exact iff_of_true (answered_rendered (by decide) s _ _ .null).quiet (noError absent)
  | unchanged accepted _ | updated _ _ _ accepted _ => exact iff_of_true (.of_none rfl) (noError accepted.1)

theorem token_provenance_iff {req : TokenRequest} {t : Trace (bridge P.fernet)} {r : Except Exc Response}
    (run : Runs (handled s (token P s req)) t r) :
    Provenance P s.fetch (fun error => .ok (viewError P s.fetch error)) (seen t) r ↔
      ¬Forged P s.fetch (seen t) fun error => .ok (viewError P s.fetch error) := by
  obtain ⟨r₀, ended, rfl⟩ := (handled_ensures s (token_ensures P s req)).runs run
  rw [← seen_visible]
  generalize ht : visible Op.silent t = t' at ended ⊢
  clear ht run
  cases ended with
  | unauthenticated _ => exact iff_of_true (.unasked rfl (credentialError_bare s P req)) not_forged_nil
  | missing _ | wrongSecret _ _ _ => exact iff_of_true (.unasked rfl (oauthError_bare s _ _ _)) not_forged_nil
  | revoked _ _ => exact iff_of_true (.unasked rfl (revokedAnswer_bare _)) not_forged_nil
  | stored _ _ _ => exact iff_of_true (.of_none rfl) not_forged_nil
  | malformed _ _ => exact iff_of_true (.unasked rfl rfl) not_forged_nil
  | raised granted raises =>
    rcases raises with ⟨unseen, _⟩ | ⟨_, raises⟩
    · exact iff_of_true (.unasked (by rw [unseen]) rfl) (unseen ▸ not_forged_nil)
    · exact iff_of_true (.of_error fun p returned => (returned.not_raised raises).elim) raises.not_forged
  | refreshed granted returned ends _ =>
    rw [seen_append, ends.seen, List.append_nil]
    exact ends.provenance_iff returned

theorem callback_provenance_iff {args : List (String × String)} {t : Trace (bridge P.fernet)} {r : Except Exc Response}
    (run : Runs (handled s (callback P s args)) t r) :
    Provenance P s.fetch (fun error => normalizeError s.fetch.errorTypes error tokenErrors .serverError) (seen t) r ↔
      ¬Forged P s.fetch (seen t) fun error => normalizeError s.fetch.errorTypes error tokenErrors .serverError := by
  obtain ⟨r₀, ended, rfl⟩ := (handled_ensures s (callback_ensures P s args)).runs run
  rw [← seen_visible]
  have exchanged : ∀ {l : List Seen} {p : Payload}, Returned P s.fetch l p → exchangeError s p = .ok none →
      ¬Forged P s.fetch l fun error => normalizeError s.fetch.errorTypes error tokenErrors .serverError := by
    intro l p returned accepted
    exact returned.not_forged (by simp [exchangeError_none accepted])
  generalize ht : visible Op.silent t = t' at ended ⊢
  clear ht run
  -- Only an error that the provider named itself brings a `retry_after` of its own to the page.
  cases ended with
  | checkFailed _ _ => exact iff_of_true (.unasked rfl rfl) not_forged_nil
  | @rejected state error desc clientState rejects =>
    refine iff_of_true ?_ not_forged_nil
    cases described : (PageError.oauth error).describe desc with
    | ok shown => exact (pageAnswer_rendered s described clientState .null).quiet
    | error e => exact .unasked rfl (by simp [pageAnswer, described, answered, leaving_error])
  | raised checked raises =>
    exact iff_of_true (.of_error fun p returned => (returned.not_raised raises).elim) raises.not_forged
  | @unreadable _ _ _ p _ checked returned fails =>
    cases he : p["error"]? with
    | none => simp [exchangeError_of_noError he] at fails
    | some error =>
      rcases exchangeError_of_error (s := s) he with ⟨nonscalar, _⟩ | ⟨_, _, _, _, _, same⟩
      swap
      · cases fails.symm.trans same
      have unshown : normalizeError s.fetch.errorTypes error tokenErrors .serverError = .error .typeError := by
        simp [normalizeError, nonscalar]
      refine iff_of_true (.of_error fun p' returned' => ?_) (returned.not_forged fun error' present => ?_)
      · obtain rfl := returned.unique returned'
        exact ⟨error, he, _, unshown⟩
      · obtain rfl := Option.some.inj (he.symm.trans present)
        rw [unshown]
        rintro ⟨⟩
  | @failed clientState _ _ p error desc checked returned fails =>
    cases he : p["error"]? with
    | none =>
      rw [exchangeError_of_noError he] at fails
      split at fails <;> cases fails
      obtain ⟨page, bare, ⟨unavailable, _⟩ | ⟨_, answer⟩⟩ := pageAnswer_rendered s
        (show (PageError.text "invalid_response").describe "Invalid response from provider." = .ok _ from rfl)
        clientState (p.getOrNull "retry_after")
      · exact absurd unavailable (by decide)
      · rw [answer]
        exact iff_of_true (.of_none bare) (returned.not_forged (by simp [he]))
    | some code =>
      rcases exchangeError_of_error (s := s) he with ⟨_, raises⟩ | ⟨_, e, text, stock, normalized, same⟩
      · cases fails.symm.trans raises
      cases fails.symm.trans same
      refine (pageAnswer_rendered s (PageError.describe_stock stock) clientState (p.getOrNull "retry_after")).provenance_iff
        returned he ?_
      rw [normalized, Except.ok.injEq]
      exact ⟨fun same => OAuthError.value_injective same, fun same => same ▸ rfl⟩
  | issued secret nonce id now exchange =>
    obtain ⟨_, _, returned, accepted⟩ := exchange
    rw [seen_inserting]
    exact iff_of_true (.of_none (render_retryAfter s 200 _)) (exchanged returned accepted)
  | taken secret nonce id now exchange =>
    obtain ⟨_, _, returned, accepted⟩ := exchange
    rw [seen_inserting]
    exact iff_of_true (pageAnswer_rendered s rfl _ .null).quiet (exchanged returned accepted)

end Views

/-- Both views keep to the wait that the last answer asked for, exactly when none is forged. -/
theorem retry_after_iff {τ : Type} {P : Platform τ} {s : Settings} {req : TokenRequest} {args : List (String × String)}
    {t u : Trace (bridge P.fernet)} {r r' : Except Exc Response} (refresh : Runs (handled s (token P s req)) t r)
    (issue : Runs (handled s (callback P s args)) u r') :
    (Provenance P s.fetch (fun error => .ok (viewError P s.fetch error)) (seen t) r ↔
        ¬Forged P s.fetch (seen t) fun error => .ok (viewError P s.fetch error)) ∧
      (Provenance P s.fetch (fun error => normalizeError s.fetch.errorTypes error tokenErrors .serverError) (seen u) r' ↔
        ¬Forged P s.fetch (seen u) fun error => normalizeError s.fetch.errorTypes error tokenErrors .serverError) :=
  ⟨token_provenance_iff refresh, callback_provenance_iff issue⟩

namespace Sample

def forgery (retryAfter : Json) : Payload :=
  .ofList [("error", Json.str "temporarily_unavailable"), ("retry_after", retryAfter)]

end Sample

theorem retry_after_iff_ok :
    let refresh := Sample.handledToken fun _ => Sample.response 400 (Sample.forgery (.int 7))
    let issue := Sample.handledCallback fun _ => Sample.response 200 Sample.accessToken
    let s := Sample.settings
    (Provenance Sample.platform s.fetch (fun error => .ok (viewError Sample.platform s.fetch error))
          (seen refresh.trace) refresh.result ↔
        ¬Forged Sample.platform s.fetch (seen refresh.trace) fun error => .ok (viewError Sample.platform s.fetch error)) ∧
      (Provenance Sample.platform s.fetch
          (fun error => normalizeError s.fetch.errorTypes error tokenErrors .serverError) (seen issue.trace) issue.result ↔
        ¬Forged Sample.platform s.fetch (seen issue.trace)
          fun error => normalizeError s.fetch.errorTypes error tokenErrors .serverError) :=
  retry_after_iff (Program.eval_runs _ _ _) (Program.eval_runs _ _ _)

/-- The body's own `retry_after` ends up in the header of `/token`, and takes `/callback` down if it is no number. -/
theorem retry_after_forged :
    let refresh := Sample.handledToken fun _ => Sample.response 400 (Sample.forgery (.int 7))
    let issue := Sample.handledCallback fun _ => Sample.response 400 (Sample.forgery (.str "soon"))
    Runs (handled Sample.settings (token Sample.platform Sample.settings Sample.request)) refresh.trace refresh.result ∧
      (answers (seen refresh.trace)).getLast? = some (Sample.response 400 (Sample.forgery (.int 7))) ∧
      (Sample.response 400 (Sample.forgery (.int 7))).retryAfter = .ok 0 ∧
      (leaving refresh.result).retryAfter? = some "7" ∧
      ¬Provenance Sample.platform Sample.settings.fetch
        (fun error => .ok (viewError Sample.platform Sample.settings.fetch error)) (seen refresh.trace) refresh.result ∧
      Runs (handled Sample.settings (callback Sample.platform Sample.settings Sample.arguments)) issue.trace issue.result ∧
      (answers (seen issue.trace)).getLast? = some (Sample.response 400 (Sample.forgery (.str "soon"))) ∧
      issue.result.isOk = false := by
  intro refresh issue
  have last : (answers (seen refresh.trace)).getLast? = some (Sample.response 400 (Sample.forgery (.int 7))) :=
    World.eval_last rfl (by decide +kernel)
  have header : (leaving refresh.result).retryAfter? = some "7" := by decide +kernel
  refine ⟨Program.eval_runs _ _ _, last, rfl, header, fun provenance => ?_, Program.eval_runs _ _ _,
    World.eval_last rfl (by decide +kernel), by decide +kernel⟩
  obtain ⟨_, _, n, ⟨a, last', asked, positive⟩, _⟩ := provenance.header _ header
  obtain rfl := Option.some.inj (last.symm.trans last')
  obtain rfl : 0 = n := Except.ok.inj asked
  exact Nat.lt_irrefl 0 positive

end OAuthClientBridge
