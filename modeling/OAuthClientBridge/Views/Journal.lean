import OAuthClientBridge.Effect.Safe
import OAuthClientBridge.Service
import OAuthClientBridge.Views.Plain

/-!
What a request leaves in the telemetry: the counters of the views, and the requests for new token
counts. They are read off the whole trace of the request, emissions included.
-/

namespace OAuthClientBridge
open Python Effect Program

structure Journal where
  /-- A change of the table that no request for new token counts followed. -/
  owed : Bool := false
  /-- The grants that were found without a token. -/
  nullReads : Nat := 0
  /-- The statements that set a token to `NULL`. -/
  revocations : Nat := 0
  /-- The reasons of `RefreshTokenInvalidationCounter`. -/
  invalidations : List String := []
  workarounds : List String := []
  serverErrors : List (Nat × String) := []
  /-- The `created_at` of the grants whose age was observed. -/
  grantAges : List Int := []

namespace Journal

def count (b : Journal) : Metric → Journal
  | .refreshTokenInvalidation reason => { b with invalidations := b.invalidations ++ [reason] }
  | .workaround name => { b with workarounds := b.workarounds ++ [name] }
  | .serverError status error => { b with serverErrors := b.serverErrors ++ [(status, error)] }
  | .tokenGrantAge createdAt => { b with grantAges := b.grantAges ++ [createdAt] }
  | _ => b

def enter {τ : Type} {F : Fernet τ} (b : Journal) : Event (bridge F) → Journal
  | ⟨.select id, some row⟩ =>
    { b with nullReads := if (row.record F id).encryptedToken.isNone then b.nullReads + 1 else b.nullReads }
  | ⟨.insert _ _ _, .inserted⟩ => { b with owed := true }
  | ⟨.update _ token _, rowcount⟩ =>
    { b with owed := b.owed || rowcount != 0, revocations := if token.isNone then b.revocations + 1 else b.revocations }
  | ⟨.emit .requestRefresh, _⟩ => { b with owed := false }
  | ⟨.emit (.metric m), _⟩ => b.count m
  | _ => b

end Journal

section
variable {τ : Type} {F : Fernet τ} {α β : Type}

abbrev Journals (p : Action F α) (Q : Except Exc α → Journal → Prop) (b : Journal) : Prop :=
  p.Safe (tally Journal.enter) (fun _ _ => True) Q b

section Rules
variable {Q : Except Exc β → Journal → Prop} {b : Journal}

theorem enter_plain {o : Op τ} (plain : o.plain = true) (answer : Answer F o) : b.enter (F := F) ⟨o, answer⟩ = b := by
  cases o with
  | select | insert | update => cases plain
  | emit e =>
    cases e with
    | requestRefresh => cases plain
    | metric m => cases m <;> first | rfl | cases plain
    | _ => rfl
  | _ => rfl

theorem journals_perform {o : Op τ} {f : Answer F o → Action F β} :
    Journals (perform o >>= f) Q b ↔ ∀ answer, Journals (f answer) Q (b.enter (F := F) ⟨o, answer⟩) := by
  constructor
  · intro ⟨_, next⟩ answer
    exact next answer _ rfl
  · intro next
    refine ⟨trivial, fun answer b' entered => ?_⟩
    rw [show b' = _ from entered]
    exact next answer

theorem Plain.journals {p : Action F β} (plain : Plain p) (ends : ∀ r, Q r b) : Journals p Q b := by
  induction p with
  | pure a => exact ends _
  | throw e => exact ends _
  | op o next ih =>
    refine ⟨trivial, fun answer b' entered => ?_⟩
    rw [show b' = _ from entered, enter_plain plain.1]
    exact ih answer (plain.2 answer)

theorem Plain.journals_bind {p : Action F α} {f : α → Action F β} (plain : Plain p) (error : ∀ e, Q (.error e) b)
    (next : ∀ a, Journals (f a) Q b) : Journals (p >>= f) Q b := by
  apply safe_bind.mpr
  apply plain.journals
  intro r
  cases r with
  | ok a => exact next a
  | error e => exact error e

theorem journals_emit {e : Emission} {f : Unit → Action F β} :
    Journals (emit e >>= f) Q b ↔ Journals (f ()) Q (b.enter (F := F) ⟨.emit e, ()⟩) := by
  have performed := @journals_perform τ F β Q b (.emit e) f
  exact performed.trans ⟨fun next => next (), fun next _ => next⟩

theorem journals_liftPy {r : Except PyError β} : Journals (liftPy r : Action F β) Q b ↔ Q (raised r) b := by
  cases r <;> rfl

end Rules

/-! ### The pages and the error handlers -/

section Answers
variable {s : Settings} {Q : Except Exc Response → Journal → Prop} {b : Journal}

/-- The journal after an error that the views count. -/
def Journal.errors (b : Journal) (status : Nat) (error : String) : Journal :=
  { b with serverErrors := b.serverErrors ++ [(status, error)] }

theorem errorPage_journals {error : PageError} {description : String} {state : Option String} {retryAfter : Json}
    (undescribed : ∀ e, Q (.error (.python e)) b)
    (page : ∀ shown, error.describe description = .ok shown →
      Q (raised (pageAnswer s error description state retryAfter)) (b.errors error.status error.code)) :
    Journals (errorPage s error description state retryAfter : Action F Response) Q b := by
  unfold errorPage
  unfold pageAnswer at page
  cases described : error.describe description with
  | error e => exact undescribed e
  | ok shown =>
    have page := page shown described
    rw [described] at page
    refine journals_emit.mpr (journals_emit.mpr (journals_emit.mpr (journals_liftPy.mpr ?_)))
    exact page

/-- What the handlers add to the journal of a view, and what they answer. -/
inductive Answered (s : Settings) : Except Exc Response → Journal → Response → Journal → Prop where
  | answer (r : Response) (b : Journal) : Answered s (.ok r) b r b
  | error {e : OAuthException} {r : Response} (b : Journal) (built : errorResponse s e = .ok r) :
      Answered s (.error (.oauth e)) b r (b.errors r.status e.error.value)
  | fallback {r₀ : Except Exc Response} {e : PyError} (b : Journal) (unanswered : answered s r₀ = .error (.python e)) :
      Answered s r₀ b (jsonify 500 (.object fallbackPayload)) (b.errors 500 OAuthError.serverError.value)

theorem serve_journals {view : Action F Response}
    (h : Journals view (fun r₀ b => ∀ r b', Answered s r₀ b r b' → Q (.ok (nocache r)) b') b) :
    Journals (serve s view) Q b := by
  unfold serve handled
  refine safe_bind.mpr (safe_tryCatch.mpr (safe_tryCatch.mpr (h.mono (fun _ _ h => h) fun r₀ b ended => ?_)))
  have fallback : ∀ {e : PyError}, answered s r₀ = .error (.python e) →
      Journals (fallbackErrorHandler (.python e) : Action F Response)
        (andThen (tally (S := bridge F) Journal.enter) (fun _ _ => True) (fun response => .pure (nocache response)) Q) b := by
    intro e unanswered
    unfold fallbackErrorHandler
    refine journals_emit.mpr (journals_emit.mpr (journals_emit.mpr (journals_emit.mpr ?_)))
    exact ended _ _ (.fallback b unanswered)
  cases r₀ with
  | ok r => exact ended r b (.answer r b)
  | error e =>
    cases e with
    | python e => exact fallback rfl
    | oauth e =>
      show Journals (errorHandler s e) _ b
      unfold errorHandler
      cases built : errorResponse s e with
      | error p =>
        apply fallback
        simp [answered, built]
      | ok r =>
        simp only [liftPy_ok_bind]
        refine journals_emit.mpr (journals_emit.mpr (journals_emit.mpr (journals_emit.mpr (journals_emit.mpr
          (journals_emit.mpr ?_)))))
        exact ended r _ (.error b built)

end Answers

/-! ### `/token` -/

section Token
variable {P : Platform τ} {s : Settings} {Q : Except Exc β → Journal → Prop} {b : Journal}

/-- An update asks for new token counts when it changed a row. -/
theorem dbUpdate_journals {id : ClientId} {token : Option τ} {f : Nat → Action F β} (settled : b.owed = false)
    (next : ∀ n, Journals (f n) Q { b with revocations := if token.isNone then b.revocations + 1 else b.revocations }) :
    Journals (Db.update id token >>= f) Q b := by
  unfold Db.update
  simp only [bind_assoc]
  refine journals_perform.mpr fun now => journals_perform.mpr fun (n : Nat) => journals_emit.mpr ?_
  by_cases changed : n = 0
  · subst changed
    simpa [Journal.enter, settled] using next 0
  · simp only [if_pos changed]
    refine journals_emit.mpr ?_
    simpa [Journal.enter, ← settled] using next n

/-- What `/token` leaves in the journal, as it ends. -/
inductive TokenJournal (P : Platform τ) (s : Settings) (req : TokenRequest) : Except Exc Response → Journal → Prop where
  | raised (e : Exc) : TokenJournal P s req (.error e) {}
  | refused (e : Exc) (none : revokedGrantWorkaround P s req.userAgent = none) :
      TokenJournal P s req (.error e) { nullReads := 1 }
  | workaround {payload : Payload} (given : revokedGrantWorkaround P s req.userAgent = some payload) :
      TokenJournal P s req (.ok (jsonify 200 (.object payload))) { nullReads := 1, workarounds := ["revoked_grant"] }
  | served (d : Document) (createdAt : Option Int) :
      TokenJournal P s req (.ok (jsonify 200 d)) { grantAges := createdAt.toList }
  | revoked (description uri retryAfter : Json) :
      TokenJournal P s req (.error (oauthError .invalidGrant description uri retryAfter))
        { revocations := 1, invalidations := [OAuthError.invalidGrant.value] }

theorem observe_journals (d : Document) (createdAt : Option Int) {req : TokenRequest} :
    Journals (observeTokenGrantAge createdAt >>= fun _ => (Pure.pure (jsonify 200 d) : Action F Response))
      (TokenJournal P s req) {} := by
  cases createdAt with
  | none => exact .served d none
  | some createdAt => exact journals_emit.mpr (.served d (some createdAt))

theorem revokedGrant_journals {req : TokenRequest} :
    Journals (revokedGrant P s req.userAgent) (TokenJournal P s req) { nullReads := 1 } := by
  unfold revokedGrant
  cases given : revokedGrantWorkaround P s req.userAgent with
  | none =>
    rw [raiseError_eq]
    exact .refused _ given
  | some payload => exact journals_emit.mpr (journals_emit.mpr (journals_emit.mpr (.workaround given)))

theorem objectOutcome_invalidates {status : HTTPStatus} {result : Payload}
    (invalid : (objectOutcome P s.fetch status result).invalidateRefreshToken = true) :
    (objectOutcome P s.fetch status result).normalizedError = some .invalidGrant := by
  unfold objectOutcome at invalid ⊢
  split at invalid
  · cases invalid
  split at invalid
  · split at invalid <;> cases invalid
  · simp_all

theorem refreshFailed_journals {req : TokenRequest} {id : ClientId} {refreshed : Payload} {outcome : TokenEndpointOutcome}
    (invalidates : outcome.invalidateRefreshToken = true → outcome.normalizedError = some .invalidGrant) :
    Journals (refreshFailed id refreshed outcome : Action P.fernet Response) (TokenJournal P s req) {} := by
  unfold refreshFailed noteFailedRefresh
  dsimp only
  split
  · rename_i invalid
    simp only [bind_assoc]
    refine dbUpdate_journals rfl fun n => journals_emit.mpr (journals_emit.mpr (journals_emit.mpr ?_))
    rw [raiseError_eq, invalidates invalid]
    exact .revoked _ _ _
  · have logged : ∀ level, Journals (do
        log level "Token refresh failed" [] [("refresh_result", .document (.object (sanitizeForLogging refreshed)))]
        emit (.spanEvent "refresh_error" (attributes (sanitizeForLogging refreshed)))
        raiseError (outcome.normalizedError.getD .serverError) (refreshed.getOrNull "error_description")
          (refreshed.getOrNull "error_uri") (refreshed.getOrNull "retry_after") : Action P.fernet Response)
        (TokenJournal P s req) {} := by
      intro level
      refine journals_emit.mpr (journals_emit.mpr ?_)
      rw [raiseError_eq]
      exact .raised _
    split
    · exact logged .warning
    · exact logged .error

theorem updateGrant_journals {Q : Except Exc β → Journal → Prop} {c : ClientCredentials F} {stored refreshed : Payload}
    {f : Unit → Action F β} (next : Journals (f ()) Q {}) : Journals (updateGrant c stored refreshed >>= f) Q {} := by
  unfold updateGrant dumps
  split
  · simp only [bind_assoc]
    refine journals_emit.mpr (journals_emit.mpr (journals_perform.mpr fun nonce => ?_))
    simp only [pure_eq, Program.pure_bind]
    exact dbUpdate_journals rfl fun n => next
  · exact next

theorem refreshGrant_journals {req : TokenRequest} (c : ClientCredentials P.fernet) (createdAt : Option Int)
    (stored : Payload) : Journals (refreshGrant P s c createdAt stored) (TokenJournal P s req) {} := by
  unfold refreshGrant
  apply plain_fetch.journals_bind .raised
  intro refreshed
  simp only [classify_object, liftPy_ok_bind]
  split
  · exact refreshFailed_journals objectOutcome_invalidates
  · unfold refreshSucceeded
    split
    · exact updateGrant_journals (observe_journals _ createdAt)
    · rw [raiseError_eq]
      exact .raised _

theorem serveGrant_journals {req : TokenRequest} (c : ClientCredentials P.fernet) (createdAt : Option Int) (stored : Document) :
    Journals (serveGrant P s c createdAt stored) (TokenJournal P s req) {} := by
  unfold serveGrant
  cases stored.has "refresh_token" with
  | error e => exact .raised _
  | ok refreshable =>
    cases refreshable with
    | false => exact observe_journals stored createdAt
    | true =>
      cases stored with
      | object stored => exact refreshGrant_journals c createdAt stored
      | other v => exact .raised _

theorem token_journals (P : Platform τ) (s : Settings) (req : TokenRequest) :
    Journals (token P s req) (TokenJournal P s req) {} := by
  have unknown : Journals (raiseError .invalidClient (.str clientNotKnown) .null .null : Action P.fernet Response)
      (TokenJournal P s req) {} := by
    rw [raiseError_eq]
    exact .raised _
  unfold token
  apply (plain_authenticate req).journals_bind .raised
  intro c
  unfold Db.lookup
  simp only [bind_assoc]
  refine journals_perform.mpr fun (row : Option (Row τ)) => ?_
  simp only [pure_eq, Program.pure_bind]
  cases row with
  | none => exact unknown
  | some row =>
    simp only [Option.map_some, Journal.enter]
    cases held : (row.record P.fernet c.clientId).encryptedToken with
    | none => exact revokedGrant_journals
    | some encrypted =>
      simp only [Option.isNone_some, Bool.false_eq_true, ↓reduceIte]
      split
      · exact unknown
      · exact serveGrant_journals _ _ _

end Token

/-! ### `/` and `/callback` -/

section Pages
variable {P : Platform τ} {s : Settings}

/-- What `/` and `/callback` leave in the journal, as they end. -/
inductive PageJournal (s : Settings) : Except Exc Response → Journal → Prop where
  | raised (e : Exc) : PageJournal s (.error e) {}
  | shown (r : Response) (fine : r.status = 200 ∨ r.status = 302) : PageJournal s (.ok r) {}
  | error {error : PageError} {description shown : String} (state : Option String) (retryAfter : Json)
      (described : error.describe description = .ok shown) :
      PageJournal s (raised (pageAnswer s error description state retryAfter))
        { serverErrors := [(error.status, error.code)] }

theorem errorPage_page (error : PageError) (description : String) (state : Option String) (retryAfter : Json) :
    Journals (errorPage s error description state retryAfter : Action F Response) (PageJournal s) {} :=
  errorPage_journals (fun _ => .raised _) fun _ => .error state retryAfter

theorem authorize_journals (P : Platform τ) (s : Settings) (args : List (String × String)) :
    Journals (authorize P s args) (PageJournal s) {} := by
  unfold authorize
  dsimp only
  split
  · exact errorPage_page _ _ _ _
  split
  · exact errorPage_page _ _ _ _
  refine journals_perform.mpr fun state => journals_perform.mpr fun _ => journals_perform.mpr fun _ => ?_
  refine journals_liftPy.mpr ?_
  unfold redirect
  cases rewriteUri P s.oauth.authorizationUri _ with
  | error e => exact .raised _
  | ok location => exact .shown _ (.inr rfl)

theorem issueGrant_journals (result : Payload) (clientState : Option String) :
    Journals (issueGrant s result clientState : Action F Response) (PageJournal s) {} := by
  unfold issueGrant dumps generateKey Db.generateId Db.insert
  dsimp only
  simp only [bind_assoc]
  refine journals_perform.mpr fun secret => journals_perform.mpr fun nonce => ?_
  simp only [pure_eq, Program.pure_bind]
  refine journals_perform.mpr fun id => (plain_setClientId id).journals_bind .raised fun _ => ?_
  refine journals_emit.mpr (journals_emit.mpr (journals_perform.mpr fun now => journals_perform.mpr fun result => ?_))
  cases result with
  | inserted => exact journals_emit.mpr (.shown _ (.inl rfl))
  | integrityError => exact journals_emit.mpr (errorPage_page _ _ _ _)

theorem callback_journals (P : Platform τ) (s : Settings) (args : List (String × String)) :
    Journals (callback P s args : Action F Response) (PageJournal s) {} := by
  unfold callback
  refine journals_perform.mpr fun clientState => journals_perform.mpr fun state => ?_
  apply (plain_liftPy _).journals_bind .raised
  intro checked
  split
  · exact journals_emit.mpr (errorPage_page _ _ _ _)
  unfold exchangeCode
  apply plain_fetch.journals_bind .raised
  intro result
  apply (plain_liftPy _).journals_bind .raised
  intro failed
  split
  · exact journals_emit.mpr (journals_emit.mpr (errorPage_page _ _ _ _))
  · exact issueGrant_journals result clientState

end Pages

end
end OAuthClientBridge
