import OAuthClientBridge.History

/-!
Refresh tokens stay between the bridge and the provider: no response to a client depends on one.
-/

namespace OAuthClientBridge
open Python Effect Program

/-- A non-empty text that UTF-8 can encode. -/
def Utf8Text (v : Json) : Prop := ∃ text, text ≠ "" ∧ v = .str text

theorem Utf8Text.material {v : Json} (h : Utf8Text v) : Material v := by
  obtain ⟨text, set, rfl⟩ := h
  exact ⟨rfl, by simpa [Json.truthy] using set⟩

theorem Utf8Text.of_pyEq {v v' : Json} (h : Utf8Text v) : (v.pyEq v' = true ∨ v'.pyEq v = true) → Utf8Text v' := by
  obtain ⟨text, set, rfl⟩ := h
  rw [Json.str_pyEq rfl, Json.pyEq_str rfl]
  rintro (rfl | rfl) <;> exact ⟨text, set, rfl⟩

/-- Two runs whose refresh tokens differ: non-empty strings, in the same places, that can be sent to the provider. -/
def refreshVeil : Veil where
  Matches key v v' := v' = v ∨ key = "refresh_token" ∧ Utf8Text v ∧ Utf8Text v'
  logged := False
  plain plain := ⟨fun h => h.elim id fun covered => absurd (covered.1 ▸ by decide) plain, .inl⟩
  cases h := h.imp_right fun covered => ⟨covered.2.1.material, covered.2.2.material⟩
  null _ := .inl rfl
  compared logged := logged.elim
  crossed := by
    intro key a a' b b' now later differ
    obtain rfl | ⟨token, encodes, encodes'⟩ := now <;> obtain rfl | ⟨token', later, later'⟩ := later
    · exact absurd rfl differ
    · have either : a'.pyEq b' = true ∨ a'.pyEq b = true := by
        cases h : a'.pyEq b <;> cases h' : a'.pyEq b' <;> simp_all
      have own : Utf8Text a' := either.elim (fun h => later'.of_pyEq (.inr h)) fun h => later.of_pyEq (.inr h)
      exact ⟨.inr ⟨token', own, later'⟩, .inr ⟨token', later, own⟩⟩
    · have either : a'.pyEq b' = true ∨ a.pyEq b' = true := by
        cases h : a.pyEq b' <;> cases h' : a'.pyEq b' <;> simp_all
      have own : Utf8Text b' := either.elim (fun h => encodes'.of_pyEq (.inl h)) fun h => encodes.of_pyEq (.inl h)
      exact ⟨.inr ⟨token, encodes, own⟩, .inr ⟨token, own, encodes'⟩⟩
    · exact ⟨.inr ⟨token, encodes, later'⟩, .inr ⟨token, later, encodes'⟩⟩
  sent := by
    rintro v v' (rfl | ⟨-, ⟨_, -, rfl⟩, ⟨_, -, rfl⟩⟩) <;> rfl

namespace Veil

theorem Payloads.eq_of_absent {p p' : Payload} (h : refreshVeil.Payloads p p') (absent : p.contains "refresh_token" = false) :
    p' = p := by
  refine Std.ExtTreeMap.ext_getElem? fun key => ?_
  by_cases token : key = "refresh_token"
  · subst token
    have absent' := h.contains "refresh_token"
    rw [absent] at absent'
    rw [Std.ExtTreeMap.contains_eq_isSome_getElem?, Option.isSome_eq_false_iff, Option.isNone_iff_eq_none] at absent absent'
    rw [absent, absent']
  · have now := h key
    revert now
    cases p[key]? <;> cases p'[key]? <;> rintro ⟨⟩
    · rfl
    · rename_i now
      rcases now with rfl | covered
      · rfl
      · exact absurd covered.1 token

theorem Replies.eq {r r' : Response} (h : refreshVeil.Replies r r') : r' = r := by
  cases h with
  | same r => rfl
  | token r payloads absent => rw [payloads.eq_of_absent absent]

theorem Matching.eq {r r' : Reply} (h : refreshVeil.Matching r r') : r' = r := by
  obtain ⟨result, session⟩ := r
  obtain ⟨result', session'⟩ := r'
  obtain ⟨replies, same⟩ := h
  obtain rfl : session' = session := same
  have same := (replies.mono fun r r' replies => (Replies.eq replies).symm).eq
  rw [show result = result' from same]

end Veil

/-! ### The bodies of `/token` -/

section Token
variable {τ : Type} {P : Platform τ} {s : Settings} {req : TokenRequest} {t : Trace (bridge P.fernet)}
  {r : Except Exc Response}

def NoRefreshToken (r : Response) : Prop := ∀ b, r.body.object? = some b → b.contains "refresh_token" = false

theorem noRefreshToken_jsonify {status : Nat} {b : Payload} (absent : b.contains "refresh_token" = false) :
    NoRefreshToken (jsonify status (.object b)) := by
  intro b' same
  obtain rfl := Option.some.inj same
  exact absent

theorem errorResponse_body {e : OAuthException} {r : Response} (h : errorResponse s e = .ok r) :
    r.body = .json (.object (errorBody e)) := by
  unfold errorResponse at h
  dsimp only at h
  split at h
  · rw [← Except.ok.inj h]
    rfl
  split at h
  · rcases setRetryAfter_ready (jsonify (errorStatus e.error) (.object (errorBody e))) e.retryAfter with ⟨_, r', set, _, body⟩ | ⟨_, p, set⟩
    · obtain rfl := Except.ok.inj (set.symm.trans h)
      exact body
    · cases set.symm.trans h
  · rw [← Except.ok.inj h]
    rfl

theorem served_noRefreshToken (ended : ∀ response, r = .ok response → NoRefreshToken response) :
    NoRefreshToken (served s r) := by
  have fallback : NoRefreshToken (jsonify 500 (.object fallbackPayload)) :=
    noRefreshToken_jsonify (by simp [fallbackPayload])
  unfold served NoRefreshToken
  rw [nocache_body]
  cases r with
  | ok response => exact ended response rfl
  | error e =>
    cases e with
    | python e => exact fallback
    | oauth e =>
      cases answer : errorResponse s e with
      | error p => simpa [answered, answer, NoRefreshToken] using fallback
      | ok response =>
        have absent : (errorBody e).contains "refresh_token" = false := by
          unfold errorBody
          split <;> simp
        simpa [answered, answer, errorResponse_body answer, ResponseBody.object?] using absent

theorem TokenRun.noRefreshToken (run : TokenRun P s req t r) : ∀ response, r = .ok response → NoRefreshToken response := by
  intro response returned
  cases run with
  | revoked presents null =>
    unfold revokedAnswer at returned
    cases payload : revokedGrantWorkaround P s req.userAgent with
    | none => simp [payload] at returned
    | some b =>
      rw [payload] at returned
      rw [← Except.ok.inj returned]
      unfold revokedGrantWorkaround at payload
      split at payload
      · cases payload
      · cases payload
      split at payload
      · cases payload
      · rw [← Option.some.inj payload]
        exact noRefreshToken_jsonify (by simp)
  | @stored c row stored presents opens noRefresh =>
    rw [← Except.ok.inj returned]
    cases stored with
    | object b => exact noRefreshToken_jsonify (Except.ok.inj noRefresh)
    | other v => exact fun b none => by cases none
  | refreshed granted asked ends _ =>
    cases ends with
    | unchanged | updated =>
      rw [← Except.ok.inj returned]
      exact noRefreshToken_jsonify (by simp [refreshedToken])
    | _ => cases returned
  | _ => cases returned

end Token

/-! ### The page of `/callback` -/

section Callback
variable {τ : Type} {F : Fernet τ} {P : Platform τ} {s : Settings} {args : List (String × String)} {t : Trace (bridge F)}
  {r : Except Exc Response} {clientState : Option String} {secret : ClientSecret F} {id : ClientId} {result : InsertResult}

/-- The request accepted a token and stored it: what it drew, what its session held, and how the
insertion went. -/
structure Deposits (t : Trace (bridge F)) (clientState : Option String) (secret : ClientSecret F) (id : ClientId)
    (result : InsertResult) : Prop where
  state : ⟨.sessionPop "client_state", clientState⟩ ∈ t
  key : ⟨.generateKey, secret⟩ ∈ t
  row : ∃ token now, ⟨.insert id token now, result⟩ ∈ t

def depositAnswer (s : Settings) (clientState : Option String) (secret : ClientSecret F) (id : ClientId) :
    InsertResult → Except Exc Response
  | .inserted => .ok (issuedPage s id secret clientState)
  | .integrityError => raised (pageAnswer s (.text "integrity_error") "Database integrity error." clientState .null)

theorem Checked.asked {code : String} {state : Option String} (checked : Checked s args state code t) :
    ∀ e ∈ t, e = ⟨.sessionPop "client_state", state⟩ ∨ e.op = .sessionPop "state" ∨
      (∃ w, e.op = .send s.oauth.tokenUri (codeExchange s code) w) ∨ ∃ low high, e.op = .uniform low high := by
  obtain ⟨popped, tf, _, trace, rfl⟩ := checked
  intro e met
  obtain now | asking := List.mem_append.mp met
  · obtain rfl | rfl : e = ⟨.sessionPop "client_state", state⟩ ∨ e = ⟨.sessionPop "state", popped⟩ := by
      simpa [OAuthClientBridge.popped] using now
    · exact .inl rfl
    · exact .inr (.inl rfl)
  · exact .inr (.inr (trace e asking))

theorem Checked.not_deposits {code : String} {state : Option String} (checked : Checked s args state code t) :
    ¬Deposits t clientState secret id result := by
  rintro ⟨_, key, _⟩
  obtain same | same | ⟨_, same⟩ | ⟨_, _, same⟩ := checked.asked _ key <;> cases same

theorem Checked.deposits {code : String} {state : Option String} {secret' : ClientSecret F} {nonce : Nonce} {id' : ClientId}
    {token : τ} {now : Int} {result' : InsertResult} (checked : Checked s args state code t)
    (deposits : Deposits (t ++ drawn secret' nonce id' ++ [⟨.insert id' token now, result'⟩]) clientState secret id result) :
    state = clientState ∧ secret' = secret ∧ id' = id ∧ result' = result := by
  obtain ⟨popped, key, token', now', row⟩ := deposits
  have before := checked.asked
  refine ⟨?_, ?_, ?_⟩
  · obtain asked | rest : (⟨.sessionPop "client_state", clientState⟩ : Event (bridge F)) ∈ t ∨ _ := by
      simpa only [List.mem_append, or_assoc] using popped
    · obtain same | same | ⟨_, same⟩ | ⟨_, _, same⟩ := before _ asked
      · cases same
        rfl
      all_goals simp at same
    · simp [drawn] at rest
  · obtain asked | rest : (⟨.generateKey, secret⟩ : Event (bridge F)) ∈ t ∨ _ := by
      simpa only [List.mem_append, or_assoc] using key
    · obtain same | same | ⟨_, same⟩ | ⟨_, _, same⟩ := before _ asked <;> cases same
    · simpa [drawn, eq_comm] using rest
  · obtain asked | rest : (⟨.insert id token' now', result⟩ : Event (bridge F)) ∈ t ∨ _ := by
      simpa only [List.mem_append, or_assoc] using row
    · obtain same | same | ⟨_, same⟩ | ⟨_, _, same⟩ := before _ asked <;> cases same
    · obtain ⟨⟨rfl, -, -⟩, rfl⟩ : (id = id' ∧ token' = token ∧ now' = now) ∧ result = result' := by
        simpa [drawn] using rest
      exact ⟨rfl, rfl⟩

theorem CallbackRun.deposit (run : CallbackRun P s args t r) (deposits : Deposits t clientState secret id result) :
    r = depositAnswer s clientState secret id result := by
  cases run with
  | checkFailed state failed | rejected state failed =>
    obtain ⟨_, key, _⟩ := deposits
    simp [popped] at key
  | raised checked | unreadable checked | failed checked => exact absurd deposits checked.not_deposits
  | issued secret' nonce id' now exchanged =>
    obtain ⟨code, checked, _⟩ := exchanged
    obtain ⟨rfl, rfl, rfl, rfl⟩ := checked.deposits deposits
    rfl
  | taken secret' nonce id' now exchanged =>
    obtain ⟨code, checked, _⟩ := exchanged
    obtain ⟨rfl, rfl, rfl, rfl⟩ := checked.deposits deposits
    rfl

end Callback

section Confined
variable {τ : Type} (P : Platform τ) (s : Settings)

/-- Of two histories whose refresh tokens differ, every request gets the same reply. No response of
`/token` carries a refresh token, and the page of a callback that stored a token is made of its
draws, its session and the outcome of the insertion alone. -/
theorem refresh_tokens_confined (arrivals : List Arrival) {w w' : World P.fernet} (twins : refreshVeil.Twins w w') :
    (serveAll P s arrivals w').1 = (serveAll P s arrivals w).1 ∧
      (∀ req t r, Runs (respond P s (.token req)) t (.ok r) → NoRefreshToken r) ∧
      ∀ args t t' r r' clientState secret id result, Runs (respond P s (.callback args)) t r →
        Runs (respond P s (.callback args)) t' r' → Deposits t clientState secret id result →
        Deposits t' clientState secret id result → r' = r := by
  refine ⟨?_, fun req t r run => ?_, fun args t t' r r' clientState secret id result run run' shown shown' => ?_⟩
  · have even : refreshVeil.Even s.fetch w w' := twins.even fun logged => logged.elim
    have matching := (Veil.serveAll_matching arrivals even).1
    have same : List.Forall₂ (· = ·) (serveAll P s arrivals w).1 (serveAll P s arrivals w').1 :=
      matching.imp fun _ _ replies => replies.eq.symm
    rw [List.forall₂_eq_eq_eq] at same
    exact same.symm
  · obtain ⟨r₀, ended, answer⟩ := (serve_ensures s (token_ensures P s req)).runs run
    obtain rfl := Except.ok.inj answer
    exact served_noRefreshToken ended.noRefreshToken
  -- Both runs show the page that is made of what the insertion drew, and those draws are the same.
  · have deposited : ∀ {t : Trace (bridge P.fernet)} {r}, Runs (respond P s (.callback args)) t r →
        Deposits t clientState secret id result → r = .ok (served s (depositAnswer s clientState secret id result)) := by
      intro t r run ⟨state, key, token, now, row⟩
      obtain ⟨r₀, ended, rfl⟩ := (serve_ensures s (callback_ensures P s args)).runs run
      have seen : Deposits (visible Op.silent t) clientState secret id result :=
        ⟨List.mem_filter.mpr ⟨state, rfl⟩, List.mem_filter.mpr ⟨key, rfl⟩, token, now, List.mem_filter.mpr ⟨row, rfl⟩⟩
      rw [ended.deposit seen]
    rw [deposited run shown, deposited run' shown']

end Confined

namespace Sample

theorem payloads_self (p : Payload) : refreshVeil.Payloads p p := by
  intro key
  cases p[key]? with
  | none => exact .none
  | some v => exact .some (.inl rfl)

def rotated (refreshToken : Json) : Upstream := response 200 (accessToken.insert "refresh_token" refreshToken)

theorem rotated_matches {text text' : String} (set : text ≠ "") (set' : text' ≠ "") :
    refreshVeil.Upstreams (rotated (.str text)) (rotated (.str text')) :=
  .response (.mk { statusCode := 200, body := .undecodable } (.document (.object
    ((payloads_self _).insert (.inr ⟨rfl, ⟨text, set, rfl⟩, ⟨text', set', rfl⟩⟩)))))

theorem twins : refreshVeil.Twins (world grant fun _ => rotated (.str "second")) (world grant fun _ => rotated (.str "first")) where
  session := rfl
  monotonic := rfl
  uniform := rfl
  budget := rfl
  keys := rfl
  ids := rfl
  upstream _ := rotated_matches (by decide) (by decide)
  utcnow _ := rfl
  emitted _ := rfl
  store id := by
    show Option.Rel (refreshVeil.Rows symbolicFernet) (store grant id) (store grant id)
    unfold store
    split
    · exact .some ⟨.some (Veil.Payloads.tokens (payloads_self grant) secret.key ⟨0, 0⟩ ⟨0, 0⟩), fun _ => rfl⟩
    · exact .none

def arrival : Arrival := ⟨.token request, fun _ => none⟩

/-- `"\ud800"`. -/
def surrogate : Json := .lone ⟨"", 0, []⟩

end Sample

/-- The provider rotates the refresh token in one run and repeats it in the other. -/
theorem refresh_tokens_confined_rotated :
    (serveAll Sample.platform Sample.settings [Sample.arrival, Sample.arrival]
        (Sample.world Sample.grant fun _ => Sample.rotated (.str "first"))).1 =
      (serveAll Sample.platform Sample.settings [Sample.arrival, Sample.arrival]
        (Sample.world Sample.grant fun _ => Sample.rotated (.str "second"))).1 :=
  (refresh_tokens_confined Sample.platform Sample.settings [Sample.arrival, Sample.arrival] Sample.twins).1

/-- A lone surrogate is stored like any other refresh token, and cannot be sent with the next refresh. -/
theorem refresh_tokens_shown : Material Sample.surrogate ∧
    (serveAll Sample.platform Sample.settings [Sample.arrival, Sample.arrival]
        (Sample.world Sample.grant fun _ => Sample.rotated Sample.surrogate)).1 ≠
      (serveAll Sample.platform Sample.settings [Sample.arrival, Sample.arrival]
        (Sample.world Sample.grant fun _ => Sample.rotated (.str "first"))).1 := by
  refine ⟨⟨rfl, rfl⟩, fun same => ?_⟩
  have statuses := congrArg (List.map fun reply => reply.1.toOption.map Response.status) same
  revert statuses
  decide +kernel

end OAuthClientBridge
