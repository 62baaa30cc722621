import OAuthClientBridge.Effect.Pool
import OAuthClientBridge.Views.CallbackRuns
import OAuthClientBridge.Views.TokenRuns

/-! A request that is served alone: what its run makes of the table. -/

namespace OAuthClientBridge
open Python Effect Program

variable {τ : Type}

namespace Store
variable {F : Fernet τ} {σ σ' : Store τ}

theorem step_silent {e : Event (bridge F)} (h : e.op.silent = true) (step : Step σ e σ') : σ' = σ := by
  obtain ⟨o, answer⟩ := e
  cases o <;> first | exact step | cases h

theorem follows_visible {t : Trace (bridge F)} (h : Follows Step σ t σ') :
    Follows Step σ (visible Op.silent t) σ' :=
  h.visible fun _ _ _ silent step => step_silent silent step

theorem follows_fetch {uri : String} {data : List (String × Json)} {t : Trace (bridge F)}
    (trace : FetchTrace uri data t) (h : Follows Step σ t σ') : σ' = σ := by
  induction h with
  | nil => rfl
  | @cons σ σ₁ σ₂ e t now rest ih =>
    rw [ih fun e' he' => trace e' (List.mem_cons_of_mem _ he')]
    obtain ⟨o, answer⟩ := e
    rcases trace _ List.mem_cons_self with ⟨w, rfl⟩ | ⟨low, high, rfl⟩ <;> exact now

theorem follows_single {e : Event (bridge F)} : Follows Step σ [e] σ' ↔ Step σ e σ' := by
  constructor
  · rintro (_ | ⟨now, _ | _⟩)
    exact now
  · exact fun now => .cons now (.nil _)

theorem step_update {id : ClientId} {token : Option τ} {now : Int} {n : Nat} {row : Row τ}
    (step : Step σ (⟨.update id token now, n⟩ : Event (bridge F)) σ') (found : σ id = some row) :
    σ' = σ.write id { row with token, lastUpdatedAt := some now } := by
  have state := (Prod.mk.inj step).2
  simpa [update, found] using state

/-- What one event can do to the table: nothing, a new row, or a new token in a row. -/
theorem step_cases {e : Event (bridge F)} (step : Step σ e σ') :
    (σ' = σ ∧ (∀ id token now, e ≠ ⟨.insert id token now, .inserted⟩) ∧
        ∀ id row, e = ⟨.select id, row⟩ → row = σ id) ∨
      (∃ id token now, e = ⟨.insert id token now, .inserted⟩ ∧ σ id = none ∧
        σ' = σ.write id ⟨some token, some now, some now⟩) ∨
      ∃ id row token now n, e = ⟨.update id token now, n⟩ ∧ σ id = some row ∧
        σ' = σ.write id { row with token, lastUpdatedAt := some now } := by
  obtain ⟨o, answer⟩ := e
  cases o with
  | select id =>
    refine .inl ⟨step.2, nofun, fun id' row same => ?_⟩
    cases same
    exact step.1
  | insert id token now =>
    obtain ⟨answers, state⟩ := Prod.mk.inj step
    cases found : σ id with
    | none => exact .inr (.inl ⟨id, token, now, by simp [answers, found], found, by simp [state, found]⟩)
    | some row =>
      refine .inl ⟨by simp [state, found], fun _ _ _ same => ?_, nofun⟩
      cases same
      simp [found] at answers
  | update id token now =>
    cases found : σ id with
    | none => exact .inl ⟨by simpa [update, found] using (Prod.mk.inj step).2, nofun, nofun⟩
    | some row => exact .inr (.inr ⟨id, row, token, now, answer, rfl, found, step_update step found⟩)
  | _ => exact .inl ⟨step, nofun, nofun⟩

theorem step_persists {e : Event (bridge F)} {id : ClientId} {row : Row τ} (step : Step σ e σ') (found : σ id = some row) :
    ∃ row', σ' id = some row' ∧ row'.createdAt = row.createdAt := by
  obtain ⟨rfl, _⟩ | ⟨other, token, now, _, missing, rfl⟩ | ⟨other, row', token, now, _, _, found', rfl⟩ :=
    step_cases step
  · exact ⟨row, found, rfl⟩
  · by_cases same : id = other
    · cases missing.symm.trans (same ▸ found)
    · exact ⟨row, by rw [write_other _ _ same, found], rfl⟩
  · by_cases same : id = other
    · subst same
      obtain rfl := Option.some.inj (found.symm.trans found')
      exact ⟨_, write_self _ _ _, rfl⟩
    · exact ⟨row, by rw [write_other _ _ same, found], rfl⟩

end Store

/-! ### `/token` -/

variable {P : Platform τ} {s : Settings} {req : TokenRequest} {c : ClientCredentials P.fernet}

theorem Presents.unique {c' : ClientCredentials P.fernet} (h : Presents P req c) (h' : Presents P req c') :
    c' = c := by
  obtain ⟨id, secret, presented, valid⟩ := h
  obtain ⟨id', secret', presented', valid'⟩ := h'
  obtain ⟨rfl, rfl⟩ : id = id' ∧ secret = secret' := by simpa using presented.symm.trans presented'
  exact Except.ok.inj (valid'.symm.trans valid)

theorem Opens.unique {row : Row τ} {d d' : Document} (h : Opens c row d) (h' : Opens c row d') : d' = d := by
  obtain ⟨token, live, opened⟩ := h
  obtain ⟨token', live', opened'⟩ := h'
  obtain rfl := Option.some.inj (live.symm.trans live')
  exact Option.some.inj (opened'.symm.trans opened)

theorem Opens.token {row : Row τ} {d : Document} (h : Opens c row d) : row.token ≠ none := by
  obtain ⟨token, live, _⟩ := h
  intro none
  simp [Row.record, none] at live

theorem Refreshed.seen {stored refreshed : Payload} {t : Trace (bridge P.fernet)} {r : Except Exc Response}
    (h : Refreshed P s c stored refreshed t r) : seen t = [] := by
  cases h <;> rfl

section Refresh
variable {σ σ' : Store τ} {row : Row τ} {stored : Payload} {t : Trace (bridge P.fernet)} {r : Except Exc Response}

theorem Presents.selected {c' : ClientCredentials P.fernet} {answer : Option (Row τ)} (h : Presents P req c)
    (h' : Presents P req c') (follows : Follows Store.Step σ (⟨.select c'.clientId, answer⟩ :: t) σ') :
    c' = c ∧ answer = σ c.clientId ∧ Follows Store.Step σ t σ' := by
  obtain rfl := h.unique h'
  rcases follows with _ | ⟨⟨answers, rfl⟩, rest⟩
  exact ⟨rfl, answers, rest⟩

/-- The request is correctly authenticated, and the table holds a refresh token for it. -/
structure Refreshable (P : Platform τ) (req : TokenRequest) (σ : Store τ) (c : ClientCredentials P.fernet)
    (row : Row τ) (stored : Payload) : Prop where
  presents : Presents P req c
  found : σ c.clientId = some row
  opens : Opens c row (.object stored)
  refreshable : stored.contains "refresh_token" = true

theorem Refreshable.cases (h : Refreshable P req σ c row stored) (run : TokenRun P s req t r)
    (follows : Follows Store.Step σ t σ') :
    (∃ p, FetchRaised P s.fetch (refreshExchange s (stored.getOrNull "refresh_token")) (seen t) p ∧ σ' = σ ∧ r = .error (.python p)) ∨
      ∃ refreshed t', Returned P s.fetch (seen t) refreshed ∧ Refreshed P s c stored refreshed t' r ∧
        Follows Store.Step σ t' σ' ∧ Sendable s stored ∧
          ∃ tf, t = ⟨.select c.clientId, some row⟩ :: tf ++ t' ∧
            FetchTrace (refreshUri s) (refreshExchange s (stored.getOrNull "refresh_token")) tf := by
  have selected : ∀ {c' : ClientCredentials P.fernet} {answer : Option (Row τ)} {tf : Trace (bridge P.fernet)},
      Presents P req c' → Follows Store.Step σ (⟨.select c'.clientId, answer⟩ :: tf) σ' →
      c' = c ∧ answer = some row ∧ Follows Store.Step σ tf σ' := by
    intro c' answer tf presents follows
    obtain ⟨rfl, answers, rest⟩ := h.presents.selected presents follows
    exact ⟨rfl, answers.trans h.found, rest⟩
  obtain ⟨token, live, opened⟩ := h.opens
  cases run with
  | unauthenticated absent => exact absurd h.presents (absent c)
  | missing presents => cases (selected presents follows).2.1
  | revoked presents null =>
    obtain ⟨rfl, found, _⟩ := selected presents follows
    obtain rfl := Option.some.inj found
    cases live.symm.trans null
  | wrongSecret presents live' wrong =>
    obtain ⟨rfl, found, _⟩ := selected presents follows
    obtain rfl := Option.some.inj found
    obtain rfl := Option.some.inj (live.symm.trans live')
    cases opened.symm.trans wrong
  | stored presents opens noRefresh =>
    obtain ⟨rfl, found, _⟩ := selected presents follows
    obtain rfl := Option.some.inj found
    obtain rfl := h.opens.unique opens
    simp [h.refreshable] at noRefresh
  | malformed presents opens =>
    obtain ⟨rfl, found, _⟩ := selected presents follows
    obtain rfl := Option.some.inj found
    cases h.opens.unique opens
  | raised granted raises =>
    obtain ⟨row', tf, presents, opens, refreshable, trace, rfl⟩ := granted
    obtain ⟨rfl, found, rest⟩ := selected presents follows
    obtain rfl := Option.some.inj found
    cases h.opens.unique opens
    exact .inl ⟨_, raises, Store.follows_fetch trace rest, rfl⟩
  | @refreshed c' stored' refreshed t₁ t₂ r granted returned ends sendable =>
    obtain ⟨row', tf, presents, opens, refreshable, trace, rfl⟩ := granted
    obtain ⟨rfl, found, rest⟩ := selected presents follows
    obtain rfl := Option.some.inj found
    cases h.opens.unique opens
    obtain ⟨σ₁, asked, written⟩ := follows_append.mp (show Follows Store.Step σ (tf ++ t₂) σ' from rest)
    obtain rfl := Store.follows_fetch trace asked
    refine .inr ⟨refreshed, t₂, ?_, ends, written, sendable, tf, rfl, trace⟩
    rwa [seen_append, ends.seen, List.append_nil]

end Refresh

/-! ### `/callback` -/

section Exchange
variable {F : Fernet τ} {args : List (String × String)} {σ σ' : Store τ} {t : Trace (bridge F)}
  {r : Except Exc Response}

theorem exchangeError_of_error {result : Payload} {error : Json} (present : result["error"]? = some error) :
    (error.hashable = false ∧ exchangeError s result = .error .typeError) ∨
      (error.hashable = true ∧ ∃ e text, e.description? = some text ∧
        normalizeError s.fetch.errorTypes error tokenErrors .serverError = .ok e ∧
        exchangeError s result = .ok (some (.oauth e, text))) := by
  have contains : result.contains "error" = true := by
    simp [Std.ExtTreeMap.contains_eq_isSome_getElem?, present]
  have value : result.getOrNull "error" = error := by simp [Payload.getOrNull, present]
  unfold exchangeError
  rw [if_pos contains, value]
  cases scalar : error.hashable with
  | false => exact .inl ⟨rfl, by simp [normalizeError, scalar]⟩
  | true =>
    obtain ⟨e, allowed, normalized⟩ := normalizeError_ok s.fetch.errorTypes scalar
      (show OAuthError.serverError ∈ tokenErrors by decide)
    obtain ⟨text, described⟩ := Option.isSome_iff_exists.mp (tokenErrors_described e allowed)
    exact .inr ⟨rfl, e, text, described, normalized, by simp [normalized, described]⟩

theorem exchangeError_of_noError {result : Payload} (absent : result["error"]? = none) :
    exchangeError s result =
      .ok (if validateToken result then none
        else some (.text "invalid_response", "Invalid response from provider.")) := by
  have contains : result.contains "error" = false := by
    simp [Std.ExtTreeMap.contains_eq_isSome_getElem?, absent]
  unfold exchangeError
  cases validateToken result <;> simp [contains]

/-- How a callback that asked the provider ends, and what it makes of the table. -/
inductive CallbackEnd (P : Platform τ) (s : Settings) (l : List Seen) (t : Trace (bridge F)) (σ : Store τ) :
    Store τ → Except Exc Response → Prop where
  | raised {p : PyError} (raises : Raised P s.fetch l p) : CallbackEnd P s l t σ σ (.error (.python p))
  | unreadable {result : Payload} {p : PyError} (returned : Returned P s.fetch l result)
      (fails : exchangeError s result = .error p) : CallbackEnd P s l t σ σ (.error (.python p))
  | failed {result : Payload} {error : PageError} {desc : String} (clientState : Option String)
      (returned : Returned P s.fetch l result) (fails : exchangeError s result = .ok (some (error, desc))) :
      CallbackEnd P s l t σ σ
        (OAuthClientBridge.raised (pageAnswer s error desc clientState (result.getOrNull "retry_after")))
  | issued {result : Payload} (clientState : Option String) (id : ClientId) (secret : ClientSecret F)
      (nonce : Nonce) (now : Int) (returned : Returned P s.fetch l result)
      (exchanged : exchangeError s result = .ok none) (fresh : σ id = none) :
      CallbackEnd P s l t σ
        (σ.write id ⟨some (F.encrypt secret.key nonce (grantPayload result)), some now, some now⟩)
        (.ok (issuedPage s id secret clientState))
  | taken {result : Payload} (clientState : Option String) (id : ClientId) (token : τ) (now : Int)
      (returned : Returned P s.fetch l result) (exchanged : exchangeError s result = .ok none)
      (refused : ⟨.insert id token now, .integrityError⟩ ∈ t) :
      CallbackEnd P s l t σ σ (OAuthClientBridge.raised
        (pageAnswer s (.text "integrity_error") "Database integrity error." clientState .null))

theorem seen_inserting (secret : ClientSecret F) (nonce : Nonce) (id : ClientId) (token : τ) (now : Int)
    (result : InsertResult) :
    seen (t ++ drawn secret nonce id ++ [⟨.insert id token now, result⟩]) = seen t := by
  have quiet : seen (drawn secret nonce id ++ [⟨.insert id token now, result⟩]) = [] := rfl
  rw [List.append_assoc, seen_append, quiet, List.append_nil]

theorem Checked.follows {clientState : Option String} {code : String}
    (checked : Checked s args clientState code t) (follows : Follows Store.Step σ t σ') : σ' = σ := by
  obtain ⟨state, tf, _, trace, rfl⟩ := checked
  rcases follows with _ | ⟨rfl, _ | ⟨rfl, rest⟩⟩
  exact Store.follows_fetch trace rest

theorem Checked.inserting {clientState : Option String} {code : String} {secret : ClientSecret F} {nonce : Nonce}
    {id : ClientId} {token : τ} {now : Int} {result : InsertResult} (checked : Checked s args clientState code t)
    (follows : Follows Store.Step σ (t ++ drawn secret nonce id ++ [⟨.insert id token now, result⟩]) σ') :
    result = (σ.insert id token now).1 ∧ σ' = (σ.insert id token now).2 := by
  obtain ⟨σ₁, before, inserted⟩ := follows_append.mp follows
  obtain ⟨σ₂, asking, drawing⟩ := follows_append.mp before
  obtain rfl := checked.follows asking
  rcases drawing with _ | ⟨rfl, _ | ⟨rfl, _ | ⟨rfl, _ | _⟩⟩⟩
  exact Prod.mk.inj (Store.follows_single.mp inserted)

theorem CallbackRun.ends (run : CallbackRun P s args t r) (follows : Follows Store.Step σ t σ')
    (asked : answers (seen t) ≠ []) : CallbackEnd P s (seen t) t σ σ' r := by
  cases run with
  | checkFailed _ _ | rejected _ _ => exact absurd rfl asked
  | raised checked raises =>
    obtain rfl := checked.follows follows
    exact .raised raises
  | unreadable checked returned fails =>
    obtain rfl := checked.follows follows
    exact .unreadable returned fails
  | failed checked returned fails =>
    obtain rfl := checked.follows follows
    exact .failed _ returned fails
  | issued secret nonce id now exchanged =>
    obtain ⟨code, checked, returned, exchanged⟩ := exchanged
    obtain ⟨answer, rfl⟩ := checked.inserting follows
    rw [seen_inserting]
    cases fresh : σ id with
    | some row => simp [Store.insert, fresh] at answer
    | none =>
      simp only [Store.insert, fresh]
      exact .issued _ id secret nonce now returned exchanged fresh
  | taken secret nonce id now exchanged =>
    obtain ⟨code, checked, returned, exchanged⟩ := exchanged
    obtain ⟨answer, rfl⟩ := checked.inserting follows
    rw [seen_inserting]
    cases fresh : σ id with
    | none => simp [Store.insert, fresh] at answer
    | some row =>
      simp only [Store.insert, fresh]
      exact .taken _ id _ now returned exchanged (List.mem_append_right _ List.mem_cons_self)

end Exchange
end OAuthClientBridge
