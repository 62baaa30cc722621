import OAuthClientBridge.Db.Refinement
import OAuthClientBridge.Usability

/-!
Where the grant of a client comes from: from the exchange of the callback that issued the client id, and
from refreshes of that grant by the client itself. So the credentials on a callback page open this grant.
-/

namespace OAuthClientBridge
open Python Effect Program

section Lineage
variable {τ ι : Type} (P : Platform τ) (s : Settings) (requests : ι → Request)

/-- The payload is what callback `i` was granted for the client id, or what a refresh made of it. -/
inductive Descends (ts : ι → Trace (bridge P.fernet)) (i : ι) (id : ClientId) : Payload → Prop where
  | issued {args : List (String × String)} {u : Trace (bridge P.fernet)} {secret : ClientSecret P.fernet} {nonce : Nonce}
      {result : Payload} {token : τ} {now : Int} (asks : requests i = .callback args) (drew : drawn secret nonce id <:+ u)
      (returned : Returned P s.fetch (seen u) result) (accepted : exchangeError s result = .ok none)
      (before : u ++ [⟨.insert id token now, .inserted⟩] <+: ts i) : Descends ts i id (grantPayload result)
  | refreshed {j : ι} {r : TokenRequest} {c : ClientCredentials P.fernet} {stored refreshed : Payload}
      {u : Trace (bridge P.fernet)} (descends : Descends ts i id stored) (asks : requests j = .token r)
      (granted : Granted P s r c stored u) (own : c.clientId = id) (returned : Returned P s.fetch (seen u) refreshed)
      (accepted : Accepted refreshed) (before : u <+: ts j) : Descends ts i id (modifiedToken stored refreshed)

/-- A refresh by the client itself got an answer that revokes its grant. -/
inductive Refused (ts : ι → Trace (bridge P.fernet)) (id : ClientId) : Prop where
  | refused {k : ι} {r : TokenRequest} {c : ClientCredentials P.fernet} {stored refreshed : Payload}
      {u : Trace (bridge P.fernet)} (asks : requests k = .token r) (granted : Granted P s r c stored u) (own : c.clientId = id)
      (returned : Returned P s.fetch (seen u) refreshed) (failed : refreshed.contains "error" = true)
      (invalid : (secondOutcome P s refreshed).invalidateRefreshToken = true) (before : u <+: ts k) : Refused ts id

/-- A token of the client is sealed over such a payload, and is missing only after a revocation. -/
inductive Traced (ts : ι → Trace (bridge P.fernet)) (id : ClientId) : Option τ → Prop where
  | live {i : ι} {key : P.fernet.Key} {nonce : Nonce} {payload : Payload} (descends : Descends P s requests ts i id payload) :
      Traced ts id (some (P.fernet.encrypt key nonce payload))
  | revoked (refused : Refused P s requests ts id) : Traced ts id none

/-- The invariant: one request issues a client id, and every row of it that is stored or was read is traced. -/
structure Lineage (σ : Store τ) (ts : ι → Trace (bridge P.fernet)) : Prop where
  issuer : ∀ i j id secret secret', Issues (ts i) id secret → Issues (ts j) id secret' → j = i
  stored : ∀ id row, σ id = some row → Traced P s requests ts id row.token
  read : ∀ i id row, ⟨.select id, some row⟩ ∈ ts i → Traced P s requests ts id row.token

variable {P s requests} {ts us : ι → Trace (bridge P.fernet)} {i : ι} {id : ClientId} {payload : Payload}

theorem Descends.mono (grows : ∀ j, ts j <+: us j) (h : Descends P s requests ts i id payload) :
    Descends P s requests us i id payload := by
  induction h with
  | issued asks drew returned accepted before => exact .issued asks drew returned accepted (before.trans (grows i))
  | refreshed _ asks granted own returned accepted before ih =>
    exact .refreshed ih asks granted own returned accepted (before.trans (grows _))

theorem Refused.mono (grows : ∀ j, ts j <+: us j) (h : Refused P s requests ts id) : Refused P s requests us id := by
  obtain ⟨asks, granted, own, returned, failed, invalid, before⟩ := h
  exact ⟨asks, granted, own, returned, failed, invalid, before.trans (grows _)⟩

theorem Traced.mono (grows : ∀ j, ts j <+: us j) {token : Option τ} (h : Traced P s requests ts id token) :
    Traced P s requests us id token := by
  cases h with
  | live descends => exact .live (descends.mono grows)
  | revoked refused => exact .revoked (refused.mono grows)

/-- The one who was granted a payload has issued the client id. -/
theorem Descends.issues (h : Descends P s requests ts i id payload) : ∃ secret, Issues (ts i) id secret := by
  induction h with
  | @issued _ u secret nonce _ token now _ drew _ _ before =>
    obtain ⟨t, rfl⟩ := drew
    obtain ⟨v, split⟩ := before
    exact ⟨secret, split ▸ (issues_inserted t secret nonce id token now).append v⟩
  | refreshed _ _ _ _ _ _ _ ih => exact ih

/-- What a traced row opens to descends from the grant. -/
theorem Traced.opened {row : Row τ} {c : ClientCredentials P.fernet} {d : Document}
    (h : Traced P s requests ts id row.token) (opens : Opens c row d) :
    ∃ i payload, d = .object payload ∧ Descends P s requests ts i id payload := by
  obtain ⟨token, live, opened⟩ := opens
  have held : row.token = some token := Option.eq_some_of_filter_eq_some live
  rw [held] at h
  cases h with
  | @live i key nonce payload descends =>
    rw [loads_eq] at opened
    rw [P.fernet.authentic opened, P.fernet.decrypt_encrypt] at opened
    exact ⟨i, payload, (Option.some.inj opened).symm, descends⟩

end Lineage

section Step
variable {τ ι : Type} {P : Platform τ} {s : Settings} {requests : ι → Request}
  {σ σ' : Store τ} {ts us : ι → Trace (bridge P.fernet)} {i : ι}

theorem lineage_empty : Lineage P s requests (fun _ => none) fun _ : ι => ([] : Trace (bridge P.fernet)) where
  issuer _ _ _ _ _ h := by
    obtain ⟨_, _, _, inside⟩ := h
    simp at inside
  stored _ _ h := by cases h
  read _ _ _ h := by cases h

theorem inserted_missing {id : ClientId} {token : τ} {now : Int}
    (step : Store.Step σ (⟨.insert id token now, .inserted⟩ : Event (bridge P.fernet)) σ') : σ id = none := by
  have inserted : (InsertResult.inserted, σ') = σ.insert id token now := step
  unfold Store.insert at inserted
  split at inserted
  · cases inserted
  · assumption

theorem Granted.descends {r : TokenRequest} {c : ClientCredentials P.fernet} {stored : Payload} {u : Trace (bridge P.fernet)}
    (h : Lineage P s requests σ ts) (granted : Granted P s r c stored u) (before : u <+: ts i) :
    ∃ j, Descends P s requests ts j c.clientId stored := by
  obtain ⟨row, tf, _, opens, _, _, rfl⟩ := granted
  obtain ⟨j, payload, same, descends⟩ := (h.read i c.clientId row (before.subset List.mem_cons_self)).opened opens
  obtain rfl := Document.object.inj same
  exact ⟨j, descends⟩

/-- What an update writes is traced: it is a refresh of what the request read, or a revocation. -/
theorem ServiceOp.traced {req : Request} {t : Trace (bridge P.fernet)} {id : ClientId} {token : Option τ} {now : Int}
    (allowed : ServiceOp P s req t (.update id token now)) (h : Lineage P s requests σ ts) (asks : requests i = req)
    (trace : ts i = t) (grows : ∀ j, ts j <+: us j) :
    Traced P s requests us id token := by
  cases req with
  | authorize args => cases allowed
  | callback args => cases allowed
  | token r =>
    cases allowed with
    | revoke _ granted returned failed invalid =>
      exact .revoked ⟨asks, granted, rfl, returned, failed, invalid, trace ▸ grows i⟩
    | @update c stored refreshed u nonce _ granted returned accepted _ =>
      have before : u <+: ts i := trace ▸ List.prefix_append _ _
      obtain ⟨j, descends⟩ := granted.descends h before
      exact .live (.refreshed (descends.mono grows) asks granted rfl returned accepted (before.trans (grows i)))

variable [DecidableEq ι]

theorem update_grows (ts : ι → Trace (bridge P.fernet)) (i : ι) (e : Event (bridge P.fernet)) (j : ι) :
    ts j <+: Function.update ts i (ts i ++ [e]) j := by
  by_cases same : j = i
  · subst same
    rw [Function.update_self]
    exact List.prefix_append _ _
  · rw [Function.update_of_ne same]

theorem Lineage.issuers (custody : Custody (fun _ => True) σ ts) (h : Lineage P s requests σ ts) {e : Event (bridge P.fernet)}
    (now : Store.Step σ e σ') {j k : ι} {id : ClientId} {secret secret' : ClientSecret P.fernet}
    (issued : Issues (Function.update ts i (ts i ++ [e]) j) id secret)
    (issued' : Issues (Function.update ts i (ts i ++ [e]) k) id secret') : k = j := by
  have taken : ∀ {l token time} {secret : ClientSecret P.fernet}, Issues (ts l) id secret →
      e ≠ ⟨.insert id token time, .inserted⟩ := by
    rintro l token time secret old rfl
    obtain ⟨row, found⟩ := custody.issued l id secret old
    cases (inserted_missing now).symm.trans found
  rcases issues_update issued with old | ⟨rfl, _, _, _, same, _⟩
  · rcases issues_update issued' with old' | ⟨_, _, _, _, same, _⟩
    · exact h.issuer j k id secret secret' old old'
    · exact absurd same (taken old)
  · rcases issues_update issued' with old' | ⟨rfl, _⟩
    · exact absurd same (taken old')
    · rfl

theorem Lineage.step {o : Op τ} {answer : Answer P.fernet o} (custody : Custody (fun _ => True) σ ts)
    (h : Lineage P s requests σ ts) (allowed : ServiceOp P s (requests i) (ts i) o) (now : Store.Step σ ⟨o, answer⟩ σ') :
    Lineage P s requests σ' (Function.update ts i (ts i ++ [⟨o, answer⟩])) := by
  have grows := update_grows ts i ⟨o, answer⟩
  have whole : ts i ++ [⟨o, answer⟩] <+: Function.update ts i (ts i ++ [⟨o, answer⟩]) i := by
    rw [Function.update_self]
  refine ⟨fun j k id secret secret' => h.issuers custody now, fun id row stored => ?_, fun j id row met => ?_⟩
  · rcases Store.step_cases now with ⟨rfl, _⟩ | ⟨own, token, time, same, missing, rfl⟩ |
      ⟨own, row₀, token, time, n, same, found, rfl⟩
    · exact (h.stored id row stored).mono grows
    · by_cases other : id = own
      swap
      · rw [Store.write_other _ _ other] at stored
        exact (h.stored id row stored).mono grows
      subst other
      cases same
      obtain rfl := Option.some.inj ((Store.write_self _ _ _).symm.trans stored)
      obtain ⟨args, t, secret, nonce, result, asks, drew, rfl, returned, accepted⟩ := allowed.insert
      exact .live (.issued asks ⟨t, drew.symm⟩ returned accepted whole)
    · by_cases other : id = own
      swap
      · rw [Store.write_other _ _ other] at stored
        exact (h.stored id row stored).mono grows
      subst other
      cases same
      obtain rfl := Option.some.inj ((Store.write_self _ _ _).symm.trans stored)
      exact allowed.traced h rfl rfl grows
  · rcases mem_update met with old | same
    · exact (h.read j id row old).mono grows
    · cases same
      have selected : some row = σ id := now.1
      exact (h.stored id row selected.symm).mono grows

end Step

section Service
variable {τ ι : Type} {P : Platform τ} {s : Settings} {requests : ι → Request}
  {c c' : Pool.Config (bridge P.fernet) Exc Response (Store τ) ι}

/-- What the view makes of the payload that a client's row opened to. -/
inductive ServedFrom (P : Platform τ) (s : Settings) (r : TokenRequest) (credentials : ClientCredentials P.fernet)
    (payload : Payload) : Trace (bridge P.fernet) → Except Exc Response → Prop where
  | stored {row : Row τ} (lasting : payload.contains "refresh_token" = false) :
      ServedFrom P s r credentials payload [⟨.select credentials.clientId, some row⟩] (.ok (jsonify 200 (.object payload)))
  | raised {t : Trace (bridge P.fernet)} {e : PyError} (granted : Granted P s r credentials payload t)
      (raises : FetchRaised P s.fetch (refreshExchange s (payload.getOrNull "refresh_token")) (seen t) e) :
      ServedFrom P s r credentials payload t (.error (.python e))
  | refreshed {t t' : Trace (bridge P.fernet)} {refreshed : Payload} {r₀ : Except Exc Response}
      (granted : Granted P s r credentials payload t) (sendable : Sendable s payload)
      (returned : Returned P s.fetch (seen t) refreshed)
      (ends : Refreshed P s credentials payload refreshed t' r₀) : ServedFrom P s r credentials payload (t ++ t') r₀

/-- The run of a request whose credentials were issued to it: it is served from the row, or told that the grant is gone. -/
theorem TokenRun.issued {ts : ι → Trace (bridge P.fernet)} {σ : Store τ} {j : ι} {r : TokenRequest}
    {credentials : ClientCredentials P.fernet} {r₀ : Except Exc Response} (run : TokenRun P s r (ts j) r₀)
    (presents : Presents P r credentials) (custody : Custody (fun _ => True) σ ts) (lineage : Lineage P s requests σ ts)
    {i : ι} (issued : Issues (ts i) credentials.clientId credentials.clientSecret)
    (found : (⟨.select credentials.clientId, none⟩ : Event (bridge P.fernet)) ∉ ts j) :
    Refused P s requests ts credentials.clientId ∧ r₀ = revokedAnswer P s r.userAgent ∨
      ∃ payload, Descends P s requests ts i credentials.clientId payload ∧ ServedFrom P s r credentials payload (ts j) r₀ := by
  generalize trace : ts j = t at run found
  have opened {row : Row τ} {d : Document} (met : ⟨.select credentials.clientId, some row⟩ ∈ ts j) (opens : Opens credentials row d) :
      ∃ payload, d = .object payload ∧ Descends P s requests ts i credentials.clientId payload := by
    obtain ⟨k, payload, same, descends⟩ := (lineage.read j _ row met).opened opens
    obtain ⟨secret, own⟩ := descends.issues
    obtain rfl := lineage.issuer i k _ _ _ issued own
    exact ⟨payload, same, descends⟩
  have met {row : Row τ} {u : Trace (bridge P.fernet)} (same : t = ⟨.select credentials.clientId, some row⟩ :: u) :
      ⟨.select credentials.clientId, some row⟩ ∈ ts j := by
    rw [trace, same]
    exact List.mem_cons_self
  cases run with
  | unauthenticated absent => exact absurd presents (absent credentials)
  | missing presents' =>
    obtain rfl := presents.unique presents'
    exact absurd List.mem_cons_self found
  | @revoked c row presents' null =>
    obtain rfl := presents.unique presents'
    refine .inl ⟨?_, rfl⟩
    have traced := lineage.read j _ row (met rfl)
    unfold Row.record at null
    generalize row.token = token at traced null
    cases traced with
    | live _ => simp [P.fernet.encrypt_nonempty] at null
    | revoked refused => exact refused
  | @wrongSecret c row token presents' live wrong =>
    obtain rfl := presents.unique presents'
    obtain ⟨k, secret, own, sealed⟩ := custody.read j _ row (met rfl)
    obtain rfl := custody.single i k _ _ _ issued own
    obtain ⟨nonce, payload, rfl, _⟩ := sealed token (Option.eq_some_of_filter_eq_some live)
    rw [loads_eq, P.fernet.decrypt_encrypt] at wrong
    cases wrong
  | @stored c row d presents' opens noRefresh =>
    obtain rfl := presents.unique presents'
    obtain ⟨payload, rfl, descends⟩ := opened (met rfl) opens
    exact .inr ⟨payload, descends, .stored (Except.ok.inj noRefresh)⟩
  | @malformed c row v e presents' opens =>
    obtain rfl := presents.unique presents'
    obtain ⟨payload, same, _⟩ := opened (met rfl) opens
    cases same
  | @raised c stored t e granted raises =>
    have refreshes := granted
    obtain ⟨row, tf, presents', opens, _, _, same⟩ := granted
    obtain rfl := presents.unique presents'
    obtain ⟨payload, whole, descends⟩ := opened (met same) opens
    obtain rfl := Document.object.inj whole
    exact .inr ⟨stored, descends, .raised refreshes raises⟩
  | @refreshed c stored refreshed t t' r₀ granted returned ends sendable =>
    have refreshes := granted
    obtain ⟨row, tf, presents', opens, _, _, rfl⟩ := granted
    obtain rfl := presents.unique presents'
    obtain ⟨payload, whole, descends⟩ := opened (met rfl) opens
    obtain rfl := Document.object.inj whole
    exact .inr ⟨stored, descends, .refreshed refreshes sendable returned ends⟩

variable [DecidableEq ι]

theorem lineage_reachable (h : Pool.Reachable Store.Step (service P s (fun _ => none) requests) c) :
    Custody (fun _ => True) c.world (acts c) ∧ Lineage P s requests c.world (acts c) := by
  apply Pool.invariant (I := fun σ ts => Custody (fun _ => True) σ ts ∧ Lineage P s requests σ ts)
    (fun i => respond_ensures P s (requests i)) ⟨custody_empty, lineage_empty⟩ _ _ h
  · intro σ ts e σ' silent held now
    rw [Store.step_silent silent now]
    exact held
  · intro σ ts i o answer σ' _ _ held allowed now
    exact ⟨held.1.step allowed now (fun _ _ _ => trivial) fun _ _ _ _ _ _ => trivial, held.2.step held.1 allowed now⟩

theorem acts_grow (h : Pool.Reachable Store.Step c c') (i : ι) : acts c i <+: acts c' i := by
  induction h with
  | refl => exact List.prefix_refl _
  | @tail m m' _ step ih =>
    obtain ⟨j, ready, now⟩ := step
    rename_i o next answer w
    apply ih.trans
    by_cases same : i = j
    · subst same
      simp [acts, Pool.Config.advance, visible]
    · simp [acts, Pool.Config.advance, same]

/-- A request that has not begun when the row is there will find it. -/
theorem selects_later {id : ClientId} {row : Row τ} {j : ι} (found : c.world id = some row) (fresh : (c.thread j).done = [])
    (h : Pool.Reachable Store.Step c c') : (⟨.select id, none⟩ : Event (bridge P.fernet)) ∉ acts c' j := by
  induction h with
  | refl => simp [acts, fresh, visible]
  | @tail m m' before step ih =>
    obtain ⟨k, ready, now⟩ := step
    intro met
    rcases acts_advance met with old | ⟨rfl, last⟩
    · exact ih old
    · cases last
      obtain ⟨row', found', _⟩ := rows_persist before found
      cases now.1.trans found'

/-- In every configuration: each row belongs to the one callback that issued its client id, and its token opens under
the issued secret to what this callback was granted, or to a refresh of it; no row loses its token but by a refused refresh. -/
theorem grants_descend (h : Pool.Reachable Store.Step (service P s (fun _ => none) requests) c) {id : ClientId} {row : Row τ}
    (found : c.world id = some row) :
    ∃ i secret, Issues (acts c i) id secret ∧ (∀ j secret', Issues (acts c j) id secret' → j = i ∧ secret' = secret) ∧
      (row.token = none ∧ Refused P s requests (acts c) id ∨ ∃ token payload, row.token = some token ∧
        loads secret token = some (.object payload) ∧ Descends P s requests (acts c) i id payload) := by
  obtain ⟨custody, lineage⟩ := lineage_reachable h
  obtain ⟨i, secret, issued, sealed⟩ := custody.stored id row found
  refine ⟨i, secret, issued, fun j secret' issued' => ?_, ?_⟩
  · exact ⟨lineage.issuer i j id secret secret' issued issued', custody.single i j id secret secret' issued issued'⟩
  have traced := lineage.stored id row found
  cases live : row.token with
  | none =>
    rw [live] at traced
    cases traced with
    | revoked refused => exact .inl ⟨rfl, refused⟩
  | some token =>
    obtain ⟨nonce, payload, rfl, _⟩ := sealed token live
    have opened : loads secret (P.fernet.encrypt secret.key nonce payload) = some (.object payload) := by
      rw [loads_eq, P.fernet.decrypt_encrypt]
    have opens : Opens ⟨id, secret⟩ row (.object payload) := by
      refine ⟨_, ?_, opened⟩
      simp [Row.record, live, P.fernet.encrypt_nonempty]
    obtain ⟨k, payload', same, descends⟩ := traced.opened opens
    obtain rfl := Document.object.inj same
    obtain ⟨secret', own⟩ := descends.issues
    obtain rfl := lineage.issuer i k id _ _ issued own
    exact .inr ⟨_, payload, rfl, opened, descends⟩

theorem clientId_str_length (id : ClientId) : id.str.length = 36 := by
  unfold ClientId.str
  have digits : ((List.range 32).map fun i => Nat.digitChar (id.uuid.toNat / 16 ^ (31 - i) % 16)).length = 32 := by
    rw [List.length_map, List.length_range]
  generalize ((List.range 32).map fun i => Nat.digitChar (id.uuid.toNat / 16 ^ (31 - i) % 16)) = hex at digits
  simp only [String.length_ofList, List.length_append, List.length_cons, List.length_take, List.length_drop, digits]
  omega

/-- The credentials that a callback page shows open the grant of this callback, for every request that begins after
the page was sent and until a refresh of the grant is refused: whatever else the service is asked in between. -/
theorem credentials_serve (h : Pool.Reachable Store.Step (service P s (fun _ => none) requests) c) {i : ι}
    {args : List (String × String)} (asks : requests i = .callback args) {response : Response}
    (finished : (c.thread i).rest = .pure response) {template : String} {page : PageVariables}
    (body : response.body = .page template page) {text key : String} (shown : page.clientId = some text)
    (shownSecret : page.clientSecret = some key) (parses : ∀ id : ClientId, id.str = text → P.uuid text = some id)
    (length : key.length = 44) (later : Pool.Reachable Store.Step c c') {j : ι} {r : TokenRequest} {answer : Response}
    (asks' : requests j = .token r) (fresh : (c.thread j).done = [])
    (presented : presentedCredentials r = .ok (some text, some key)) (answered : (c'.thread j).rest = .pure answer) :
    ∃ credentials r₀, Presents P r credentials ∧ answer = served s r₀ ∧
      (Refused P s requests (acts c') credentials.clientId ∧ r₀ = revokedAnswer P s r.userAgent ∨
        ∃ payload, Descends P s requests (acts c') i credentials.clientId payload ∧
          ServedFrom P s r credentials payload (acts c' j) r₀) := by
  obtain ⟨id, secret, issued, rfl, same⟩ := page_issues h asks finished body shown
  obtain rfl : key = secret.text := Option.some.inj (shownSecret.symm.trans same)
  have presents : Presents P r ⟨id, secret⟩ := by
    refine ⟨_, _, presented, validateCredentials_ok ?_ ?_ ?_ (parses id rfl)⟩
    · intro empty
      have := clientId_str_length id
      simp [empty] at this
    · intro empty
      simp [empty] at length
    · intro same
      have := clientId_str_length id
      rw [same] at this
      omega
  obtain ⟨row, found⟩ := (lineage_reachable h).1.issued i id secret issued
  have whole := h.trans later
  obtain ⟨custody, lineage⟩ := lineage_reachable whole
  have still : Issues (acts c' i) id secret := by
    obtain ⟨u, split⟩ := acts_grow later i
    exact split ▸ issued.append u
  have run : Runs (respond P s (requests j)) (c'.thread j).done (.ok answer) := Pool.runs whole answered
  rw [asks'] at run
  obtain ⟨r₀, ended, same⟩ := (serve_ensures s (token_ensures P s r)).runs run
  refine ⟨⟨id, secret⟩, r₀, presents, Except.ok.inj same, ?_⟩
  have ended : TokenRun P s r (acts c' j) r₀ := ended
  exact ended.issued presents custody lineage still (selects_later found fresh later)

end Service
namespace Sample

def shownBy (r : Response) : Option (Option String × Option String) :=
  match r.body with
  | .page _ page => some (page.clientId, page.clientSecret)
  | _ => none

theorem granted_page : ∃ response template page, ((granted (Sample.response 200 accessToken)).thread false).rest = .pure response ∧
    response.body = .page template page ∧ page.clientId = some clientId.str ∧ page.clientSecret = some secret.text := by
  have shown : (callbackRun fun _ => Sample.response 200 accessToken).result.toOption.bind shownBy =
      some (some clientId.str, some secret.text) := by decide +kernel
  obtain ⟨response, answer⟩ := callbackRun_result fun _ => Sample.response 200 accessToken
  rw [answer] at shown
  have finished : ((granted (Sample.response 200 accessToken)).thread false).rest = .pure response := by
    show Program.ofExcept (callbackRun fun _ => Sample.response 200 accessToken).result = _
    rw [answer]
    rfl
  have shown : shownBy response = some (some clientId.str, some secret.text) := shown
  unfold shownBy at shown
  split at shown
  · rename_i template page body
    obtain ⟨id, key⟩ := Prod.mk.inj (Option.some.inj shown)
    exact ⟨response, template, page, finished, body, id, key⟩
  · cases shown

theorem refreshed_later (a a' : Upstream) : Pool.Reachable Store.Step (granted a) (refreshed a a') := by
  have asked := Program.eval_runs World.answer (respond platform settings (.token request))
    { emptyWorld (fun _ => a') with store := (granted a).world }
  have stored := World.eval_follows_store (respond platform settings (.token request))
    { emptyWorld (fun _ => a') with store := (granted a).world }
  have served := Pool.reachable_run (c := granted a) (i := true) asked stored
  unfold refreshed
  dsimp only at served ⊢
  exact served

theorem refreshed_answered (a a' : Upstream) : ∃ answer, ((refreshed a a').thread true).rest = .pure answer := by
  obtain ⟨answer, ended⟩ := respond_answers (P := platform) (s := settings) (Program.eval_runs World.answer
    (respond platform settings (.token request)) { emptyWorld (fun _ => a') with store := (granted a).world })
  refine ⟨answer, ?_⟩
  dsimp only [refreshed, Pool.Config.advance]
  rw [Function.update_self, ended]
  rfl

end Sample

/-- The row of a callback holds what this callback was granted. -/
theorem grants_descend_granted :
    ∃ row, (Sample.granted (Sample.response 200 Sample.accessToken)).world Sample.clientId = some row ∧
      ∃ i secret, Issues (acts (Sample.granted (Sample.response 200 Sample.accessToken)) i) Sample.clientId secret ∧
        (row.token = none ∧ Refused Sample.platform Sample.settings Sample.requests
            (acts (Sample.granted (Sample.response 200 Sample.accessToken))) Sample.clientId ∨
          ∃ token payload, row.token = some token ∧ loads secret token = some (.object payload) ∧
            Descends Sample.platform Sample.settings Sample.requests
              (acts (Sample.granted (Sample.response 200 Sample.accessToken))) i Sample.clientId payload) := by
  have stored : ((Sample.granted (Sample.response 200 Sample.accessToken)).world Sample.clientId).isSome = true := by
    decide +kernel
  obtain ⟨row, found⟩ := Option.isSome_iff_exists.mp stored
  obtain ⟨i, secret, issued, _, held⟩ := grants_descend (Sample.granted_reachable _) found
  exact ⟨row, found, i, secret, issued, held⟩

/-- The credentials of a page are taken right after it was sent. -/
theorem credentials_serve_granted :
    let a := Sample.response 200 Sample.accessToken
    ∃ answer credentials r₀, ((Sample.refreshed a a).thread true).rest = .pure answer ∧
      Presents Sample.platform Sample.request credentials ∧ answer = served Sample.settings r₀ ∧
      (Refused Sample.platform Sample.settings Sample.requests (acts (Sample.refreshed a a)) credentials.clientId ∧
          r₀ = revokedAnswer Sample.platform Sample.settings "" ∨
        ∃ payload, Descends Sample.platform Sample.settings Sample.requests (acts (Sample.refreshed a a)) false
            credentials.clientId payload ∧
          ServedFrom Sample.platform Sample.settings Sample.request credentials payload (acts (Sample.refreshed a a) true) r₀) := by
  intro a
  obtain ⟨response, template, page, finished, body, shown, shownSecret⟩ := Sample.granted_page
  obtain ⟨answer, answered⟩ := Sample.refreshed_answered a a
  obtain ⟨credentials, r₀, serves⟩ := credentials_serve (Sample.granted_reachable a) (i := false) rfl finished body shown
    shownSecret (fun id same => by simp [symbolicPlatform, ClientId.str_injective same]) (by decide)
    (Sample.refreshed_later a a) (j := true) rfl rfl (by decide +kernel) answered
  exact ⟨answer, credentials, r₀, answered, serves⟩

end OAuthClientBridge
