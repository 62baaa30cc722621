import OAuthClientBridge.Disclosure
import OAuthClientBridge.Service

/-!
Who holds what key. `/callback` issues a client id with a secret; from then on the token of that
client is sealed under the key of that secret, whatever the requests do and however they interleave.
-/

namespace OAuthClientBridge
open Python Effect Program

section Issues
variable {τ : Type} {F : Fernet τ}

/-- The request issued the secret with the client id: it drew both, and the row went in. -/
def Issues (t : Trace (bridge F)) (id : ClientId) (secret : ClientSecret F) : Prop :=
  ∃ nonce token now, drawn secret nonce id ++ [⟨.insert id token now, .inserted⟩] <:+: t

theorem Issues.append {t : Trace (bridge F)} {id : ClientId} {secret : ClientSecret F} (h : Issues t id secret)
    (u : Trace (bridge F)) : Issues (t ++ u) id secret := by
  obtain ⟨nonce, token, now, inside⟩ := h
  exact ⟨nonce, token, now, inside.trans (List.prefix_append t u).isInfix⟩

theorem issues_snoc {t : Trace (bridge F)} {e : Event (bridge F)} {id : ClientId} {secret : ClientSecret F}
    (h : Issues (t ++ [e]) id secret) : Issues t id secret ∨
      ∃ nonce token now, e = ⟨.insert id token now, .inserted⟩ ∧ drawn secret nonce id <:+ t := by
  obtain ⟨nonce, token, now, inside⟩ := h
  rcases List.infix_concat_iff.mp inside with ⟨u, split⟩ | before
  · obtain ⟨drew, same⟩ := List.append_inj' ((List.append_assoc ..).trans split) rfl
    exact .inr ⟨nonce, token, now, (List.singleton_inj.mp same).symm, u, drew⟩
  · exact .inl ⟨nonce, token, now, before⟩

theorem issues_inserted (t : Trace (bridge F)) (secret : ClientSecret F) (nonce : Nonce) (id : ClientId) (token : τ)
    (now : Int) : Issues (t ++ drawn secret nonce id ++ [⟨.insert id token now, .inserted⟩]) id secret :=
  ⟨nonce, token, now, ⟨t, [], by simp⟩⟩

theorem drawn_injective {t : Trace (bridge F)} {secret secret' : ClientSecret F} {nonce nonce' : Nonce}
    {id id' : ClientId} (h : drawn secret' nonce' id' <:+ t ++ drawn secret nonce id) : secret' = secret := by
  obtain ⟨u, split⟩ := h
  have same := (List.append_inj' split rfl).2
  simpa [drawn] using (List.cons.inj same).1

end Issues

section Custody
variable {τ ι : Type} {F : Fernet τ} {U : Payload → Prop}

/-- A row of an issued client; its token, if any, is a good payload under the key of the issued secret. -/
def Kept (U : Payload → Prop) (ts : ι → Trace (bridge F)) (id : ClientId) (row : Row τ) : Prop :=
  ∃ i secret, Issues (ts i) id secret ∧
    ∀ token ∈ row.token, ∃ nonce payload, token = F.encrypt secret.key nonce payload ∧ U payload

/-- The invariant of the table and of what the requests have done; `U` says which payloads are good. -/
structure Custody (U : Payload → Prop) (σ : Store τ) (ts : ι → Trace (bridge F)) : Prop where
  issued : ∀ i id secret, Issues (ts i) id secret → ∃ row, σ id = some row
  single : ∀ i j id secret secret', Issues (ts i) id secret → Issues (ts j) id secret' → secret' = secret
  stored : ∀ id row, σ id = some row → Kept U ts id row
  read : ∀ i id row, ⟨.select id, some row⟩ ∈ ts i → Kept U ts id row

theorem custody_empty : Custody U (fun _ => none) fun _ : ι => ([] : Trace (bridge F)) where
  issued _ _ _ h := by
    obtain ⟨_, _, _, inside⟩ := h
    simp at inside
  single _ _ _ _ _ h := by
    obtain ⟨_, _, _, inside⟩ := h
    simp at inside
  stored _ _ h := by cases h
  read _ _ _ h := by cases h

section Step
variable [DecidableEq ι] {ts : ι → Trace (bridge F)} {σ σ' : Store τ} {i j : ι} {e : Event (bridge F)}
  {id : ClientId} {row : Row τ} {secret secret' : ClientSecret F}

theorem Issues.extend (h : Issues (ts j) id secret) (i : ι) (e : Event (bridge F)) :
    Issues (Function.update ts i (ts i ++ [e]) j) id secret := by
  by_cases same : j = i
  · subst same
    simpa using h.append [e]
  · simpa [same] using h

theorem Kept.extend (h : Kept U ts id row) (i : ι) (e : Event (bridge F)) :
    Kept U (Function.update ts i (ts i ++ [e])) id row := by
  obtain ⟨j, secret, issued, sealed⟩ := h
  exact ⟨j, secret, issued.extend i e, sealed⟩

theorem issues_update (h : Issues (Function.update ts i (ts i ++ [e]) j) id secret) : Issues (ts j) id secret ∨
    j = i ∧ ∃ nonce token now, e = ⟨.insert id token now, .inserted⟩ ∧ drawn secret nonce id <:+ ts i := by
  by_cases same : j = i
  · subst same
    exact (issues_snoc (by simpa using h)).imp_right fun new => ⟨rfl, new⟩
  · exact .inl (by simpa [same] using h)

theorem mem_update {e' : Event (bridge F)} (h : e' ∈ Function.update ts i (ts i ++ [e]) j) : e' ∈ ts j ∨ e' = e := by
  by_cases same : j = i
  · subst same
    simpa using h
  · exact .inl (by simpa [same] using h)

theorem Custody.quiet (h : Custody U σ ts) (notInserted : ∀ id token now, e ≠ ⟨.insert id token now, .inserted⟩)
    (rows : ∀ id row, σ id = some row → ∃ row', σ' id = some row')
    (kept : ∀ id row, σ' id = some row → Kept U ts id row)
    (found : ∀ id row, e = ⟨.select id, some row⟩ → σ id = some row) :
    Custody U σ' (Function.update ts i (ts i ++ [e])) := by
  have before : ∀ {j id} {secret : ClientSecret F}, Issues (Function.update ts i (ts i ++ [e]) j) id secret →
      Issues (ts j) id secret := by
    intro j id secret issued
    rcases issues_update issued with old | ⟨_, _, token, now, inserted, _⟩
    · exact old
    · exact absurd inserted (notInserted id token now)
  refine ⟨fun j id secret issued => ?_, fun j k id secret secret' issued issued' => ?_, fun id row stored => ?_,
    fun j id row met => ?_⟩
  · obtain ⟨row, stored⟩ := h.issued j id secret (before issued)
    exact rows id row stored
  · exact h.single j k id secret secret' (before issued) (before issued')
  · exact (kept id row stored).extend i e
  · obtain old | rfl := mem_update met
    · exact (h.read j id row old).extend i _
    · exact (h.stored id row (found id row rfl)).extend i _

theorem Custody.insert (h : Custody U σ ts) {t : Trace (bridge F)} {nonce : Nonce} {payload : Payload} {now : Int}
    (drew : ts i = t ++ drawn secret nonce id) (missing : σ id = none) (good : U payload) :
    Custody U (σ.write id ⟨some (F.encrypt secret.key nonce payload), some now, some now⟩)
      (Function.update ts i (ts i ++ [⟨.insert id (F.encrypt secret.key nonce payload) now, .inserted⟩])) := by
  generalize he : (⟨.insert id (F.encrypt secret.key nonce payload) now, .inserted⟩ : Event (bridge F)) = e
  -- `INSERT` found no row under the id, and every issued client has one: the id is new.
  have unissued : ∀ j secret', ¬Issues (ts j) id secret' := by
    intro j secret' issued
    obtain ⟨row, found⟩ := h.issued j id secret' issued
    cases missing.symm.trans found
  have new : ∀ {j id'} {secret' : ClientSecret F}, Issues (Function.update ts i (ts i ++ [e]) j) id' secret' →
      (id' ≠ id ∧ Issues (ts j) id' secret') ∨ (id' = id ∧ secret' = secret) := by
    intro j id' secret' issued
    rcases issues_update issued with old | ⟨_, nonce', token', now', inserted, drew'⟩
    · exact .inl ⟨fun same => unissued j secret' (same ▸ old), old⟩
    · obtain rfl : id = id' := by
        cases he.trans inserted
        rfl
      exact .inr ⟨rfl, drawn_injective (drew ▸ drew')⟩
  have now_issued : Issues (Function.update ts i (ts i ++ [e]) i) id secret := by
    rw [Function.update_self, drew, ← he]
    exact issues_inserted t secret nonce id _ now
  refine ⟨fun j id' secret' issued => ?_, fun j k id' secret' secret'' issued issued' => ?_,
    fun id' row stored => ?_, fun j id' row met => ?_⟩
  · rcases new issued with ⟨other, old⟩ | ⟨rfl, rfl⟩
    · obtain ⟨row, found⟩ := h.issued j id' secret' old
      exact ⟨row, by rw [Store.write_other _ _ other, found]⟩
    · exact ⟨_, Store.write_self _ _ _⟩
  · obtain ⟨other, old⟩ | ⟨rfl, rfl⟩ := new issued <;> obtain ⟨other', old'⟩ | ⟨same', rfl⟩ := new issued'
    · exact h.single j k id' secret' secret'' old old'
    · exact absurd same' other
    · exact absurd rfl other'
    · rfl
  · by_cases same : id' = id
    · subst same
      obtain rfl := Option.some.inj ((Store.write_self _ _ _).symm.trans stored)
      exact ⟨i, secret, now_issued, fun token sealed => ⟨nonce, payload, (Option.some.inj sealed).symm, good⟩⟩
    · rw [Store.write_other _ _ same] at stored
      exact (h.stored id' row stored).extend i e
  · rcases mem_update met with old | rfl
    · exact (h.read j id' row old).extend i _
    · cases he

end Step
end Custody

section Service
variable {τ ι : Type} {P : Platform τ} {s : Settings} {U : Payload → Prop} {t : Trace (bridge P.fernet)} {req : Request} {id : ClientId}

theorem ServiceOp.insert {token : τ} {now : Int} (h : ServiceOp P s req t (.insert id token now)) :
    ∃ args t₀ secret nonce result, req = .callback args ∧ t = t₀ ++ drawn secret nonce id ∧
      token = P.fernet.encrypt secret.key nonce (grantPayload result) ∧
      Returned P s.fetch (seen t) result ∧ exchangeError s result = .ok none := by
  cases req with
  | authorize args => cases h
  | token req => cases h
  | callback args =>
    cases h with
    | @insert _ result t₀ secret nonce _ _ exchanged =>
      obtain ⟨_, _, returned, accepted⟩ := exchanged
      have quiet : seen (drawn secret nonce id) = [] := rfl
      exact ⟨args, t₀, secret, nonce, result, rfl, rfl, rfl, by rwa [seen_append, quiet, List.append_nil], accepted⟩

theorem ServiceOp.update {token : Option τ} {now : Int} (h : ServiceOp P s req t (.update id token now)) :
    ∃ r c row stored t' refreshed, req = .token r ∧ Presents P r c ∧ c.clientId = id ∧
      t = ⟨.select id, some row⟩ :: t' ∧ Opens c row (.object stored) ∧ stored.contains "refresh_token" = true ∧
      Returned P s.fetch (seen t) refreshed ∧ (token = none ∨ Accepted refreshed ∧
        ∃ nonce, token = some (P.fernet.encrypt c.clientSecret.key nonce (modifiedToken stored refreshed))) := by
  cases req with
  | authorize args => cases h
  | callback args => cases h
  | token r =>
    cases h with
    | revoke _ granted returned _ _ =>
      obtain ⟨row, tf, presents, opens, refreshable, _, rfl⟩ := granted
      exact ⟨r, _, row, _, tf, _, rfl, presents, rfl, rfl, opens, refreshable, returned, .inl rfl⟩
    | @update c stored refreshed t nonce _ granted returned accepted _ =>
      obtain ⟨row, tf, presents, opens, refreshable, _, rfl⟩ := granted
      have quiet : seen [(⟨.nonce, nonce⟩ : Event (bridge P.fernet))] = [] := rfl
      exact ⟨r, c, row, stored, tf ++ [⟨.nonce, nonce⟩], refreshed, rfl, presents, rfl, rfl, opens, refreshable,
        by rwa [seen_append, quiet, List.append_nil], .inr ⟨accepted, nonce, rfl⟩⟩

/-- A key that opens a kept row is the key of the issued secret, and what it opens is good. -/
theorem Kept.opened {ts : ι → Trace (bridge P.fernet)} {row : Row τ} {c : ClientCredentials P.fernet} {stored : Payload}
    (h : Kept U ts c.clientId row) (opens : Opens c row (.object stored)) :
    ∃ i secret, Issues (ts i) c.clientId secret ∧ c.clientSecret.key = secret.key ∧ U stored := by
  obtain ⟨i, secret, issued, sealed⟩ := h
  obtain ⟨token, live, opened⟩ := opens
  have held : token ∈ row.token := by
    have := Option.eq_some_of_filter_eq_some live
    simpa using this
  obtain ⟨nonce, payload, rfl, good⟩ := sealed token held
  rw [loads_eq] at opened
  have key := P.fernet.authentic opened
  rw [key, P.fernet.decrypt_encrypt] at opened
  obtain rfl := Document.object.inj (Option.some.inj opened)
  exact ⟨i, secret, issued, key, good⟩

variable [DecidableEq ι]

theorem Custody.step {σ σ' : Store τ} {ts : ι → Trace (bridge P.fernet)} {i : ι} {o : Op τ} {answer : Answer P.fernet o}
    (h : Custody U σ ts) (allowed : ServiceOp P s req (ts i) o) (now : Store.Step σ ⟨o, answer⟩ σ')
    (issue : ∀ p, Returned P s.fetch (seen (ts i)) p → exchangeError s p = .ok none → U (grantPayload p))
    (refresh : ∀ stored p, Returned P s.fetch (seen (ts i)) p → Accepted p → U stored →
      stored.contains "refresh_token" = true → U (modifiedToken stored p)) :
    Custody U σ' (Function.update ts i (ts i ++ [⟨o, answer⟩])) := by
  obtain ⟨rfl, notInserted, selected⟩ | ⟨id, token, time, same, missing, rfl⟩ |
    ⟨id, row, token, time, n, same, found, rfl⟩ := Store.step_cases now
  · refine h.quiet notInserted (fun id row stored => ⟨row, stored⟩) h.stored fun id row same => ?_
    exact (selected id _ same).symm
  · cases same
    obtain ⟨args, t, secret, nonce, result, _, drew, rfl, returned, accepted⟩ := allowed.insert
    exact h.insert drew missing (issue result returned accepted)
  · cases same
    obtain ⟨r, c, read, stored, t', refreshed, _, _, rfl, trace, opens, refreshable, returned, write⟩ := allowed.update
    have rowKept := h.stored c.clientId row found
    refine h.quiet nofun (fun id' row' stored => ?_) (fun id' row' stored' => ?_) nofun
    · obtain ⟨row'', stays, _⟩ := Store.step_persists now stored
      exact ⟨row'', stays⟩
    · by_cases own : id' = c.clientId
      · subst own
        obtain rfl := Option.some.inj ((Store.write_self _ _ _).symm.trans stored')
        obtain ⟨j, secret, issued, _⟩ := rowKept
        obtain ⟨k, secret', issued', key, good⟩ := (h.read i c.clientId read (by simp [trace])).opened opens
        obtain rfl := h.single j k _ _ _ issued issued'
        refine ⟨j, secret', issued, fun token' held => ?_⟩
        rcases write with rfl | ⟨accepted, nonce, rfl⟩
        · cases held
        · obtain rfl := Option.some.inj held
          exact ⟨nonce, _, by rw [key], refresh stored refreshed returned accepted good refreshable⟩
      · rw [Store.write_other _ _ own] at stored'
        exact h.stored id' row' stored'

section Run
variable {W : Type} {env : Environment (bridge P.fernet) W} {store : W → Store τ} {Sound : Upstream → Prop}
  {requests : ι → Request} {w : W} {c : Pool.Config (bridge P.fernet) Exc Response W ι}

/-- Custody holds in every configuration that the service reaches from an empty table, when the
provider gives sound answers only, and sound answers make good payloads. -/
theorem custody_reachable (tracks : ∀ w e w', env w e w' → Store.Step (store w) e (store w'))
    (sound : ∀ w uri data timeout a w', env w ⟨.send uri data timeout, a⟩ w' → Sound a)
    (issue : ∀ l p, (∀ a ∈ answers l, Sound a) → Returned P s.fetch l p → exchangeError s p = .ok none →
      U (grantPayload p))
    (refresh : ∀ l stored p, (∀ a ∈ answers l, Sound a) → Returned P s.fetch l p → Accepted p → U stored →
      stored.contains "refresh_token" = true → U (modifiedToken stored p))
    (empty : store w = fun _ => none) (h : Pool.Reachable env (service P s w requests) c) :
    Custody U (store c.world) (acts c) ∧ ∀ i, ∀ a ∈ answers (seen (acts c i)), Sound a := by
  refine @Pool.invariant _ _ _ _ _ _ env _ w c Op.silent _ _
    (fun w ts => Custody U (store w) ts ∧ ∀ i, ∀ a ∈ answers (seen (ts i)), Sound a)
    (fun i => respond_ensures P s (requests i)) ⟨empty ▸ custody_empty, by simp⟩
    (fun w ts e w' silent held now => ?_) (fun w ts i o answer w' _ _ held allowed now => ?_) h
  · rw [Store.step_silent silent (tracks _ _ _ now)]
    exact held
  · refine ⟨held.1.step allowed (tracks _ _ _ now) (fun p => issue _ p (held.2 i))
      (fun stored p => refresh _ stored p (held.2 i)), fun j a met => ?_⟩
    by_cases same : j = i
    · subst same
      rw [Function.update_self, seen_append, answers_append] at met
      rcases List.mem_append.mp met with before | new
      · exact held.2 j a before
      · cases o with
        | send uri data timeout =>
          obtain rfl : a = answer := by simpa using new
          exact sound _ uri data timeout a _ now
        | uniform low high => simp at new
        | _ => cases new
    · exact held.2 j a (by simpa [same] using met)

end Run

/-! ### What follows from it -/

variable {requests : ι → Request} {c c' : Pool.Config (bridge P.fernet) Exc Response (Store τ) ι}

theorem rows_persist (h : Pool.Reachable Store.Step c c') {row : Row τ} (found : c.world id = some row) :
    ∃ row', c'.world id = some row' ∧ row'.createdAt = row.createdAt := by
  induction h with
  | refl => exact ⟨row, found, rfl⟩
  | tail _ step ih =>
    obtain ⟨row', found', same⟩ := ih
    obtain ⟨i, ready, now⟩ := step
    obtain ⟨row'', found'', same'⟩ := Store.step_persists now found'
    exact ⟨row'', found'', same'.trans same⟩

theorem token_writes_own (h : Pool.Reachable Store.Step (service P s (fun _ => none) requests) c) {i : ι}
    {r : TokenRequest} (asks : requests i = .token r) {o : Op τ} {answer : Answer P.fernet o}
    {next : Answer P.fernet o → Action P.fernet Response} (ready : (c.thread i).rest = .op o next) {σ' : Store τ}
    (now : Store.Step c.world ⟨o, answer⟩ σ') (changed : σ' id ≠ c.world id) :
    ∃ credentials, Presents P r credentials ∧ credentials.clientId = id := by
  cases loud : o.silent with
  | true => exact absurd (congrFun (@Store.step_silent _ _ _ _ ⟨o, answer⟩ loud now) id) changed
  | false =>
    have allowed := acts_next h ready loud
    obtain ⟨rfl, _⟩ | ⟨other, token, time, same, _, _⟩ | ⟨other, row, token, time, n, same, _, rfl⟩ :=
      Store.step_cases now
    · exact absurd rfl changed
    · cases same
      obtain ⟨args, _, _, _, _, calls, _⟩ := allowed.insert
      cases asks.symm.trans calls
    · cases same
      obtain ⟨r', credentials, _, _, _, _, asks', presents, own, _⟩ := allowed.update
      cases asks.symm.trans asks'
      refine ⟨credentials, presents, own.trans ?_⟩
      by_contra different
      exact changed (Store.write_other _ _ (Ne.symm different))

def Op.outward : Op τ → Bool
  | .send _ _ _ | .insert _ _ _ | .update _ _ _ => true
  | _ => false

theorem TokenOp.past_select {r : TokenRequest} {answer : Option (Row τ)} (past : Past (TokenOp P s r) t)
    (read : ⟨.select id, answer⟩ ∈ t) : ∃ t', t = ⟨.select id, answer⟩ :: t' := by
  obtain ⟨t₁, t₂, split⟩ := List.append_of_mem read
  have first := past t₁ _ t₂ split
  generalize t₁ = before at first split
  cases first
  exact ⟨t₂, split⟩

theorem TokenOp.outward {r : TokenRequest} {o : Op τ} (h : TokenOp P s r t o) (outward : o.outward = true) :
    ∃ credentials row stored t', Presents P r credentials ∧ Opens credentials row stored ∧
      t = ⟨.select credentials.clientId, some row⟩ :: t' := by
  cases h with
  | select _ | draw _ _ _ | nonce _ _ _ => cases outward
  | send _ granted _ | revoke _ granted _ _ _ =>
    obtain ⟨row, tf, presents, opens, _, _, rfl⟩ := granted
    exact ⟨_, row, _, tf, presents, opens, rfl⟩
  | update nonce _ granted _ _ _ =>
    obtain ⟨row, tf, presents, opens, _, _, rfl⟩ := granted
    exact ⟨_, row, _, tf ++ [⟨.nonce, nonce⟩], presents, opens, rfl⟩

theorem token_unopened_inert (h : Pool.Reachable Store.Step (service P s (fun _ => none) requests) c) {i : ι}
    {r : TokenRequest} (asks : requests i = .token r) {answer : Option (Row τ)}
    (read : ⟨.select id, answer⟩ ∈ acts c i)
    (shut : ∀ credentials row stored, Presents P r credentials → answer = some row → ¬Opens credentials row stored) :
    ∀ e ∈ (c.thread i).done, e.op.outward = false := by
  intro e performed
  by_contra outward
  have outward : e.op.outward = true := by simpa using outward
  have past := acts_past h i
  rw [asks] at past
  have met : e ∈ acts c i := by
    refine List.mem_filter.mpr ⟨performed, ?_⟩
    obtain ⟨o, a⟩ := e
    cases o <;> first | rfl | cases outward
  obtain ⟨t', first⟩ := TokenOp.past_select past read
  obtain ⟨t₁, t₂, split⟩ := List.append_of_mem met
  obtain ⟨credentials, row, stored, t₁', presents, opens, rfl⟩ := (past t₁ e t₂ split).outward outward
  have same := (List.cons.inj (first.symm.trans split)).1
  cases same
  exact shut credentials row stored presents rfl opens

theorem pageAnswer_anonymous {error : PageError} {description : String} {state : Option String} {retryAfter : Json}
    {response : Response} (h : pageAnswer s error description state retryAfter = .ok response) {template : String}
    {page : PageVariables} (body : response.body = .page template page) : page.clientId = none := by
  unfold pageAnswer pageRetryAfter at h
  cases described : error.describe description with
  | error e => simp [described] at h
  | ok description =>
    simp only [described, ok_bind] at h
    split at h
    · obtain ⟨_, r, set, _, same⟩ | ⟨_, p, set⟩ := setRetryAfter_ready (render s error.status
        { state, error := some error.code, description := some description }) retryAfter
      · obtain rfl := Except.ok.inj (set.symm.trans h)
        cases same.symm.trans body
        rfl
      · cases set.symm.trans h
    · obtain rfl := Except.ok.inj h
      cases body
      rfl

theorem CallbackRun.shows {args : List (String × String)} {r₀ : Except Exc Response} (run : CallbackRun P s args t r₀)
    {template : String} {page : PageVariables} (body : (served s r₀).body = .page template page) {text : String}
    (shown : page.clientId = some text) :
    ∃ id secret, Issues t id secret ∧ text = id.str ∧ page.clientSecret = some secret.text := by
  have anonymous : ∀ {error : PageError} {description : String} {state : Option String} {retryAfter : Json},
      r₀ ≠ OAuthClientBridge.raised (pageAnswer s error description state retryAfter) := by
    rintro error description state retryAfter rfl
    cases answer : pageAnswer s error description state retryAfter with
    | error e => simp [answer, served_python, jsonify] at body
    | ok response =>
      have body' : response.body = .page template page := by simpa [answer, served, answered] using body
      cases (pageAnswer_anonymous answer body').symm.trans shown
  cases run with
  | checkFailed _ _ | raised _ _ | unreadable _ _ _ => simp [served_python, jsonify] at body
  | rejected _ _ | failed _ _ _ | taken _ _ _ _ _ => exact absurd rfl anonymous
  | issued secret nonce id now _ =>
    refine ⟨id, secret, issues_inserted _ secret nonce id _ now, ?_⟩
    simp only [served, answered, issuedPage, nocache_body, render, ResponseBody.page.injEq] at body
    obtain ⟨_, rfl⟩ := body
    exact ⟨(Option.some.inj shown).symm, rfl⟩

theorem page_issues (h : Pool.Reachable Store.Step (service P s (fun _ => none) requests) c) {i : ι}
    {args : List (String × String)} (asks : requests i = .callback args) {response : Response}
    (finished : (c.thread i).rest = .pure response) {template : String} {page : PageVariables}
    (body : response.body = .page template page) {text : String} (shown : page.clientId = some text) :
    ∃ id secret, Issues (acts c i) id secret ∧ text = id.str ∧ page.clientSecret = some secret.text := by
  have run : Runs (respond P s (requests i)) (c.thread i).done (.ok response) := Pool.runs h finished
  rw [asks] at run
  obtain ⟨r₀, ended, answer⟩ := (serve_ensures s (callback_ensures P s args)).runs run
  obtain rfl := Except.ok.inj answer
  exact ended.shows body shown

/-- The custody of the tokens, over every interleaving of the requests: rows stay with their creation
time; a live token opens under the secret that `/callback` issued, to an object; `/token` touches
no row but its own; and without a secret that opens the row it read, it does nothing outward. -/
theorem custody {requests : ι → Request} {c : Pool.Config (bridge P.fernet) Exc Response (Store τ) ι}
    (h : Pool.Reachable Store.Step (service P s (fun _ => none) requests) c) :
    (∀ c', Pool.Reachable Store.Step c c' → ∀ id row, c.world id = some row →
        ∃ row', c'.world id = some row' ∧ row'.createdAt = row.createdAt) ∧
      (∀ id row token, c.world id = some row → row.token = some token →
        (∃ i secret, Issues (acts c i) id secret) ∧
          ∀ i secret, Issues (acts c i) id secret → ∃ payload, loads secret token = some (.object payload)) ∧
      (∀ i r o answer next σ', requests i = .token r → (c.thread i).rest = .op o next →
        Store.Step c.world ⟨o, answer⟩ σ' → ∀ id, σ' id ≠ c.world id →
        ∃ credentials, Presents P r credentials ∧ credentials.clientId = id) ∧
      (∀ i r id answer, requests i = .token r → ⟨.select id, answer⟩ ∈ acts c i →
        (∀ credentials row stored, Presents P r credentials → answer = some row → ¬Opens credentials row stored) →
        ∀ e ∈ (c.thread i).done, e.op.outward = false) ∧
      ∀ i args response template page text, requests i = .callback args → (c.thread i).rest = .pure response →
        response.body = .page template page → page.clientId = some text →
        ∃ id secret, Issues (acts c i) id secret ∧ text = id.str ∧ page.clientSecret = some secret.text := by
  have held : Custody (fun _ => True) c.world (acts c) :=
    (@custody_reachable _ _ P s _ _ _ _ id (fun _ => True) _ _ _ (fun _ _ _ now => now) (fun _ _ _ _ _ _ _ => trivial)
      (fun _ _ _ _ _ => trivial) (fun _ _ _ _ _ _ _ _ => trivial) rfl h).1
  refine ⟨fun c' later id row found => rows_persist later found, fun id row token found live => ?_,
    fun i r o answer next σ' asks ready now id changed => token_writes_own h asks ready now changed,
    fun i r id answer asks read shut => token_unopened_inert h asks read shut,
    fun i args response template page text asks finished body shown => page_issues h asks finished body shown⟩
  obtain ⟨i, secret, issued, sealed⟩ := held.stored id row found
  obtain ⟨nonce, payload, rfl, _⟩ := sealed token live
  refine ⟨⟨i, secret, issued⟩, fun j secret' issued' => ⟨payload, ?_⟩⟩
  obtain rfl := held.single i j id secret secret' issued issued'
  rw [loads_eq, P.fernet.decrypt_encrypt]

end Service

namespace Sample

def requests : Bool → Request
  | false => .callback arguments
  | true => .token request

def granted (a : Upstream) : Pool.Config (bridge platform.fernet) Exc Response (Store Sealed) Bool :=
  let run := callbackRun fun _ => a
  (service platform settings (fun _ => none) requests).advance false run.world.store run.trace
    (Program.ofExcept run.result)

theorem granted_reachable (a : Upstream) :
    Pool.Reachable Store.Step (service platform settings (fun _ => none) requests) (granted a) :=
  Pool.reachable_run (callbackRun_runs _) (callbackRun_follows _)

end Sample

/-- The token of an issued client opens under the secret that it was issued with. -/
theorem custody_granted :
    ∃ row token i secret payload, (Sample.granted (Sample.response 200 Sample.accessToken)).world Sample.clientId = some row ∧
      row.token = some token ∧
      Issues (acts (Sample.granted (Sample.response 200 Sample.accessToken)) i) Sample.clientId secret ∧
      loads secret token = some (.object payload) := by
  have live : ((Sample.granted (Sample.response 200 Sample.accessToken)).world Sample.clientId).any
      (fun row => row.token.isSome) = true := by decide +kernel
  obtain ⟨row, found, live⟩ := (Option.any_eq_true _ _).mp live
  obtain ⟨token, live⟩ := Option.isSome_iff_exists.mp live
  obtain ⟨⟨i, secret, issued⟩, opens⟩ := (custody (Sample.granted_reachable _)).2.1 _ row token found live
  obtain ⟨payload, opened⟩ := opens i secret issued
  exact ⟨row, token, i, secret, payload, found, live, issued, opened⟩

end OAuthClientBridge
