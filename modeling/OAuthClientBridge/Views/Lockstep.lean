import OAuthClientBridge.OAuth.Lockstep
import OAuthClientBridge.Service

/-!
Two runs of the bridge side by side, through the views and over a history of requests. Only the
write of a changed grant may happen in one run and not in the other, where logs are not compared.
-/

namespace OAuthClientBridge
open Python Effect Program

namespace Veil
variable {τ : Type} {F : Fernet τ} {V : Veil} {s : FetchSettings} {σ σ' : Store τ} {w w' : World F} {α β γ δ : Type}
  {A : α → β → Prop} {B : γ → δ → Prop}

variable (V) in
def Paired (s : FetchSettings) (A : α → β → Prop) (p : Action F α) (q : Action F β) : Prop :=
  Coupled World.answer (V.Even s) (V.Even s) A p q

variable (V) in
/-- From the given tables to some that match. -/
def Leads (s : FetchSettings) (σ σ' : Store τ) (A : α → β → Prop) (p : Action F α) (q : Action F β) : Prop :=
  Coupled World.answer (V.Held s σ σ') (V.Even s) A p q

theorem Steady.paired {p : Action F α} {q : Action F β} (h : V.Steady s A p q) : V.Paired s A p q := by
  rintro w w' ⟨σ, σ', stores, held⟩
  obtain ⟨ended, held⟩ := h σ σ' w w' held
  exact ⟨ended, σ, σ', stores, held⟩

theorem paired_iff {p : Action F α} {q : Action F β} :
    V.Paired s A p q ↔ ∀ σ σ', V.Stores F σ σ' → V.Leads s σ σ' A p q :=
  ⟨fun h σ σ' stores w w' held => h w w' ⟨σ, σ', stores, held⟩,
    fun h w w' ⟨σ, σ', stores, held⟩ => h σ σ' stores w w' held⟩

theorem Steady.leads {p : Action F α} {q : Action F β} (h : V.Steady s A p q) (stores : V.Stores F σ σ') :
    V.Leads s σ σ' A p q := paired_iff.mp h.paired σ σ' stores

theorem Steady.then {p : Action F α} {q : Action F β} {f : α → Action F γ} {g : β → Action F δ} (h : V.Steady s A p q)
    (stores : V.Stores F σ σ') (next : ∀ a b, A a b → V.Leads s σ σ' B (f a) (g b)) :
    V.Leads s σ σ' B (p >>= f) (q >>= g) :=
  (h σ σ').bind next fun _ _ held => ⟨σ, σ', stores, held⟩

theorem Leads.after {p : Action F α} {f : α → Action F β} {g : α → Action F γ} {A : β → γ → Prop} (h : Level p)
    (stores : V.Stores F σ σ') (next : ∀ a, V.Leads s σ σ' A (f a) (g a)) : V.Leads s σ σ' A (p >>= f) (p >>= g) :=
  (Steady.self h).then stores fun a _ same => same ▸ next a

theorem Leads.then {p : Action F α} {q : Action F β} {f : α → Action F γ} {g : β → Action F δ}
    (h : V.Leads s σ σ' A p q) (next : ∀ a b, A a b → V.Paired s B (f a) (g b)) :
    V.Leads s σ σ' B (p >>= f) (q >>= g) :=
  h.bind next fun _ _ even => even

theorem Paired.bind {p : Action F α} {q : Action F β} {f : α → Action F γ} {g : β → Action F δ}
    (h : V.Paired s A p q) (next : ∀ a b, A a b → V.Paired s B (f a) (g b)) : V.Paired s B (p >>= f) (q >>= g) :=
  Coupled.bind h next fun _ _ even => even

/-! ### The operations of the table -/

theorem Leads.select {id : ClientId} {f : Option (Row τ) → Action F α} {g : Option (Row τ) → Action F β}
    (next : V.Leads s σ σ' A (f (σ id)) (g (σ' id))) :
    V.Leads s σ σ' A (perform (.select id) >>= f) (perform (.select id) >>= g) := by
  refine Coupled.op (fun row row' => row = σ id ∧ row' = σ' id) (V.Held s σ σ')
    (fun w w' held => ⟨⟨by rw [← held.left]; rfl, by rw [← held.right]; rfl⟩, held⟩) fun row row' ⟨left, right⟩ => ?_
  rw [left, right]
  exact next

theorem Leads.utcnow {f : ℚ → Action F α} {g : ℚ → Action F β}
    (next : ∀ now now', (V.logged → now' = now) → V.Leads s σ σ' A (f now) (g now')) :
    V.Leads s σ σ' A (perform .utcnow >>= f) (perform .utcnow >>= g) := by
  refine Coupled.op (fun now now' => V.logged → now' = now) (V.Held s σ σ') (fun w w' held => ⟨?_, ?_⟩) next
  · exact fun logged => by simp [World.answer, held.utcnow logged]
  · exact { held with utcnow := fun logged => by simp [World.answer, held.utcnow logged] }

theorem Steady.dumps {p p' : Payload} (h : V.Payloads p p') (key : ClientSecret F) :
    V.Steady s (V.Tokens F) (dumps key p) (OAuthClientBridge.dumps key p') := fun σ σ' =>
  Coupled.op (fun _ _ => True) (V.Held s σ σ') (fun _ _ held => ⟨trivial, { held with }⟩)
    fun nonce nonce' _ => Coupled.pure (h.tokens key.key nonce nonce')

theorem Stores.write {row row' : Row τ} (stores : V.Stores F σ σ') (id : ClientId) (rows : V.Rows F row row') :
    V.Stores F (σ.write id row) (σ'.write id row') := by
  intro other
  by_cases same : other = id
  · subst same
    rw [Store.write_self, Store.write_self]
    exact .some rows
  · rw [Store.write_other _ _ same, Store.write_other _ _ same]
    exact stores other

theorem Stores.insert {token token' : τ} {now now' : Int} (stores : V.Stores F σ σ') (id : ClientId)
    (tokens : V.Tokens F token token') (times : V.logged → now' = now) :
    (σ'.insert id token' now').1 = (σ.insert id token now).1 ∧
      V.Stores F (σ.insert id token now).2 (σ'.insert id token' now').2 := by
  have now := stores id
  unfold Store.insert
  revert now
  cases σ id <;> cases σ' id <;> rintro ⟨⟩
  · exact ⟨rfl, stores.write id ⟨.some tokens, fun logged => by rw [times logged]⟩⟩
  · exact ⟨rfl, stores⟩

theorem Stores.update {token token' : Option τ} (now now' : Int) (stores : V.Stores F σ σ') (id : ClientId)
    (tokens : Option.Rel (V.Tokens F) token token') : (σ'.update id token' now').1 = (σ.update id token now).1 ∧
      V.Stores F (σ.update id token now).2 (σ'.update id token' now').2 := by
  have now := stores id
  unfold Store.update
  revert now
  cases σ id <;> cases σ' id <;> rintro ⟨⟩
  · exact ⟨rfl, stores⟩
  · rename_i rows
    exact ⟨rfl, stores.write id ⟨tokens, rows.createdAt⟩⟩

theorem Leads.insert {id : ClientId} {token token' : τ} {now now' : Int} {f : InsertResult → Action F α}
    {g : InsertResult → Action F β} (stores : V.Stores F σ σ') (tokens : V.Tokens F token token')
    (times : V.logged → now' = now) (next : ∀ result, V.Paired s A (f result) (g result)) :
    V.Leads s σ σ' A (perform (.insert id token now) >>= f) (perform (.insert id token' now') >>= g) := by
  obtain ⟨answers, after⟩ := stores.insert id tokens times
  refine Coupled.op (fun r r' => r' = r) (V.Even s) (fun w w' held => ?_) fun r r' same => same ▸ next r
  obtain rfl := held.left
  obtain rfl := held.right
  exact ⟨answers, _, _, after, { held with left := rfl, right := rfl }⟩

theorem Leads.update {id : ClientId} {token token' : Option τ} {now now' : Int} {f : Nat → Action F α}
    {g : Nat → Action F β} (stores : V.Stores F σ σ') (tokens : Option.Rel (V.Tokens F) token token')
    (next : ∀ n, V.Paired s A (f n) (g n)) :
    V.Leads s σ σ' A (perform (.update id token now) >>= f) (perform (.update id token' now') >>= g) := by
  obtain ⟨answers, after⟩ := stores.update now now' id tokens
  refine Coupled.op (fun n n' => n' = n) (V.Even s) (fun w w' held => ?_) fun n n' same => same ▸ next n
  obtain rfl := held.left
  obtain rfl := held.right
  exact ⟨answers, _, _, after, { held with left := rfl, right := rfl }⟩

theorem Leads.insertRow {id : ClientId} {token token' : τ} (stores : V.Stores F σ σ') (tokens : V.Tokens F token token') :
    V.Leads (F := F) s σ σ' Eq (Db.insert id token) (Db.insert id token') := by
  refine .utcnow fun now now' times => .insert stores tokens (fun logged => by rw [times logged]) fun result => ?_
  cases result with
  | inserted => exact Steady.paired (.emits (fun _ => rfl) (.pure rfl))
  | integrityError => exact Steady.paired (.pure rfl)

theorem Leads.updateRow {id : ClientId} {token token' : Option τ} (stores : V.Stores F σ σ')
    (tokens : Option.Rel (V.Tokens F) token token') : V.Leads (F := F) s σ σ' Eq (Db.update id token) (Db.update id token') := by
  refine .utcnow fun now now' times => .update stores tokens fun n => Steady.paired (.self ?_)
  simp only [level_emit_bind]
  split <;> simp

/-! ### Responses -/

variable (V) in
/-- The same response, up to the token it hands out; a refresh token is never in it. -/
inductive Replies : Response → Response → Prop where
  | same (r : Response) : Replies r r
  | token (r : Response) {p p' : Payload} (payloads : V.Payloads p p') (absent : p.contains "refresh_token" = false) :
      Replies { r with body := .json (.object p) } { r with body := .json (.object p') }

theorem Replies.nocache {r r' : Response} (h : V.Replies r r') : V.Replies (nocache r) (OAuthClientBridge.nocache r') := by
  cases h with
  | same r => exact .same _
  | token r payloads absent =>
    unfold OAuthClientBridge.nocache
    split
    · exact .token r payloads absent
    · exact .token ((r.withHeader "Cache-Control" "no-store").withHeader "Pragma" "no-cache") payloads absent

theorem level_errorPage (settings : Settings) (error : PageError) (description : String) (state : Option String) (retryAfter : Json) :
    Level (errorPage settings error description state retryAfter : Action F Response) := by
  unfold errorPage
  exact level_bind (level_liftPy _) fun _ => by simp

theorem level_errorHandler (settings : Settings) (e : Exc) : Level (handleError settings e : Action F Response) := by
  cases e with
  | python e => exact level_throw _
  | oauth e =>
    unfold handleError errorHandler
    exact level_bind (level_liftPy _) fun _ => by simp

theorem level_fallbackErrorHandler (e : Exc) : Level (fallbackErrorHandler e : Action F Response) := by
  simp only [fallbackErrorHandler, level_record_bind, level_emit_bind]
  exact level_bind (level_liftPy _) fun _ => level_pure _

theorem Paired.serve {settings : Settings} {p q : Action F Response} (h : V.Paired s V.Replies p q) :
    V.Paired s V.Replies (serve settings p) (OAuthClientBridge.serve settings q) := by
  have replied : ∀ {p : Action F Response}, Level p → V.Paired s V.Replies p p := fun level =>
    (Steady.self level).paired.mono (fun r _ same => same ▸ .same r) fun _ _ even => even
  unfold OAuthClientBridge.serve handled
  refine Paired.bind (Coupled.tryCatch (Coupled.tryCatch h (fun e => replied (level_errorHandler settings e))
    fun _ _ even => even) (fun e => replied (level_fallbackErrorHandler e)) fun _ _ even => even) fun r r' replies => ?_
  exact Steady.paired (.pure replies.nocache)

/-! ### `/` and `/callback` -/

section Views
variable {P : Platform τ} {settings : Settings}

theorem level_authorize (args : List (String × String)) : Level (authorize P settings args) := by
  unfold authorize
  dsimp only
  split
  · exact level_errorPage _ _ _ _ _
  split
  · exact level_errorPage _ _ _ _ _
  refine level_perform rfl fun state => level_perform rfl fun _ => level_perform rfl fun _ => ?_
  exact level_liftPy _

theorem level_callbackFailed (args : List (String × String)) (error : OAuthError) (desc : String)
    (clientState : Option String) : Level (callbackFailed settings args error desc clientState : Action F Response) := by
  unfold callbackFailed
  simp only [level_log_bind]
  exact level_errorPage _ _ _ _ _

theorem level_setClientId (id : ClientId) : Level (setClientId id : Action F Unit) := by
  simp [setClientId]

theorem exchangeError_eq {p p' : Payload} (h : V.Payloads p p') : exchangeError settings p' = exchangeError settings p := by
  unfold exchangeError
  rw [h.contains, h.getOrNull_plain (by decide), h.validateToken]

theorem exchangeFailed_eq {p p' : Payload} (h : V.Payloads p p') (error : PageError) (desc : String)
    (clientState : Option String) : (exchangeFailed settings p' error desc clientState : Action F Response) =
      exchangeFailed settings p error desc clientState := by
  unfold exchangeFailed
  rw [h.sanitize, h.getOrNull_plain (by decide)]

theorem level_exchangeFailed (p : Payload) (error : PageError) (desc : String) (clientState : Option String) :
    Level (exchangeFailed settings p error desc clientState : Action F Response) := by
  simp only [exchangeFailed, level_log_bind, level_emit_bind]
  exact level_errorPage _ _ _ _ _

theorem replied {p : Action F Response} (level : Level p) : V.Steady s V.Replies p p := fun σ σ' =>
  (Steady.self level σ σ').mono (fun r _ same => same ▸ .same r) fun _ _ held => held

theorem Leads.issueGrant {p p' : Payload} (h : V.Payloads p p') (stores : V.Stores F σ σ') (clientState : Option String) :
    V.Leads (F := F) s σ σ' V.Replies (issueGrant settings p clientState)
      (OAuthClientBridge.issueGrant settings p' clientState) := by
  unfold OAuthClientBridge.issueGrant
  have granted := h.grantPayload
  dsimp only
  rw [granted.keys]
  refine .after ⟨rfl, fun _ => trivial⟩ stores fun secret => ?_
  refine (Steady.dumps granted secret).then stores fun token token' tokens => ?_
  refine .after ⟨rfl, fun _ => trivial⟩ stores fun id => .after (level_setClientId id) stores fun _ => ?_
  refine .after (level_log _ _ _ _) stores fun _ => .after (level_emit _) stores fun _ => ?_
  refine (Leads.insertRow stores tokens).then fun result _ same => ?_
  subst same
  cases result with
  | inserted => exact Steady.paired (.pure (.same _))
  | integrityError => exact Steady.paired (.emits (fun _ => rfl) (replied (level_errorPage _ _ _ _ _)))

theorem Leads.callback (args : List (String × String)) (stores : V.Stores P.fernet σ σ') :
    V.Leads (F := P.fernet) settings.fetch σ σ' V.Replies (callback P settings args) (OAuthClientBridge.callback P settings args) := by
  unfold OAuthClientBridge.callback
  refine .after ⟨rfl, fun _ => trivial⟩ stores fun clientState => .after ⟨rfl, fun _ => trivial⟩ stores fun state => ?_
  refine .after (level_liftPy _) stores fun checked => ?_
  cases checked with
  | error failure => exact (replied (level_callbackFailed _ _ _ _)).leads stores
  | ok code =>
    unfold exchangeCode
    refine (Steady.fetch rfl).then stores fun p p' payloads => ?_
    rw [exchangeError_eq payloads]
    refine .after (level_liftPy _) stores fun failed => ?_
    cases failed with
    | some failure =>
      dsimp only
      rw [exchangeFailed_eq payloads]
      exact (replied (level_exchangeFailed _ _ _ _)).leads stores
    | none => exact .issueGrant payloads stores clientState

end Views

/-! ### `/token` -/

section Token
variable {t t' : τ} {k : F.Key} {p p' q q' : Payload}

/-- A token that the same key opens may stand for another with a matching payload. -/
theorem Tokens.left (tokens : V.Tokens F t t') (opened : F.decrypt k t = some (.object p))
    (opened' : F.decrypt k t' = some (.object p')) (set : F.isEmpty t' = false) (h : V.Payloads q p') (nonce : Nonce) :
    V.Tokens F (F.encrypt k nonce q) t' where
  isEmpty := by rw [set, F.encrypt_nonempty]
  decrypt k' := by
    cases now : F.decrypt k' (F.encrypt k nonce q) with
    | some d =>
      obtain rfl := F.authentic now
      rw [F.decrypt_encrypt] at now
      obtain rfl := Option.some.inj now
      rw [opened']
      exact .some (.object h)
    | none =>
      cases now' : F.decrypt k' t' with
      | none => exact .none
      | some d =>
        obtain rfl := tokens.single opened now'
        rw [F.decrypt_encrypt] at now
        cases now
  single now now' := (tokens.single opened now').trans (F.authentic now).symm

theorem Tokens.right (tokens : V.Tokens F t t') (opened : F.decrypt k t = some (.object p))
    (opened' : F.decrypt k t' = some (.object p')) (set : F.isEmpty t = false) (h : V.Payloads p q') (nonce : Nonce) :
    V.Tokens F t (F.encrypt k nonce q') where
  isEmpty := by rw [set, F.encrypt_nonempty]
  decrypt k' := by
    cases now' : F.decrypt k' (F.encrypt k nonce q') with
    | some d =>
      obtain rfl := F.authentic now'
      rw [F.decrypt_encrypt] at now'
      obtain rfl := Option.some.inj now'
      rw [opened]
      exact .some (.object h)
    | none =>
      cases now : F.decrypt k' t with
      | none => exact .none
      | some d =>
        obtain rfl := tokens.single now opened'
        rw [F.decrypt_encrypt] at now'
        cases now'
  single now now' := (F.authentic now').trans (tokens.single now opened')

theorem updateGrant_eval (c : ClientCredentials F) (stored refreshed : Payload) (w : World F) :
    ((updateGrant c stored refreshed).eval World.answer w).result = .ok () ∧ ∃ nonce now nonces utcnow emitted,
      ((updateGrant c stored refreshed).eval World.answer w).world = { w with
        store := if tokenChanged stored refreshed then
            (w.store.update c.clientId (some (F.encrypt c.clientSecret.key nonce (modifiedToken stored refreshed))) now).2
          else w.store
        nonces, utcnow, emitted } := by
  unfold updateGrant
  cases tokenChanged stored refreshed with
  | false => exact ⟨rfl, ⟨0, 0⟩, 0, w.nonces, w.utcnow, w.emitted, rfl⟩
  | true =>
    cases found : w.store c.clientId <;>
      refine ⟨?_, w.nonces.head, prepareTimestamp w.utcnow.head, w.nonces.tail, w.utcnow.tail, ?_⟩ <;>
      simp [Program.eval, dumps, Db.update, perform, emit, log, World.answer, Store.update, found, Program.perform]

theorem Stores.writeLeft {id : ClientId} {row row' : Row τ} (stores : V.Stores F σ σ') (found : σ' id = some row')
    (rows : V.Rows F row row') : V.Stores F (σ.write id row) σ' := by
  intro other
  by_cases same : other = id
  · subst same
    rw [Store.write_self, found]
    exact .some rows
  · rw [Store.write_other _ _ same]
    exact stores other

theorem Stores.writeRight {id : ClientId} {row row' : Row τ} (stores : V.Stores F σ σ') (found : σ id = some row)
    (rows : V.Rows F row row') : V.Stores F σ (σ'.write id row') := by
  intro other
  by_cases same : other = id
  · subst same
    rw [Store.write_self, found]
    exact .some rows
  · rw [Store.write_other _ _ same]
    exact stores other

end Token

section Token
variable {P : Platform τ} {settings : Settings} {σ σ' : Store τ} {p p' q q' : Payload} {c : ClientCredentials P.fernet}
  {row row' : Row τ}

theorem opens_sealed {d : Document} (h : Opens c row d) : ∃ token, row.token = some token ∧
    P.fernet.isEmpty token = false ∧ P.fernet.decrypt c.clientSecret.key token = some d := by
  obtain ⟨token, live, opened⟩ := h
  obtain ⟨held, set⟩ := Option.filter_eq_some_iff.mp live
  exact ⟨token, held, by simpa using set, (loads_eq _ _).symm.trans opened⟩

variable (V) in
structure Rowed (σ σ' : Store τ) (c : ClientCredentials P.fernet) (row row' : Row τ) (p p' : Payload) : Prop where
  found : σ c.clientId = some row
  found' : σ' c.clientId = some row'
  rows : V.Rows P.fernet row row'
  opens : Opens c row (.object p)
  opens' : Opens c row' (.object p')
  payloads : V.Payloads p p'

theorem Leads.updateGrant (stores : V.Stores P.fernet σ σ') (rowed : Rowed V σ σ' c row row' p p') (h' : V.Payloads q q') :
    V.Leads (F := P.fernet) s σ σ' (fun _ _ => True) (updateGrant c p q) (OAuthClientBridge.updateGrant c p' q') := by
  have h := rowed.payloads
  -- A comparison of the logs forces both runs to decide alike; without it they may differ.
  by_cases logged : V.logged
  · unfold OAuthClientBridge.updateGrant
    rw [h.tokenChanged logged h', h.updatedFields logged h']
    split
    · refine .after (level_log _ _ _ _) stores fun _ => .after (level_emit _) stores fun _ => ?_
      refine (Steady.dumps (h.modified h') c.clientSecret).then stores fun _ _ tokens => ?_
      exact (Leads.updateRow stores (.some tokens)).then fun _ _ _ => Steady.paired (.pure trivial)
    · exact (Steady.pure trivial).leads stores
  · intro w w' held
    obtain ⟨ended, nonce, now, nonces, utcnow, emitted, left⟩ := updateGrant_eval c p q w
    obtain ⟨ended', nonce', now', nonces', utcnow', emitted', right⟩ := updateGrant_eval c p' q' w'
    rw [ended, ended', left, right, held.left, held.right]
    refine ⟨.ok trivial, _, _, ?_, { held with
      left := rfl
      right := rfl
      utcnow := fun compared => absurd compared logged
      emitted := fun compared => absurd compared logged }⟩
    obtain ⟨token, live, set, opened⟩ := opens_sealed rowed.opens
    obtain ⟨token', live', set', opened'⟩ := opens_sealed rowed.opens'
    have tokens : V.Tokens P.fernet token token' := by
      have now := rowed.rows.token
      rw [live, live'] at now
      obtain ⟨now⟩ := now
      exact now
    -- Where the two decisions differ, the row of one run is the new payload beside the old one.
    cases changed : tokenChanged p q <;> cases changed' : tokenChanged p' q'
    · exact stores
    · have crossed := h.crossed h' (by rw [changed, changed']; decide)
      simp only [Store.update, rowed.found', if_true]
      exact stores.writeRight rowed.found ⟨live ▸ .some (tokens.right opened opened' set crossed.2 nonce'),
        fun compared => absurd compared logged⟩
    · have crossed := h.crossed h' (by rw [changed, changed']; decide)
      simp only [Store.update, rowed.found, if_true]
      exact stores.writeLeft rowed.found' ⟨live' ▸ .some (tokens.left opened opened' set' crossed.1 nonce),
        fun compared => absurd compared logged⟩
    · exact (stores.update _ _ _ (.some ((h.modified h').tokens _ _ _))).2

theorem level_authenticate (req : TokenRequest) : Level (authenticate P req) := by
  unfold authenticate
  split
  · exact level_raiseError _ _ _ _
  split
  · refine level_bind ?_ fun _ => level_raiseError _ _ _ _
    unfold recordInvalidClientId
    split <;> simp
  · exact level_raiseError _ _ _ _
  · exact level_raiseError _ _ _ _
  · exact level_bind (level_setClientId _) fun _ => level_pure _

theorem level_revokedGrant (userAgent : String) : Level (revokedGrant P settings userAgent) := by
  unfold revokedGrant
  split
  · simp
  · exact level_raiseError _ _ _ _

theorem Steady.observeTokenGrantAge {createdAt createdAt' : Option Int} (dated : V.logged → createdAt' = createdAt) :
    V.Steady (F := P.fernet) s Eq (observeTokenGrantAge createdAt) (OAuthClientBridge.observeTokenGrantAge createdAt') := by
  by_cases logged : V.logged
  · rw [dated logged]
    refine .self ?_
    cases createdAt <;> simp [OAuthClientBridge.observeTokenGrantAge]
  · have quiet : ∀ l l' : List Emission, V.logged → l' = l := fun _ _ compared => absurd compared logged
    intro σ σ' w w' held
    cases createdAt <;> cases createdAt' <;> exact ⟨.ok rfl, { held with emitted := quiet _ _ }⟩

theorem refreshFailed_eq (h : V.Payloads q q') (clientId : ClientId) (outcome : TokenEndpointOutcome) :
    (refreshFailed clientId q' outcome : Action P.fernet Response) = refreshFailed clientId q outcome := by
  unfold refreshFailed noteFailedRefresh
  rw [h.sanitize, h.getOrNull_plain (by decide), h.getOrNull_plain (by decide), h.getOrNull_plain (by decide)]

theorem Leads.refreshFailed (stores : V.Stores P.fernet σ σ') (clientId : ClientId) (outcome : TokenEndpointOutcome) :
    V.Leads (F := P.fernet) s σ σ' V.Replies (refreshFailed clientId q outcome)
      (OAuthClientBridge.refreshFailed clientId q outcome) := by
  unfold OAuthClientBridge.refreshFailed
  have noted : V.Leads (F := P.fernet) s σ σ' Eq
      (noteFailedRefresh clientId q outcome (outcome.normalizedError.getD .serverError))
      (noteFailedRefresh clientId q outcome (outcome.normalizedError.getD .serverError)) := by
    unfold noteFailedRefresh
    dsimp only
    split
    · exact (Leads.updateRow stores .none).then fun _ _ _ => Steady.paired (.self (by simp))
    split
    · exact (Steady.self (level_log _ _ _ _)).leads stores
    · exact (Steady.self (level_log _ _ _ _)).leads stores
  exact noted.then fun _ _ _ => Steady.paired (.emits (fun _ => rfl) (replied (level_raiseError _ _ _ _)))

theorem Leads.refreshSucceeded {createdAt createdAt' : Option Int} (dated : V.logged → createdAt' = createdAt)
    (stores : V.Stores P.fernet σ σ') (rowed : Rowed V σ σ' c row row' p p') (h' : V.Payloads q q') :
    V.Leads (F := P.fernet) s σ σ' V.Replies (refreshSucceeded c createdAt p q)
      (OAuthClientBridge.refreshSucceeded c createdAt' p' q') := by
  unfold OAuthClientBridge.refreshSucceeded
  rw [h'.validateToken]
  split
  · refine (Leads.updateGrant stores rowed h').then fun _ _ _ => ?_
    refine (Steady.observeTokenGrantAge dated).paired.bind fun _ _ _ => Steady.paired (.pure ?_)
    refine .token (jsonify 200 (.object ∅)) (rowed.payloads.handedOut h') ?_
    simp [refreshedToken]
  · exact (replied (level_raiseError _ _ _ _)).leads stores

theorem Leads.refreshGrant (settings : Settings) {createdAt createdAt' : Option Int} (dated : V.logged → createdAt' = createdAt)
    (stores : V.Stores P.fernet σ σ') (rowed : Rowed V σ σ' c row row' p p') :
    V.Leads (F := P.fernet) settings.fetch σ σ' V.Replies (refreshGrant P settings c createdAt p)
      (OAuthClientBridge.refreshGrant P settings c createdAt' p') := by
  unfold OAuthClientBridge.refreshGrant
  have prepared : prepare (refreshExchange settings (p'.getOrNull "refresh_token")) =
      prepare (refreshExchange settings (p.getOrNull "refresh_token")) := by
    rw [prepare_refreshExchange, prepare_refreshExchange, V.sent (rowed.payloads.getOrNull "refresh_token")]
  refine (Steady.fetch prepared).then stores fun q q' refreshed => ?_
  have assumed : assumedStatus q' = assumedStatus q := by
    unfold assumedStatus
    rw [refreshed.contains]
  rw [assumed, (Documents.object refreshed).classify]
  refine .after (level_liftPy _) stores fun outcome => ?_
  rw [refreshed.contains]
  split
  · rw [refreshFailed_eq refreshed]
    exact .refreshFailed stores _ _
  · exact .refreshSucceeded dated stores rowed refreshed

theorem Leads.serveGrant (settings : Settings) {d d' : Document} (stores : V.Stores P.fernet σ σ')
    (found : σ c.clientId = some row) (found' : σ' c.clientId = some row') (rows : V.Rows P.fernet row row')
    (opens : Opens c row d) (opens' : Opens c row' d') (documents : V.Documents d d') :
    V.Leads (F := P.fernet) settings.fetch σ σ' V.Replies (serveGrant P settings c row.createdAt d)
      (OAuthClientBridge.serveGrant P settings c row'.createdAt d') := by
  unfold OAuthClientBridge.serveGrant
  rw [documents.has]
  refine (Steady.ofPy (d.has "refresh_token")).then stores fun _ refreshable ⟨same, held⟩ => ?_
  subst same
  cases refreshable with
  | true =>
    cases documents with
    | object payloads => exact .refreshGrant settings rows.createdAt stores ⟨found, found', rows, opens, opens', payloads⟩
    | other v => exact (Steady.throw _).leads stores
  | false =>
    refine (Steady.observeTokenGrantAge rows.createdAt).then stores fun _ _ _ => Steady.leads (.pure ?_) stores
    cases documents with
    | object payloads => exact .token (jsonify 200 (.object ∅)) payloads (Except.ok.inj held)
    | other v => exact .same _

theorem Rows.live (rows : V.Rows P.fernet row row') (id : ClientId) : Option.Rel (V.Tokens P.fernet)
    (row.record P.fernet id).encryptedToken (row'.record P.fernet id).encryptedToken := by
  have tokens := rows.token
  unfold Row.record
  dsimp only
  revert tokens
  cases row.token <;> cases row'.token <;> rintro ⟨⟩
  · exact .none
  · rename_i tokens
    simp only [Option.filter_some, tokens.isEmpty]
    split
    · exact .some tokens
    · exact .none

theorem Leads.token (settings : Settings) (req : TokenRequest) (stores : V.Stores P.fernet σ σ') :
    V.Leads (F := P.fernet) settings.fetch σ σ' V.Replies (token P settings req)
      (OAuthClientBridge.token P settings req) := by
  unfold OAuthClientBridge.token
  refine .after (level_authenticate req) stores fun c => .select ?_
  have rows := stores c.clientId
  cases found : σ c.clientId <;> cases found' : σ' c.clientId <;> rw [found, found'] at rows <;> cases rows
  · exact (replied (level_raiseError _ _ _ _)).leads stores
  rename_i row row' rows
  dsimp only [Option.map_some, pure_eq, pure_bind]
  have live := rows.live c.clientId
  cases held : (row.record P.fernet c.clientId).encryptedToken <;>
    cases held' : (row'.record P.fernet c.clientId).encryptedToken <;> rw [held, held'] at live <;> cases live
  · exact (replied (level_revokedGrant _)).leads stores
  rename_i token token' tokens
  dsimp only
  have documents := tokens.decrypt c.clientSecret.key
  rw [← loads_eq, ← loads_eq] at documents
  cases opened : loads c.clientSecret token <;> cases opened' : loads c.clientSecret token' <;>
    rw [opened, opened'] at documents <;> cases documents
  · exact (replied (level_raiseError _ _ _ _)).leads stores
  rename_i documents
  exact .serveGrant settings stores found found' rows ⟨token, held, opened⟩ ⟨token', held', opened'⟩ documents

end Token

end Veil
end OAuthClientBridge
