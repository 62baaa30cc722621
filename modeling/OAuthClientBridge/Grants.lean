import OAuthClientBridge.Serializability

/-!
What the service is for: it keeps the grant of each client for whoever has the client's secret. Here is a service
of requests that come one after the other, with the grants in the clear, of which this is the whole state. The
service over the encrypted table refines it.
-/

namespace OAuthClientBridge
open Python Effect Program

/-! ### The service of grants -/

structure Grant (K : Type) where
  key : K
  /-- `none` after a revocation. -/
  held : Option Payload

abbrev Grants (K : Type) := ClientId → Option (Grant K)

variable {τ : Type} (P : Platform τ) (s : Settings)

/-- What an answer of the provider makes of a grant, and what the client is told. -/
inductive Renews (stored refreshed : Payload) : Except Exc Response → Option Payload → Prop where
  | revoked (failed : refreshed.contains "error" = true) (invalid : (secondOutcome P s refreshed).invalidateRefreshToken = true) :
      Renews stored refreshed (.error (refreshError P s refreshed)) none
  | failed (failed : refreshed.contains "error" = true) (valid : (secondOutcome P s refreshed).invalidateRefreshToken = false) :
      Renews stored refreshed (.error (refreshError P s refreshed)) (some stored)
  | invalid (noError : refreshed.contains "error" = false) (invalid : validateToken refreshed = false) :
      Renews stored refreshed (.error (oauthError .invalidRequest (.str "Invalid response from provider.") .null .null))
        (some stored)
  | renewed (accepted : Accepted refreshed) :
      Renews stored refreshed (.ok (jsonify 200 (.object (refreshedToken stored refreshed))))
        (some (if tokenChanged stored refreshed then modifiedToken stored refreshed else stored))

inductive TokenServes (g : Grants P.fernet.Key) (r : TokenRequest) : Except Exc Response → Grants P.fernet.Key → Prop where
  | unauthenticated (absent : ∀ c, ¬Presents P r c) : TokenServes g r (.error (credentialError P r)) g
  | unknown {c : ClientCredentials P.fernet} (presents : Presents P r c)
      (foreign : ∀ grant, g c.clientId = some grant → grant.held ≠ none ∧ grant.key ≠ c.clientSecret.key) :
      TokenServes g r (.error notKnown) g
  | revoked {c : ClientCredentials P.fernet} {key : P.fernet.Key} (presents : Presents P r c)
      (found : g c.clientId = some ⟨key, none⟩) : TokenServes g r (revokedAnswer P s r.userAgent) g
  | lasting {c : ClientCredentials P.fernet} {payload : Payload} (presents : Presents P r c)
      (found : g c.clientId = some ⟨c.clientSecret.key, some payload⟩) (lasts : payload.contains "refresh_token" = false) :
      TokenServes g r (.ok (jsonify 200 (.object payload))) g
  | raised {c : ClientCredentials P.fernet} {payload : Payload} {l : List Seen} {e : PyError} (presents : Presents P r c)
      (found : g c.clientId = some ⟨c.clientSecret.key, some payload⟩)
      (raises : FetchRaised P s.fetch (refreshExchange s (payload.getOrNull "refresh_token")) l e) :
      TokenServes g r (.error (.python e)) g
  | refreshed {c : ClientCredentials P.fernet} {payload refreshed : Payload} {l : List Seen} {r₀ : Except Exc Response}
      {held : Option Payload} (presents : Presents P r c) (found : g c.clientId = some ⟨c.clientSecret.key, some payload⟩)
      (refreshable : payload.contains "refresh_token" = true) (sendable : Sendable s payload)
      (returned : Returned P s.fetch l refreshed)
      (renews : Renews P s payload refreshed r₀ held) :
      TokenServes g r r₀ (Function.update g c.clientId (some ⟨c.clientSecret.key, held⟩))

inductive CallbackServes (g : Grants P.fernet.Key) : Except Exc Response → Grants P.fernet.Key → Prop where
  | refused {r₀ : Except Exc Response}
      (anonymous : ∀ template page, (served s r₀).body = .page template page → page.clientId = none) : CallbackServes g r₀ g
  | issued {id : ClientId} {result : Payload} {l : List Seen} (secret : ClientSecret P.fernet) (clientState : Option String)
      (absent : g id = none) (returned : Returned P s.fetch l result) (accepted : exchangeError s result = .ok none) :
      CallbackServes g (.ok (issuedPage s id secret clientState))
        (Function.update g id (some ⟨secret.key, some (grantPayload result)⟩))

/-- One request. -/
inductive Serves (g : Grants P.fernet.Key) : Request → Response → Grants P.fernet.Key → Prop where
  | authorize {args : List (String × String)} {t : Trace (bridge P.fernet)} {r₀ : Except Exc Response}
      (run : AuthorizeRun P s args t r₀) : Serves g (.authorize args) (served s r₀) g
  | callback {args : List (String × String)} {r₀ : Except Exc Response} {g' : Grants P.fernet.Key}
      (serves : CallbackServes P s g r₀ g') : Serves g (.callback args) (served s r₀) g'
  | token {r : TokenRequest} {r₀ : Except Exc Response} {g' : Grants P.fernet.Key} (serves : TokenServes P s g r r₀ g') :
      Serves g (.token r) (served s r₀) g'

/-- A list of requests, each with its answer. -/
inductive ServesAll : Grants P.fernet.Key → List (Request × Response) → Grants P.fernet.Key → Prop where
  | nil (g : Grants P.fernet.Key) : ServesAll g [] g
  | cons {g g₁ g₂ : Grants P.fernet.Key} {req : Request} {response : Response} {rest : List (Request × Response)}
      (serves : Serves P s g req response g₁) (later : ServesAll g₁ rest g₂) : ServesAll g ((req, response) :: rest) g₂

/-! ### The table that stands for it -/

/-- A row as the cipher seals a grant. -/
inductive SealedAs (F : Fernet τ) : Option (Row τ) → Option (Grant F.Key) → Prop where
  | missing : SealedAs F none none
  | live {row : Row τ} {key : F.Key} {payload : Payload} (nonce : Nonce) (token : row.token = some (F.encrypt key nonce payload)) :
      SealedAs F (some row) (some ⟨key, some payload⟩)
  | revoked {row : Row τ} (key : F.Key) (null : row.token = none) : SealedAs F (some row) (some ⟨key, none⟩)

def Seals {F : Fernet τ} (σ : Store τ) (g : Grants F.Key) : Prop := ∀ id, SealedAs F (σ id) (g id)

namespace Store
variable {F : Fernet τ} {σ σ' : Store τ} {id : ClientId} {found : Option (Row τ)}

theorem follows_select {t : Trace (bridge F)} (follows : Follows Step σ (⟨.select id, found⟩ :: t) σ') :
    found = σ id ∧ Follows Step σ t σ' := by
  rcases follows with _ | ⟨⟨answers, rfl⟩, rest⟩
  exact ⟨answers, rest⟩

theorem follows_select_only (follows : Follows Step σ ([⟨.select id, found⟩] : Trace (bridge F)) σ') :
    found = σ id ∧ σ' = σ := by
  obtain ⟨answers, rest⟩ := follows_select follows
  cases rest
  exact ⟨answers, rfl⟩

end Store

section
variable {P s} {σ σ' : Store τ} {g : Grants P.fernet.Key} {row : Row τ} {c : ClientCredentials P.fernet}
  {t : Trace (bridge P.fernet)} {r₀ : Except Exc Response}

theorem Seals.write (seals : Seals σ g) {id : ClientId} {new : Grant P.fernet.Key}
    (sealed : SealedAs P.fernet (some row) (some new)) : Seals (σ.write id row) (Function.update g id (some new)) := by
  intro other
  by_cases same : other = id
  · subst same
    rw [Store.write_self, Function.update_self]
    exact sealed
  · rw [Store.write_other _ _ same, Function.update_of_ne same]
    exact seals other

/-- Only the key of a grant opens its row, and it opens to what the grant holds. -/
theorem Seals.opens {d : Document} (seals : Seals σ g) (found : some row = σ c.clientId) (opens : Opens c row d) :
    ∃ payload, d = .object payload ∧ g c.clientId = some ⟨c.clientSecret.key, some payload⟩ := by
  have sealed := seals c.clientId
  obtain ⟨token, live, opened⟩ := opens
  have held : row.token = some token := Option.eq_some_of_filter_eq_some live
  rw [← found] at sealed
  generalize g c.clientId = grant at sealed
  cases sealed with
  | @live _ key payload nonce same =>
    obtain rfl := Option.some.inj (same.symm.trans held)
    rw [loads_eq] at opened
    have own := P.fernet.authentic opened
    rw [own, P.fernet.decrypt_encrypt] at opened
    exact ⟨payload, (Option.some.inj opened).symm, by rw [own]⟩
  | revoked key null =>
    rw [null] at held
    cases held

theorem Refreshed.renews {stored refreshed : Payload} (ends : Refreshed P s c stored refreshed t r₀) (seals : Seals σ g)
    (found : σ c.clientId = some row) (grant : g c.clientId = some ⟨c.clientSecret.key, some stored⟩)
    (follows : Follows Store.Step σ t σ') : ∃ held, Renews P s stored refreshed r₀ held ∧
      Seals σ' (Function.update g c.clientId (some ⟨c.clientSecret.key, held⟩)) := by
  have stays : Function.update g c.clientId (some ⟨c.clientSecret.key, some stored⟩) = g := by
    rw [← grant]
    exact Function.update_eq_self _ _
  cases ends with
  | revoked now n failed invalid =>
    rw [Store.step_update (Store.follows_single.mp follows) found]
    exact ⟨none, .revoked failed invalid, seals.write (.revoked _ rfl)⟩
  | failed failed valid =>
    cases follows
    exact ⟨some stored, .failed failed valid, by rw [stays]; exact seals⟩
  | invalid noError invalid =>
    cases follows
    exact ⟨some stored, .invalid noError invalid, by rw [stays]; exact seals⟩
  | unchanged accepted same =>
    cases follows
    refine ⟨_, .renewed accepted, ?_⟩
    rw [same, if_neg Bool.false_ne_true, stays]
    exact seals
  | updated nonce now n accepted changed =>
    rcases follows with _ | ⟨rfl, written⟩
    rw [Store.step_update (Store.follows_single.mp written) found]
    refine ⟨_, .renewed accepted, ?_⟩
    rw [changed, if_pos rfl]
    exact seals.write (.live nonce rfl)

/-- A token request over the sealed table does what it would do to the grants. -/
theorem TokenRun.serves {r : TokenRequest} (run : TokenRun P s r t r₀) (seals : Seals σ g) (follows : Follows Store.Step σ t σ') :
    ∃ g', TokenServes P s g r r₀ g' ∧ Seals σ' g' := by
  cases run with
  | unauthenticated absent =>
    cases follows
    exact ⟨g, .unauthenticated absent, seals⟩
  | @missing c presents =>
    obtain ⟨found, rfl⟩ := Store.follows_select_only follows
    have sealed := seals c.clientId
    rw [← found] at sealed
    refine ⟨g, .unknown presents fun grant held => ?_, seals⟩
    rw [held] at sealed
    cases sealed
  | @revoked c row presents null =>
    obtain ⟨found, rfl⟩ := Store.follows_select_only follows
    have sealed := seals c.clientId
    rw [← found] at sealed
    generalize held : g c.clientId = grant at sealed
    cases sealed with
    | live nonce token => simp [Row.record, token, P.fernet.encrypt_nonempty] at null
    | revoked key _ => exact ⟨g, .revoked presents held, seals⟩
  | @wrongSecret c row token presents live wrong =>
    obtain ⟨found, rfl⟩ := Store.follows_select_only follows
    refine ⟨g, .unknown presents fun grant held => ?_, seals⟩
    have sealed := seals c.clientId
    rw [← found, held] at sealed
    have stored : row.token = some token := Option.eq_some_of_filter_eq_some live
    cases sealed with
    | live nonce same =>
      refine ⟨Option.some_ne_none _, ?_⟩
      rintro rfl
      obtain rfl := Option.some.inj (same.symm.trans stored)
      rw [loads_eq, P.fernet.decrypt_encrypt] at wrong
      cases wrong
    | revoked key null =>
      rw [null] at stored
      cases stored
  | @stored c row d presents opens noRefresh =>
    obtain ⟨found, rfl⟩ := Store.follows_select_only follows
    obtain ⟨payload, rfl, held⟩ := seals.opens found opens
    exact ⟨g, .lasting presents held (Except.ok.inj noRefresh), seals⟩
  | malformed presents opens =>
    obtain ⟨found, rfl⟩ := Store.follows_select_only follows
    obtain ⟨payload, same, _⟩ := seals.opens found opens
    cases same
  | raised granted raises =>
    obtain ⟨row, tf, presents, opens, _, trace, rfl⟩ := granted
    obtain ⟨found, rest⟩ := Store.follows_select follows
    obtain rfl := Store.follows_fetch trace rest
    obtain ⟨payload, same, held⟩ := seals.opens found opens
    obtain rfl := Document.object.inj same
    exact ⟨g, .raised presents held raises, seals⟩
  | refreshed granted returned ends sendable =>
    obtain ⟨row, tf, presents, opens, refreshable, trace, rfl⟩ := granted
    obtain ⟨found, rest⟩ := Store.follows_select follows
    obtain ⟨σ₁, asked, written⟩ := follows_append.mp rest
    obtain rfl := Store.follows_fetch trace asked
    obtain ⟨payload, same, held⟩ := seals.opens found opens
    obtain rfl := Document.object.inj same
    obtain ⟨left, renews, sealed⟩ := ends.renews seals found.symm held written
    exact ⟨_, .refreshed presents held refreshable sendable returned renews, sealed⟩

theorem CallbackRun.serves {args : List (String × String)} (run : CallbackRun P s args t r₀) (seals : Seals σ g)
    (follows : Follows Store.Step σ t σ') : ∃ g', CallbackServes P s g r₀ g' ∧ Seals σ' g' := by
  have failed : ∀ {e : PyError}, CallbackServes P s g (.error (.python e)) g := by
    intro e
    refine .refused fun template page body => ?_
    simp [served_python, jsonify] at body
  have page : ∀ {error : PageError} {description : String} {state : Option String} {retryAfter : Json},
      CallbackServes P s g (OAuthClientBridge.raised (pageAnswer s error description state retryAfter)) g := by
    intro error description state retryAfter
    refine .refused fun template page body => ?_
    cases answer : pageAnswer s error description state retryAfter with
    | error e => simp [answer, served_python, jsonify] at body
    | ok response =>
      have body' : response.body = .page template page := by simpa [answer, served, answered] using body
      exact pageAnswer_anonymous answer body'
  cases run with
  | checkFailed _ _ =>
    rcases follows with _ | ⟨rfl, _ | ⟨rfl, _ | _⟩⟩
    exact ⟨g, failed, seals⟩
  | rejected _ _ =>
    rcases follows with _ | ⟨rfl, _ | ⟨rfl, _ | _⟩⟩
    exact ⟨g, page, seals⟩
  | raised checked raises =>
    obtain rfl := checked.follows follows
    exact ⟨g, failed, seals⟩
  | unreadable checked returned fails =>
    obtain rfl := checked.follows follows
    exact ⟨g, failed, seals⟩
  | failed checked returned fails =>
    obtain rfl := checked.follows follows
    exact ⟨g, page, seals⟩
  | issued secret nonce id now exchanged =>
    obtain ⟨code, checked, returned, accepted⟩ := exchanged
    obtain ⟨answer, rfl⟩ := checked.inserting follows
    have sealed := seals id
    cases fresh : σ id with
    | some row => simp [Store.insert, fresh] at answer
    | none =>
      rw [fresh] at sealed
      generalize absent : g id = grant at sealed
      cases sealed
      refine ⟨_, .issued secret _ absent returned accepted, ?_⟩
      simp only [Store.insert, fresh]
      exact seals.write (.live nonce rfl)
  | taken secret nonce id now exchanged =>
    obtain ⟨code, checked, _⟩ := exchanged
    obtain ⟨answer, rfl⟩ := checked.inserting follows
    cases fresh : σ id with
    | none => simp [Store.insert, fresh] at answer
    | some row =>
      refine ⟨g, page, ?_⟩
      simp only [Store.insert, fresh]
      exact seals

theorem AuthorizeRun.keeps {args : List (String × String)} (run : AuthorizeRun P s args t r₀)
    (follows : Follows Store.Step σ t σ') : σ' = σ := by
  cases run with
  | refused =>
    cases follows
    rfl
  | stored =>
    rcases follows with _ | ⟨rfl, _ | ⟨rfl, _ | ⟨rfl, _ | _⟩⟩⟩
    rfl

/-- A request over the sealed table does, and is answered, what it would over the grants. -/
theorem respond_serves {req : Request} {response : Response} {done : Trace (bridge P.fernet)}
    (run : Runs (respond P s req) done (.ok response)) (seals : Seals σ g) (follows : Follows Store.Step σ done σ') :
    ∃ g', Serves P s g req response g' ∧ Seals σ' g' := by
  have follows := Store.follows_visible follows
  cases req with
  | authorize args =>
    obtain ⟨r₀, ended, same⟩ := (serve_ensures s (authorize_ensures P s args)).runs run
    rw [Except.ok.inj same, ended.keeps follows]
    exact ⟨g, .authorize ended, seals⟩
  | callback args =>
    obtain ⟨r₀, ended, same⟩ := (serve_ensures s (callback_ensures P s args)).runs run
    obtain ⟨g', serves, sealed⟩ := ended.serves seals follows
    rw [Except.ok.inj same]
    exact ⟨g', .callback serves, sealed⟩
  | token r =>
    obtain ⟨r₀, ended, same⟩ := (serve_ensures s (token_ensures P s r)).runs run
    obtain ⟨g', serves, sealed⟩ := ended.serves seals follows
    rw [Except.ok.inj same]
    exact ⟨g', .token serves, sealed⟩

end

/-! ### Requests in turn -/

section
variable {ι : Type} [DecidableEq ι] {P s} {requests : ι → Request} {order : List ι}
  {c c' : Pool.Config (bridge P.fernet) Exc Response (Store τ) ι} {answers : ι → Response}

theorem inTurn_serves {g : Grants P.fernet.Key} (turns : Pool.InTurn Store.Step order c c') (distinct : order.Nodup)
    (fresh : ∀ i ∈ order, (c.thread i).rest = respond P s (requests i))
    (answered : ∀ i ∈ order, (c'.thread i).rest = .pure (answers i)) (seals : Seals c.world g) :
    ∃ g', ServesAll P s g (order.map fun i => (requests i, answers i)) g' ∧ Seals c'.world g' := by
  induction turns generalizing g with
  | nil => exact ⟨g, .nil g, seals⟩
  | @cons i order c c' t q w steps follows turns ih =>
    obtain ⟨once, distinct⟩ := List.nodup_cons.mp distinct
    have ended : q = .pure (answers i) := by
      have answer := answered i List.mem_cons_self
      rw [turns.idle once] at answer
      simpa [Pool.Config.advance] using answer
    rw [fresh i List.mem_cons_self, ended] at steps
    obtain ⟨g₁, serves, sealed⟩ := respond_serves (show Runs _ t (.ok (answers i)) from steps) seals follows
    obtain ⟨g', later, sealed'⟩ := ih distinct
      (by
        intro j member
        have other : j ≠ i := by
          rintro rfl
          exact once member
        rw [← fresh j (List.mem_cons_of_mem _ member)]
        exact congrArg Pool.Thread.rest (Function.update_of_ne other _ _))
      (fun j member => answered j (List.mem_cons_of_mem _ member)) sealed
    exact ⟨g', .cons serves later, sealed'⟩

/-- Two statements about one row, at least one of which is not a read. -/
def Op.Conflicts (o o' : Op τ) : Prop :=
  ∃ id, o.row = some id ∧ o'.row = some id ∧ ¬(o = .select id ∧ o' = .select id)

theorem Store.conflicts_or_swaps {F : Fernet τ} {e f : Event (bridge F)} (peaceful : ¬Op.Conflicts e.op f.op) : Swaps Store.Step e f := by
  by_cases reads : ∃ id, e.op = .select id ∧ f.op = .select id
  · obtain ⟨o, answer⟩ := e
    obtain ⟨o', answer'⟩ := f
    obtain ⟨id, rfl, rfl⟩ := reads
    intro σ σ₁ σ₂ ⟨read, same⟩ ⟨read', same'⟩
    subst same same'
    exact ⟨_, ⟨read', rfl⟩, read, rfl⟩
  · apply Store.step_swaps
    intro id row row'
    exact peaceful ⟨id, row, row', fun both => reads ⟨id, both⟩⟩

/-- Of two requests in conflict about a row, the one that comes first in the order had its statement executed first. -/
def Orderly (order : List ι) (h : Pool.History (bridge P.fernet) ι) : Prop :=
  h.Pairwise fun x y => x.1 ≠ y.1 → Op.Conflicts x.2.op y.2.op → order.idxOf x.1 < order.idxOf y.1

/-- The service refines the service of grants: what it answers to requests at the same time, it might answer to the same
requests in turn, with the grants in the clear, in any order that their conflicts agree with; and the table is left as the
seal of the grants. -/
theorem service_refines_grants {σ : Store τ} {g : Grants P.fernet.Key} {h : Pool.History (bridge P.fernet) ι} (seals : Seals σ g)
    (along : Pool.Along Store.Step (service P s σ requests) h c) (distinct : order.Nodup) (all : ∀ x ∈ h, x.1 ∈ order)
    (orderly : Orderly order h) (answered : ∀ i ∈ order, (c.thread i).rest = .pure (answers i)) :
    ∃ g', ServesAll P s g (order.map fun i => (requests i, answers i)) g' ∧ Seals c.world g' := by
  have agrees : Pool.Agrees Store.Step order h := by
    apply List.Pairwise.imp _ orderly
    intro x y first other _
    by_cases conflict : Op.Conflicts x.2.op y.2.op
    · exact .inr (first other conflict)
    · exact .inl (Store.conflicts_or_swaps conflict)
  exact inTurn_serves (along.serial distinct agrees all) distinct (fun _ _ => rfl) answered seals

end

namespace Sample

def oneGrant : Grants platform.fernet.Key := fun id => if id = clientId then some ⟨secret.key, some grant⟩ else none

theorem oneGrant_seals : Seals (store grant) oneGrant := by
  intro id
  unfold store oneGrant
  by_cases own : id = clientId
  · rw [if_pos own, if_pos own]
    exact .live ⟨0, 0⟩ rfl
  · rw [if_neg own, if_neg own]
    exact .missing

theorem twoClients_orderly {h : Pool.History (bridge platform.fernet) Bool}
    (along : Pool.Along Store.Step (service platform settings (store grant) requests) h twoClients) : Orderly [false, true] h := by
  have concerns : ∀ x ∈ h, ∀ id, x.2.op.row = some id → Concerns platform (requests x.1) (acts twoClients x.1) id := by
    intro x inside id
    apply concerns_reachable twoClients_reachable
    rw [along.done x.1]
    exact Pool.mem_part.mpr inside
  apply List.pairwise_of_forall_mem_list
  rintro ⟨i, e⟩ first ⟨j, f⟩ second other ⟨id, row, row', _⟩
  have concerned := concerns _ first id row
  have concerned' := concerns _ second id row'
  cases i <;> cases j
  · exact absurd rfl other
  · exact absurd concerned (twoClients_apart id concerned')
  · exact absurd concerned' (twoClients_apart id concerned)
  · exact absurd rfl other

theorem twoClients_answered : ∃ answers : Bool → Response, ∀ i ∈ [false, true], (twoClients.thread i).rest = .pure (answers i) := by
  have refreshes : Runs (respond platform settings (.token request)) refreshing.trace refreshing.result := tokenRun_runs _ _
  obtain ⟨first, refreshed⟩ := respond_answers _ _ refreshes
  obtain ⟨second, arrived⟩ := respond_answers _ _ (Program.eval_runs World.answer (respond platform settings (.callback arguments))
    { emptyWorld (fun _ => response 200 accessToken) with store := refreshing.world.store, ids := fun _ => ⟨2⟩ })
  refine ⟨fun i => if i then first else second, fun i _ => ?_⟩
  cases i with
  | false =>
    show Program.ofExcept newcomer.result = _
    rw [newcomer, arrived]
    rfl
  | true =>
    show Program.ofExcept refreshing.result = _
    rw [refreshed]
    rfl

end Sample

/-- A client that refreshes its grant while another one gets its own. -/
theorem service_refines_grants_twoClients : ∃ answers : Bool → Response, ∃ g', ServesAll Sample.platform Sample.settings Sample.oneGrant
    [(Sample.requests false, answers false), (Sample.requests true, answers true)] g' ∧ Seals Sample.twoClients.world g' := by
  obtain ⟨answers, answered⟩ := Sample.twoClients_answered
  obtain ⟨h, along⟩ := Pool.reachable_along Sample.twoClients_reachable
  exact ⟨answers, service_refines_grants Sample.oneGrant_seals along (by decide) (fun x _ => by cases x.1 <;> simp)
    (Sample.twoClients_orderly along) answered⟩

end OAuthClientBridge
