import OAuthClientBridge.Disguise
import OAuthClientBridge.Views.Lockstep

/-!
The views under other secrets, and with them the whole service: no secret shows in a log, a span, a metric or a response,
but for the page that issues it.
-/

namespace OAuthClientBridge
open Python Effect Program

section
variable {τ : Type} {F : Fernet τ}

namespace Disguise
variable {π : Disguise F} {fresh : ClientSecret F → ClientSecret F}

/-! ### Responses -/

variable (π) in
/-- The same response, up to the secret that it issues. -/
inductive Reissued : Response → Response → Prop where
  | same (r : Response) : Reissued r r
  | issued (r : Response) (template : String) (page : PageVariables) (secret : ClientSecret F) :
      Reissued { r with body := .page template { page with clientSecret := some secret.text } }
        { r with body := .page template { page with clientSecret := some (π.secret secret).text } }

theorem Reissued.nocache {r r' : Response} (h : π.Reissued r r') : π.Reissued (nocache r) (OAuthClientBridge.nocache r') := by
  cases h with
  | same r => exact .same _
  | issued r template page secret =>
    unfold OAuthClientBridge.nocache
    split
    · exact .issued r template page secret
    · exact .issued ((r.withHeader "Cache-Control" "no-store").withHeader "Pragma" "no-cache") template page secret

section Serve
variable {s : Settings} {clientSecret : String} {p q : Action F Response}

theorem replies {Q : Trace (bridge F) → Except Exc Response → Prop} (h : p.Ensures Op.silent (fun _ _ => False) Q) :
    π.Mirror fresh π.Reissued p p := (mirror_quiet h).mono fun r _ same => same ▸ .same r

theorem mirror_errorPage (error : PageError) (description : String) (state : Option String) (retryAfter : Json) :
    π.Mirror fresh π.Reissued (errorPage s error description state retryAfter)
      (errorPage (s.withClientSecret clientSecret) error description state retryAfter) :=
  replies (Q := fun _ _ => True) (errorPage_ensures error description state retryAfter trivial)

theorem mirror_serve (h : π.Mirror fresh π.Reissued p q) :
    π.Mirror fresh π.Reissued (serve s p) (serve (s.withClientSecret clientSecret) q) := by
  unfold serve handled
  refine Mirrors.bind (Mirrors.tryCatch (Mirrors.tryCatch h fun e => ?_) fun e => ?_) fun r r' answers => .pure answers.nocache
  · cases e with
    | python e => exact .throw _
    | oauth e =>
      apply replies (Q := fun _ _ => True)
      unfold handleError errorHandler
      cases answer : errorResponse s e <;> simp [answer]
  · apply replies (Q := fun _ _ => True)
    simp only [fallbackErrorHandler, ensures_record, ensures_emit]
    cases OAuthError.serverError.json .null <;> simp

end Serve

/-! ### `/callback` -/

section Callback
variable {P : Platform τ} {s : Settings} {clientSecret : String}

theorem arguments_lookup (args : List (String × String)) (name : String) :
    (π.arguments args).lookup name = (args.lookup name).map fun value => if name = "code" then π.code value else value := by
  induction args with
  | nil => rfl
  | cons arg args ih =>
    unfold arguments at ih ⊢
    rw [List.map_cons, List.lookup_cons, List.lookup_cons, ih]
    by_cases named : name = arg.1
    · rw [named]
      simp
    · rw [beq_eq_false_iff_ne.mpr named]

theorem callbackCheck_arguments (args : List (String × String)) (state : Option String) :
    callbackCheck s (π.arguments args) state = (callbackCheck s args state).map fun checked => checked.map π.code := by
  have others : ∀ name ≠ "code", (π.arguments args).lookup name = args.lookup name := by
    intro name other
    simp [arguments_lookup, other]
  have empty : π.arguments args = [] ↔ args = [] := List.map_eq_nil_iff
  unfold callbackCheck
  rw [others "state" (by decide), others "error" (by decide), arguments_lookup]
  simp only [empty]
  split
  · rfl
  cases state with
  | none => rfl
  | some state =>
    dsimp only
    split
    · rfl
    cases args.lookup "error" with
    | some code =>
      dsimp only
      cases normalizeError s.fetch.errorTypes (.str code) authorizationErrors .serverError with
      | error e => rfl
      | ok error => cases described : error.description? <;> simp [described, Except.map]
    | none =>
      cases args.lookup "code" with
      | none => rfl
      | some code =>
        by_cases blank : code = ""
        · rw [blank]
          simp [(π.code_empty "").mpr rfl, Except.map]
        · have kept : π.code code ≠ "" := mt (π.code_empty code).mp blank
          simp [Except.map]

theorem mirror_issueGrant (result : Payload) (clientState : Option String) :
    π.Mirror π.secret π.Reissued (issueGrant s result clientState : Action F Response)
      (issueGrant (s.withClientSecret clientSecret) result clientState) := by
  unfold issueGrant
  apply Mirrors.op
  · intro secret
    exact ⟨secret, _, .generateKey secret⟩
  intro secret _ alike
  cases alike with
  | same impersonal => cases impersonal
  | generateKey =>
    apply Mirrors.bind (mirror_dumps secret _)
    intro token token' tokens
    apply mirror_perform rfl
    intro id
    apply mirror_emit
    apply mirror_emit
    apply mirror_emit
    apply mirror_emit
    apply mirror_then (mirror_insert tokens id)
    intro result
    cases result with
    | inserted => exact .pure (.issued (render s 200 {}) s.callbackTemplate { clientId := some id.str, state := clientState } secret)
    | integrityError => exact mirror_emit _ (mirror_errorPage _ _ _ _)

theorem mirror_callback (args : List (String × String)) :
    π.Mirror π.secret π.Reissued (callback P s args : Action F Response)
      (callback P (s.withClientSecret clientSecret) (π.arguments args)) := by
  apply mirror_perform rfl
  intro clientState
  apply mirror_perform rfl
  intro state
  have checked : callbackCheck (s.withClientSecret clientSecret) (π.arguments args) state =
      (callbackCheck s args state).map fun checked => checked.map π.code := callbackCheck_arguments args state
  rw [checked]
  cases callbackCheck s args state with
  | error e => exact .throw _
  | ok checked =>
    cases checked with
    | error failure =>
      have scope : (π.arguments args).lookup "scope" = args.lookup "scope" := by simp [arguments_lookup]
      show π.Mirror π.secret π.Reissued (callbackFailed s args failure.1 failure.2 clientState)
        (callbackFailed _ (π.arguments args) failure.1 failure.2 clientState)
      unfold callbackFailed
      rw [scope]
      exact mirror_emit _ (mirror_errorPage _ _ _ _)
    | ok code =>
      have same : SameButSecrets (codeExchange s code) (codeExchange (s.withClientSecret clientSecret) (π.code code)) := by
        simp [SameButSecrets, codeExchange, secretMembers, Settings.withClientSecret]
      have prepared : prepare (codeExchange (s.withClientSecret clientSecret) (π.code code)) = prepare (codeExchange s code) :=
        (prepare_codeExchange _ _).trans (prepare_codeExchange s code).symm
      apply mirror_then (mirror_fetch same prepared)
      intro result
      apply mirror_lift
      intro failed
      cases failed with
      | none => exact mirror_issueGrant result clientState
      | some failure => exact mirror_emit _ (mirror_emit _ (mirror_errorPage _ _ _ _))

end Callback

/-! ### `/token` -/

section Token
variable {P : Platform τ} {π : Disguise P.fernet} {fresh : ClientSecret P.fernet → ClientSecret P.fernet} {s : Settings}
  {clientSecret : String} {c : ClientCredentials P.fernet} {req req' : TokenRequest}

theorem mirror_authenticate (presents : Presents P req c) (presents' : Presents P req' (π.credentials c)) :
    π.Mirror fresh (fun c c' => c' = π.credentials c) (authenticate P req) (authenticate P req') := by
  obtain ⟨id, secret, presented, valid⟩ := presents
  obtain ⟨id', secret', presented', valid'⟩ := presents'
  unfold authenticate
  simp only [presented, presented', valid, valid']
  exact mirror_emit _ (mirror_emit _ (.pure rfl))

theorem mirror_refused {A : ClientCredentials P.fernet → ClientCredentials P.fernet → Prop} (absent : ∀ c, ¬Presents P req c) :
    π.Mirror fresh A (authenticate P req) (authenticate P req) := by
  unfold authenticate
  cases presented : presentedCredentials req with
  | error refusal => exact mirror_raiseError _ _ _ _
  | ok given =>
    obtain ⟨id, secret⟩ := given
    dsimp only
    cases valid : validateCredentials P id secret with
    | ok c => exact absurd ⟨id, secret, presented, valid⟩ (absent c)
    | error refusal =>
      cases refusal with
      | credential message => exact mirror_raiseError _ _ _ _
      | clientSecret => exact mirror_raiseError _ _ _ _
      | clientId =>
        cases id with
        | none => exact mirror_raiseError _ _ _ _
        | some id => exact mirror_emit _ (mirror_emit _ (mirror_raiseError _ _ _ _))

theorem mirror_refreshFailed (result : Payload) (outcome : TokenEndpointOutcome) (id : ClientId) :
    π.Mirror fresh π.Reissued (refreshFailed id result outcome) (refreshFailed id result outcome) := by
  unfold refreshFailed
  apply mirror_then
  · unfold noteFailedRefresh
    dsimp only
    split
    · apply mirror_then (mirror_update .none id)
      intro rowcount
      exact mirror_emit _ (mirror_emit _ (.pure rfl))
    · split <;> exact mirror_emit _ (.pure rfl)
  · intro _
    exact mirror_emit _ (mirror_raiseError _ _ _ _)

theorem mirror_refreshSucceeded (createdAt : Option Int) (stored refreshed : Payload) :
    π.Mirror fresh π.Reissued (refreshSucceeded c createdAt stored refreshed)
      (refreshSucceeded (π.credentials c) createdAt stored refreshed) := by
  unfold refreshSucceeded
  split
  swap
  · exact mirror_raiseError _ _ _ _
  apply mirror_then
  · unfold updateGrant
    split
    · apply mirror_emit
      apply mirror_emit
      apply Mirrors.bind (mirror_dumps _ _)
      intro token token' tokens
      exact mirror_then (mirror_update (.some tokens) _) fun _ => .pure rfl
    · exact .pure rfl
  · intro _
    unfold observeTokenGrantAge
    cases createdAt with
    | none => exact .pure (.same _)
    | some createdAt => exact mirror_emit _ (.pure (.same _))

theorem mirror_refreshGrant (createdAt : Option Int) (stored : Payload) :
    π.Mirror fresh π.Reissued (refreshGrant P s c createdAt stored)
      (refreshGrant P (s.withClientSecret clientSecret) (π.credentials c) createdAt stored) := by
  have same : SameButSecrets (refreshExchange s (stored.getOrNull "refresh_token"))
      (refreshExchange (s.withClientSecret clientSecret) (stored.getOrNull "refresh_token")) := by
    simp [SameButSecrets, refreshExchange, secretMembers, Settings.withClientSecret]
  have prepared : prepare (refreshExchange (s.withClientSecret clientSecret) (stored.getOrNull "refresh_token")) =
      prepare (refreshExchange s (stored.getOrNull "refresh_token")) := by
    simp only [prepare_refreshExchange]
  apply mirror_then (mirror_fetch same prepared)
  intro refreshed
  apply mirror_lift
  intro outcome
  split
  · exact mirror_refreshFailed _ _ _
  · exact mirror_refreshSucceeded _ _ _

theorem mirror_serveGrant (createdAt : Option Int) (stored : Document) :
    π.Mirror fresh π.Reissued (serveGrant P s c createdAt stored)
      (serveGrant P (s.withClientSecret clientSecret) (π.credentials c) createdAt stored) := by
  apply mirror_lift
  intro refreshable
  cases refreshable with
  | true =>
    cases stored with
    | object stored => exact mirror_refreshGrant createdAt stored
    | other v => exact .throw _
  | false =>
    unfold observeTokenGrantAge
    cases createdAt with
    | none => exact .pure (.same _)
    | some createdAt => exact mirror_emit _ (.pure (.same _))

theorem mirror_revokedGrant (userAgent : String) : π.Mirror fresh π.Reissued (revokedGrant P s userAgent)
    (revokedGrant P (s.withClientSecret clientSecret) userAgent) := by
  show π.Mirror fresh π.Reissued (revokedGrant P s userAgent) (revokedGrant P s userAgent)
  unfold revokedGrant
  split
  · exact mirror_emit _ (mirror_emit _ (mirror_emit _ (.pure (.same _))))
  · exact mirror_raiseError _ _ _ _

theorem mirror_token (presents : Presents P req c) (presents' : Presents P req' (π.credentials c))
    (userAgent : req'.userAgent = req.userAgent) :
    π.Mirror fresh π.Reissued (token P s req) (token P (s.withClientSecret clientSecret) req') := by
  unfold token
  apply Mirrors.bind (mirror_authenticate presents presents')
  rintro c _ rfl
  rw [userAgent]
  apply Mirrors.bind (mirror_lookup c.clientId)
  intro record record' records
  cases records with
  | none => exact mirror_raiseError _ _ _ _
  | @some record record' records =>
    obtain ⟨tokens, createdAt⟩ := records
    dsimp only
    rw [createdAt]
    generalize record.encryptedToken = token at tokens
    generalize record'.encryptedToken = token' at tokens
    cases tokens with
    | none => exact mirror_revokedGrant _
    | @some token token' tokens =>
      have same : loads (π.credentials c).clientSecret token' = loads c.clientSecret token := tokens.opens c.clientSecret
      dsimp only
      rw [same]
      cases loads c.clientSecret token with
      | none => exact mirror_raiseError _ _ _ _
      | some stored => exact mirror_serveGrant _ stored

end Token

/-! ### The service -/

section Service
variable {P : Platform τ} {π : Disguise P.fernet} {s : Settings} {clientSecret : String}

variable (π) in
inductive Requests : Request → Request → Prop where
  | authorize (args : List (String × String)) : Requests (.authorize args) (.authorize args)
  | callback (args : List (String × String)) : Requests (.callback args) (.callback (π.arguments args))
  | refused {req : TokenRequest} (absent : ∀ c, ¬Presents P req c) : Requests (.token req) (.token req)
  | token {req req' : TokenRequest} {c : ClientCredentials P.fernet} (presents : Presents P req c)
      (presents' : Presents P req' (π.credentials c)) (userAgent : req'.userAgent = req.userAgent) :
      Requests (.token req) (.token req')

/-- A callback draws a secret; what `/` draws is a state. -/
def draws (π : Disguise P.fernet) : Request → ClientSecret P.fernet → ClientSecret P.fernet
  | .callback _ => π.secret
  | _ => id

theorem mirror_level {α : Type} {p : Action P.fernet α} (h : Level p) : π.Mirror id Eq p p := by
  refine Mirrors.self (fun o level answer answer' => ?_) h
  by_cases impersonal : o.impersonal = true
  · exact events_self impersonal answer answer'
  cases o with
  | generateKey =>
    constructor
    · intro alike
      cases alike with
      | same impersonal => cases impersonal
      | generateKey => rfl
    · intro same
      subst same
      exact (.generateKey answer' : π.Events id ⟨.generateKey, answer'⟩ ⟨.generateKey, id answer'⟩)
  | _ => first | exact absurd rfl impersonal | cases level

theorem mirror_respond {req req' : Request} (alike : π.Requests req req') :
    π.Mirror (π.draws req) π.Reissued (respond P s req) (respond P (s.withClientSecret clientSecret) req') := by
  apply mirror_serve
  cases alike with
  | authorize args => exact (mirror_level (Veil.level_authorize args)).mono fun r _ same => same ▸ .same r
  | callback args => exact mirror_callback args
  | refused absent => exact Mirrors.bind (A := fun _ _ => False) (mirror_refused absent) fun _ _ never => never.elim
  | token presents presents' userAgent => exact mirror_token presents presents' userAgent

end Service

end Disguise

/-- What reached logs, spans and metrics. -/
def emissions (t : Trace (bridge F)) : List Emission :=
  t.filterMap fun e => match e.op with
    | .emit emission => some emission
    | _ => none

theorem Disguise.Events.emissions {π : Disguise F} {fresh : ClientSecret F → ClientSecret F} {t t' : Trace (bridge F)}
    (alike : List.Forall₂ (π.Events fresh) t t') : emissions t' = OAuthClientBridge.emissions t := by
  induction alike with
  | nil => rfl
  | cons now _ ih =>
    unfold OAuthClientBridge.emissions at ih ⊢
    rw [List.filterMap_cons, List.filterMap_cons, ih]
    cases now <;> rfl

end

section
variable {τ ι : Type} [DecidableEq ι] {P : Platform τ} {s : Settings} {σ σ' : Store τ} {requests requests' : ι → Request}
  {c : Pool.Config (bridge P.fernet) Exc Response (Store τ) ι}

/-- No secret shows. Whatever the service does for some requests, it can do under a disguise: in the same interleaving, with
the same logs, spans and metrics, and with the same responses up to the issued secrets. -/
theorem secrets_disguised {π : Disguise P.fernet} (clientSecret : String) (stores : π.Stores σ σ')
    (alike : ∀ i, π.Requests (requests i) (requests' i)) (h : Pool.Reachable Store.Step (service P s σ requests) c) :
    ∃ c', Pool.Reachable Store.Step (service P (s.withClientSecret clientSecret) σ' requests') c' ∧ π.Stores c.world c'.world ∧
      ∀ i, List.Forall₂ (π.Events (π.draws (requests i))) (c.thread i).done (c'.thread i).done ∧
        emissions (c'.thread i).done = emissions (c.thread i).done ∧
        ∀ r, (c.thread i).rest = .pure r → ∃ r', (c'.thread i).rest = .pure r' ∧ π.Reissued r r' := by
  have mirrors : ∀ i, π.Mirror (π.draws (requests i)) π.Reissued (respond P s (requests i))
      (respond P (s.withClientSecret clientSecret) (requests' i)) := fun i => Disguise.mirror_respond (alike i)
  obtain ⟨c', reached, stores', abreast⟩ := Pool.mirror (fun i => π.imitates (π.draws (requests i))) mirrors stores h
  refine ⟨c', reached, stores', fun i => ?_⟩
  obtain ⟨done, rest⟩ := abreast i
  refine ⟨done, Disguise.Events.emissions done, fun r answered => ?_⟩
  rw [answered] at rest
  generalize (c'.thread i).rest = q at rest
  cases rest with
  | pure replies => exact ⟨_, rfl, replies⟩

end

namespace Sample

/-- Two letters of a secret are swapped. -/
def swapped (letter : Char) : Char := if letter = 'A' then 'B' else if letter = 'B' then 'A' else letter

theorem swapped_swapped (letter : Char) : swapped (swapped letter) = letter := by
  unfold swapped
  split_ifs <;> simp_all

theorem map_swapped (text text' : String) : text.map swapped = text'.map swapped ↔ text = text' := by
  have twice : swapped ∘ swapped = id := funext swapped_swapped
  constructor
  · intro same
    have same := congrArg (String.map swapped) same
    rwa [String.map_map, String.map_map, twice, String.map_id, String.map_id] at same
  · exact congrArg (String.map swapped)

theorem secret_key (k : ClientSecret symbolicFernet) : k.text.length = 44 ∧ k.key = k.text := by
  have decodes := k.decodes
  simp only [symbolicFernet, Option.ite_none_right_eq_some, Option.some.injEq] at decodes
  exact ⟨decodes.1, decodes.2.symm⟩

def disguise : Disguise platform.fernet where
  secret k := symbolicSecret (k.text.map swapped) (by simpa using (secret_key k).1)
  key_iff k k' := by
    have own : k.key = k.text := (secret_key k).2
    have own' : k'.key = k'.text := (secret_key k').2
    constructor
    · intro same
      exact own.trans (((map_swapped k.text k'.text).mp same).trans own'.symm)
    · intro same
      exact (map_swapped k.text k'.text).mpr (own.symm.trans (same.trans own'))
  code text := if text = "" then "" else text ++ "'"
  code_empty text := by
    by_cases blank : text = "" <;> simp [blank]

def disguisedStore : Store Sealed := fun id =>
  if id = clientId then some ⟨some ⟨(disguise.secret secret).key, ⟨0, 0⟩, grant⟩, some 0, some 0⟩ else none

theorem disguisedStore_stores : disguise.Stores (store grant) disguisedStore := by
  intro id
  unfold store disguisedStore
  by_cases own : id = clientId
  · rw [if_pos own, if_pos own]
    exact .some ⟨.some (disguise.tokens_encrypt secret ⟨0, 0⟩ grant), rfl, rfl⟩
  · rw [if_neg own, if_neg own]
    exact .none

def disguisedRequest : TokenRequest where
  form := [("grant_type", "client_credentials"), ("client_id", clientId.str), ("client_secret", (disguise.secret secret).text)]
  authorization := .absent
  userAgent := ""

theorem disguisedRequest_presents : Presents platform disguisedRequest (disguise.credentials credentials) :=
  ⟨some clientId.str, some (disguise.secret secret).text, by decide +kernel,
    @validateCredentials_ok _ platform _ _ (disguise.secret secret) (by decide +kernel) (by decide +kernel) (by decide +kernel)
      (by simp [symbolicPlatform, credentials])⟩

def disguisedRequests : Bool → Request
  | false => .callback (disguise.arguments arguments)
  | true => .token disguisedRequest

theorem disguisedRequests_alike (i : Bool) : disguise.Requests (requests i) (disguisedRequests i) := by
  cases i with
  | false => exact .callback arguments
  | true => exact .token presents disguisedRequest_presents rfl

end Sample

theorem secrets_disguised_twoClients : ∃ c', Pool.Reachable Store.Step (service Sample.platform
      (Sample.settings.withClientSecret "other") Sample.disguisedStore Sample.disguisedRequests) c' ∧
    ∀ i, emissions (c'.thread i).done = emissions (Sample.twoClients.thread i).done := by
  obtain ⟨c', reached, _, alike⟩ := secrets_disguised "other" Sample.disguisedStore_stores Sample.disguisedRequests_alike
    Sample.twoClients_reachable
  exact ⟨c', reached, fun i => (alike i).2.1⟩

end OAuthClientBridge
