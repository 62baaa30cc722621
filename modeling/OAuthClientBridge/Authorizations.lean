import OAuthClientBridge.Classification
import OAuthClientBridge.Service
import OAuthClientBridge.Views.Steps

/-!
The authorizations of one client: `/` draws a state and keeps it in the session, and `/callback`
takes it out again before it does anything else.
-/

namespace OAuthClientBridge
open Python Effect Program

variable {τ : Type} {F : Fernet τ}

abbrev Session := String → Option String

/-- A client that sends back the cookie it got; everything else answers as it likes. -/
def Session.Step : Environment (bridge F) Session
  | w, ⟨.sessionPop key, value⟩, w' => value = w key ∧ w' = Function.update w key none
  | w, ⟨.sessionSet key value, _⟩, w' => w' = Function.update w key value
  | w, _, w' => w' = w

def Session.cleared (w : Session) : Session := Function.update (Function.update w "client_state" none) "state" none

/-- A call of `fetch` begins with the refill of its budget. -/
def Op.isCall : Op τ → Bool
  | .budgetAdd _ => true
  | _ => false

def Op.isExchange : Op τ → Bool
  | .send _ _ _ | .insert _ _ _ => true
  | _ => false

def calls (t : Trace (bridge F)) : Nat := t.countP fun e => e.op.isCall

def countCall (n : Nat) (e : Event (bridge F)) : Nat := if e.op.isCall then n + 1 else n

/-- The session of a client, with a count of the calls of `fetch`. -/
def browsing : Environment (bridge F) (Session × Nat) := audited Session.Step countCall

theorem calls_foldl (t : Trace (bridge F)) (n : Nat) : t.foldl countCall n = n + calls t := by
  induction t generalizing n with
  | nil => rfl
  | cons e t ih =>
    rw [List.foldl_cons, ih, calls, calls, List.countP_cons, countCall]
    split <;> omega

theorem browsing_audits {Φ : Session × Nat → Op τ → Prop} (allowed : ∀ w e, Φ w (.emit e)) :
    Audits (F := F) browsing Φ fun _ w => w where
  emits e w w' := by
    refine ⟨fun now => Prod.ext now.1 now.2, ?_⟩
    rintro rfl
    exact ⟨rfl, rfl⟩
  unbooked _ _ _ := rfl
  allowed := allowed

/-! ### The views -/

/-- A page of the response shows the given state. -/
def Echoes (state : Option String) (r : Response) : Prop :=
  ∀ template context, r.body = .page template context → context.state = state

theorem setRetryAfter_frame {r r' : Response} {retryAfter : Json} (set : setRetryAfter r retryAfter = .ok r') :
    r'.status = r.status ∧ r'.body = r.body := by
  rcases setRetryAfter_ready r retryAfter with ⟨_, page, built, status, body⟩ | ⟨_, e, fails⟩
  · obtain rfl := Except.ok.inj (set.symm.trans built)
    exact ⟨status, body⟩
  · cases set.symm.trans fails

theorem pageAnswer_ok {s : Settings} {error : PageError} {description : String} {state : Option String}
    {retryAfter : Json} {page : Response} (answer : pageAnswer s error description state retryAfter = .ok page) :
    page.status = error.status ∧ ∃ shown, page.body =
      .page s.callbackTemplate { state, error := some error.code, description := some shown } := by
  unfold pageAnswer at answer
  cases described : error.describe description with
  | error e => simp [described] at answer
  | ok shown =>
    simp only [described, ok_bind, pageRetryAfter] at answer
    split at answer
    · obtain ⟨status, body⟩ := setRetryAfter_frame answer
      exact ⟨status, shown, body⟩
    · obtain rfl := Except.ok.inj answer
      exact ⟨rfl, shown, rfl⟩

theorem pageAnswer_echoes (s : Settings) (error : PageError) (description : String) (state : Option String)
    (retryAfter : Json) : Echoes state (served s (raised (pageAnswer s error description state retryAfter))) := by
  intro template context body
  cases answer : pageAnswer s error description state retryAfter with
  | error e => simp [answer, served_python, jsonify] at body
  | ok page =>
    obtain ⟨_, shown, same⟩ := pageAnswer_ok answer
    rw [answer, served, nocache_body] at body
    cases same.symm.trans body
    rfl

theorem pageAnswer_not_redirect (s : Settings) (error : PageError) (description : String) (state : Option String)
    (retryAfter : Json) : (served s (raised (pageAnswer s error description state retryAfter))).status ≠ 302 := by
  cases answer : pageAnswer s error description state retryAfter with
  | error e => simp [served_python, jsonify]
  | ok page =>
    rw [served, nocache_status]
    show page.status ≠ 302
    rw [(pageAnswer_ok answer).1]
    unfold PageError.status
    split <;> [decide; split <;> decide]

section Callback
variable {P : Platform τ} {s : Settings} {args : List (String × String)}

/-- The request is one that `/callback` exchanges a code for. -/
def Exchanges (s : Settings) (args : List (String × String)) (state : Option String) : Prop :=
  ∃ code, callbackCheck s args state = .ok (.ok code)

/-- Calls and exchanges are for such requests only, and an exchange comes after a call. -/
def ExchangeOp (s : Settings) (args : List (String × String)) (state : Option String) (w : Session × Nat) (o : Op τ) : Prop :=
  (o.isCall = true → Exchanges s args state) ∧ (o.isExchange = true → 0 < w.2)

theorem issueGrant_safe {Φ : Session × Nat → Op τ → Prop} {w : Session × Nat} {Q : Except Exc Response → Session × Nat → Prop}
    (allowed : ∀ w e, Φ w (.emit e)) (draws : Φ w .generateKey ∧ Φ w .nonce ∧ Φ w .generateId ∧ Φ w .utcnow)
    (inserts : ∀ id token now, Φ w (.insert id token now)) (result : Payload) (clientState : Option String)
    (ends : ∀ r, Echoes clientState (served s r) → Q r w) :
    (issueGrant s result clientState : Action F Response).Safe browsing Φ Q w := by
  have audits : Audits (F := F) browsing Φ fun _ w => w := browsing_audits allowed
  obtain ⟨mayKey, mayNonce, mayId, mayRead⟩ := draws
  unfold issueGrant dumps setClientId
  simp only [generateKey, Db.generateId, Db.insert, Program.bind_assoc]
  refine (safe_perform _ _).mpr ⟨mayKey, fun secret w₁ now => ?_⟩
  obtain rfl : w₁ = w := Prod.ext now.1 now.2
  refine (safe_perform _ _).mpr ⟨mayNonce, fun nonce w₂ now => ?_⟩
  obtain rfl : w₂ = w₁ := Prod.ext now.1 now.2
  simp only [pure_eq, Program.pure_bind]
  refine (safe_perform _ _).mpr ⟨mayId, fun id w₃ now => ?_⟩
  obtain rfl : w₃ = w₂ := Prod.ext now.1 now.2
  rw [audits.emit rfl, audits.emit rfl, audits.log, audits.emit rfl]
  refine (safe_perform _ _).mpr ⟨mayRead, fun now w₄ step => ?_⟩
  obtain rfl : w₄ = w₃ := Prod.ext step.1 step.2
  refine (safe_perform _ _).mpr ⟨inserts _ _ _, fun result w₅ step => ?_⟩
  obtain rfl : w₅ = w₄ := Prod.ext step.1 step.2
  cases result with
  | inserted =>
    dsimp only
    rw [Program.bind_assoc, audits.emit rfl]
    refine ends _ fun template context body => ?_
    rw [served, nocache_body] at body
    cases body
    rfl
  | integrityError =>
    simp only [Program.pure_bind]
    rw [audits.log, audits.errorPage]
    exact ends _ (pageAnswer_echoes s _ _ _ _)

/-- What `/callback` leaves of the session, how often it calls `fetch`, and whose state it shows. -/
structure CalledBack (s : Settings) (w : Session) (r : Except Exc Response) (w' : Session × Nat) : Prop where
  session : w'.1 = w.cleared
  calls : w'.2 ≤ 1
  echoes : Echoes (w "client_state") (served s r)

theorem echoes_error (s : Settings) (state : Option String) (e : Exc) : Echoes state (served s (.error e)) := by
  intro template context body
  rw [served, nocache_body] at body
  cases e with
  | python e => cases body
  | oauth e =>
    rcases errorResponse_cases s e with ⟨_, r, answer, _, b, object, _⟩ | ⟨_, p, answer⟩
    · simp only [answered, answer, raised_ok] at body
      simp [body, ResponseBody.object?] at object
    · simp [answered, answer, jsonify] at body

theorem callback_safe (P : Platform τ) (s : Settings) (args : List (String × String)) (w : Session) :
    (callback P s args : Action F Response).Safe browsing (ExchangeOp s args (w "state")) (CalledBack s w) (w, 0) := by
  have emits : ∀ w' e, ExchangeOp (τ := τ) s args (w "state") w' (.emit e) := fun _ _ => ⟨nofun, nofun⟩
  have audits : Audits (F := F) browsing (ExchangeOp s args (w "state")) fun _ w => w := browsing_audits emits
  unfold callback
  refine (safe_perform _ _).mpr ⟨⟨nofun, nofun⟩, ?_⟩
  rintro clientState ⟨w₁, n₁⟩ ⟨⟨rfl, rfl⟩, rfl⟩
  refine (safe_perform _ _).mpr ⟨⟨nofun, nofun⟩, ?_⟩
  rintro state ⟨w₂, n₂⟩ ⟨⟨popped, rfl⟩, rfl⟩
  have other : Function.update w "client_state" none "state" = w "state" := Function.update_of_ne (by decide) _ w
  obtain rfl : state = w "state" := popped.trans other
  rw [safe_liftPy_bind]
  cases checked : callbackCheck s args (w "state") with
  | error e => exact ⟨rfl, Nat.zero_le 1, echoes_error s _ _⟩
  | ok outcome =>
    rw [raised_ok, andThen_ok]
    cases outcome with
    | error rejection =>
      obtain ⟨error, desc⟩ := rejection
      unfold callbackFailed
      dsimp only
      rw [audits.log, audits.errorPage]
      exact ⟨rfl, Nat.zero_le 1, pageAnswer_echoes s _ _ _ _⟩
    | ok code =>
      have ends : ∀ r, Echoes (w "client_state") (served s r) → CalledBack s w r (w.cleared, 1) :=
        fun r echoes => ⟨rfl, Nat.le_refl 1, echoes⟩
      unfold exchangeCode
      refine safe_bind.mpr (fetch_idle audits (fun p => ⟨rfl, Nat.zero_le 1, echoes_error s _ _⟩) ⟨fun _ => ⟨code, checked⟩, nofun⟩ ?_)
      rintro _ ⟨w₃, n₃⟩ ⟨rfl, rfl⟩
      refine ⟨fun o loops => ⟨⟨fun _ => ⟨code, checked⟩, fun _ => Nat.one_pos⟩, fun answer w' now => ?_⟩, fun r => ?_⟩
      · cases o with
        | monotonic | sleep _ | uniform _ _ | budgetConsume | send _ _ _ => exact Prod.ext now.1 now.2
        | _ => cases loops
      cases r with
      | error e => exact ends _ (echoes_error s _ e)
      | ok result =>
        rw [andThen_ok, safe_liftPy_bind]
        cases exchangeError s result with
        | error e => exact ends _ (echoes_error s _ _)
        | ok failure =>
          rw [raised_ok, andThen_ok]
          cases failure with
          | none =>
            exact issueGrant_safe emits ⟨⟨nofun, nofun⟩, ⟨nofun, nofun⟩, ⟨nofun, nofun⟩, ⟨nofun, nofun⟩⟩
              (fun id token now => ⟨nofun, fun _ => Nat.one_pos⟩) result _ ends
          | some failure =>
            obtain ⟨error, desc⟩ := failure
            unfold exchangeFailed
            dsimp only
            rw [audits.log, audits.emit rfl, audits.errorPage]
            exact ends _ (pageAnswer_echoes s _ _ _ _)

theorem authorize_safe (P : Platform τ) (s : Settings) (args : List (String × String)) (w : Session) :
    (authorize P s args).Safe browsing (fun _ o => o.isCall = false ∧ o.isExchange = false) (fun _ x => x.2 = 0) (w, 0) := by
  have audits : Audits (F := P.fernet) browsing (fun _ o => o.isCall = false ∧ o.isExchange = false) fun _ w => w :=
    browsing_audits fun _ _ => ⟨rfl, rfl⟩
  unfold authorize
  dsimp only
  split
  · exact (audits.errorPage _ _ _ _).mpr rfl
  split
  · exact (audits.errorPage _ _ _ _).mpr rfl
  refine (safe_perform _ _).mpr ⟨⟨rfl, rfl⟩, ?_⟩
  rintro state ⟨w₁, n₁⟩ ⟨_, rfl⟩
  refine (safe_perform _ _).mpr ⟨⟨rfl, rfl⟩, ?_⟩
  rintro _ ⟨w₂, n₂⟩ ⟨_, rfl⟩
  refine (safe_perform _ _).mpr ⟨⟨rfl, rfl⟩, ?_⟩
  rintro _ ⟨w₃, n₃⟩ ⟨_, rfl⟩
  exact (safe_liftPy _).mpr rfl

end Callback

/-! ### One request -/

inductive Visit where
  | authorize (args : List (String × String))
  | callback (args : List (String × String))

def Visit.request : Visit → Request
  | .authorize args => .authorize args
  | .callback args => .callback args

/-- A request that was answered, with the session before and after it. -/
structure Visited (F : Fernet τ) where
  visit : Visit
  before : Session
  trace : Trace (bridge F)
  response : Response
  after : Session

/-- A state that was drawn, and the state that the client gave. -/
structure Authorization where
  state : String
  clientState : Option String

def Event.drawn? : Event (bridge F) → Option String
  | ⟨.generateKey, key⟩ => some key.text
  | _ => none

def Visited.isCallback (v : Visited F) : Bool :=
  match v.visit with
  | .callback _ => true
  | .authorize _ => false

/-- The authorization that a request to `/` begins, if it draws a state. -/
def Visited.authorization? (v : Visited F) : Option Authorization :=
  match v.visit with
  | .authorize args => (v.trace.filterMap Event.drawn?).head?.map fun state => ⟨state, args.lookup "state"⟩
  | .callback _ => none

variable (P : Platform τ) (s : Settings) in
structure Visited.Served (v : Visited P.fernet) : Prop where
  run : Runs (respond P s v.visit.request) v.trace (.ok v.response)
  follows : Follows Session.Step v.before v.trace v.after

section Visits
variable {P : Platform τ} {s : Settings} {v : Visited P.fernet}

theorem session_step_silent {w w' : Session} {e : Event (bridge F)} (quiet : e.op.silent = true)
    (now : Session.Step w e w') : w' = w := by
  obtain ⟨o, answer⟩ := e
  cases o <;> first | exact now | cases quiet

theorem drawn_visible (t : Trace (bridge F)) : (visible Op.silent t).filterMap Event.drawn? = t.filterMap Event.drawn? := by
  unfold visible
  rw [List.filterMap_filter]
  refine List.filterMap_congr fun e _ => ?_
  obtain ⟨o, answer⟩ := e
  cases o <;> rfl

theorem Visited.Served.authorize (h : v.Served P s) {args : List (String × String)} (visits : v.visit = .authorize args) :
    calls v.trace = 0 ∧ (∀ e ∈ v.trace, e.op.isExchange = false) ∧
      ((P.urlsplit s.oauth.authorizationUri).isSome → (v.authorization?.isSome ↔ v.response.status = 302)) ∧
      (v.authorization? = none ∧ v.after = v.before ∨
        ∃ state, v.authorization? = some ⟨state, args.lookup "state"⟩ ∧
          v.after = Function.update (Function.update v.before "client_state" (args.lookup "state")) "state" (some state)) := by
  obtain ⟨visit, before, trace, response, after⟩ := v
  obtain ⟨run, follows⟩ := h
  obtain rfl : visit = .authorize args := visits
  dsimp only at run follows ⊢
  have audits : Audits (F := P.fernet) browsing (fun _ o => o.isCall = false ∧ o.isExchange = false) fun _ w => w :=
    browsing_audits fun _ _ => ⟨rfl, rfl⟩
  have safe := audits.serve (s := s) (Q := fun _ x => x.2 = 0) (authorize_safe P s args before)
  have counted := follows_audited countCall 0 follows
  have none := safe.runs run counted
  rw [calls_foldl, Nat.zero_add] at none
  refine ⟨none, fun e met => ?_, ?_⟩
  · obtain ⟨t₁, t₂, split⟩ := List.append_of_mem met
    obtain ⟨_, _, _, allowed, _⟩ := safe.past run counted split
    exact allowed.2
  · obtain ⟨r₀, ended, answer⟩ := (serve_ensures s (authorize_ensures P s args)).runs run
    obtain rfl := Except.ok.inj answer
    have keeps := follows.visible fun w e w' => session_step_silent
    unfold Visited.authorization?
    dsimp only
    rw [← drawn_visible]
    generalize visible Op.silent trace = t at ended keeps ⊢
    cases ended with
    | refused _ _ _ =>
      cases keeps
      exact ⟨fun _ => iff_of_false nofun (pageAnswer_not_redirect s _ _ _ _), .inl ⟨rfl, rfl⟩⟩
    | stored state _ =>
      rcases keeps with _ | ⟨rfl, _ | ⟨rfl, _ | ⟨rfl, _ | _⟩⟩⟩
      refine ⟨fun splits => iff_of_true rfl ?_, .inr ⟨state.text, rfl, rfl⟩⟩
      obtain ⟨parts, split⟩ := Option.isSome_iff_exists.mp splits
      simp [redirect, rewriteUri, split, served, answered]

theorem Visited.Served.callback (h : v.Served P s) {args : List (String × String)} (visits : v.visit = .callback args) :
    v.after = v.before.cleared ∧ calls v.trace ≤ 1 ∧ Echoes (v.before "client_state") v.response ∧
      (0 < calls v.trace → Exchanges s args (v.before "state")) ∧
      ∀ e ∈ v.trace, e.op.isExchange = true → 0 < calls v.trace := by
  obtain ⟨run, follows⟩ := h
  rw [visits] at run
  have audits : Audits (F := P.fernet) browsing (ExchangeOp s args (v.before "state")) fun _ w => w :=
    browsing_audits fun _ _ => ⟨nofun, nofun⟩
  have safe := audits.serve (s := s) (Q := fun r x => x.1 = v.before.cleared ∧ x.2 ≤ 1 ∧
      ∀ response ∈ r.toOption, Echoes (v.before "client_state") response)
    ((callback_safe P s args v.before).mono (fun _ _ h => h) fun r x ended =>
      ⟨ended.session, ended.calls, fun response same => by
        obtain rfl := Option.some.inj same
        exact ended.echoes⟩)
  have counted := follows_audited countCall 0 follows
  obtain ⟨cleared, once, echoes⟩ := safe.runs run counted
  rw [calls_foldl, Nat.zero_add] at once
  have allowed : ∀ e ∈ v.trace, (e.op.isCall = true → Exchanges s args (v.before "state")) ∧
      (e.op.isExchange = true → 0 < calls v.trace) := by
    intro e met
    obtain ⟨t₁, t₂, split⟩ := List.append_of_mem met
    obtain ⟨m, _, before, ⟨checked, called⟩, _⟩ := safe.past run counted split
    refine ⟨checked, fun exchange => ?_⟩
    have counted := audited_books before
    rw [calls_foldl, Nat.zero_add] at counted
    rw [split, calls, List.countP_append]
    exact Nat.add_pos_left (show 0 < calls t₁ from counted ▸ called exchange) _
  refine ⟨cleared, once, echoes _ rfl, fun called => ?_, fun e met => (allowed e met).2⟩
  obtain ⟨e, met, call⟩ := List.countP_pos_iff.mp called
  exact (allowed e met).1 call

end Visits

/-! ### Histories -/

/-- The requests of a client that started without a session, and the session it is left with. -/
inductive Browsed (P : Platform τ) (s : Settings) : List (Visited P.fernet) → Session → Prop where
  | start : Browsed P s [] fun _ => none
  | visit {h : List (Visited P.fernet)} {v : Visited P.fernet} (before : Browsed P s h v.before)
      (served : v.Served P s) : Browsed P s (h ++ [v]) v.after

/-- The last authorization, unless a callback came after it. -/
def pending (h : List (Visited F)) : Option Authorization :=
  h.foldl (fun a v => if v.isCallback then none else v.authorization?.or a) none

/-- The session holds the pending authorization. -/
def Session.Holds (w : Session) (a : Option Authorization) : Prop :=
  w "state" = a.map Authorization.state ∧ w "client_state" = a.bind Authorization.clientState

/-- The `i`-th request begins the authorization `a`, which neither a callback nor another
authorization ends before the `j`-th request. -/
def Begins (h : List (Visited F)) (i j : Nat) (a : Authorization) : Prop :=
  i < j ∧ h[i]?.bind Visited.authorization? = some a ∧
    ∀ k v, i < k → k < j → h[k]? = some v → v.isCallback = false ∧ v.authorization? = none

section Histories
variable {P : Platform τ} {s : Settings} {h : List (Visited P.fernet)} {w : Session}

theorem pending_snoc (h : List (Visited F)) (v : Visited F) :
    pending (h ++ [v]) = if v.isCallback then none else v.authorization?.or (pending h) := by
  simp [pending]

theorem Visited.Served.holds {v : Visited P.fernet} {a : Option Authorization} (served : v.Served P s)
    (holds : v.before.Holds a) : v.after.Holds (if v.isCallback then none else v.authorization?.or a) := by
  unfold Visited.isCallback
  cases visits : v.visit with
  | callback args =>
    obtain ⟨cleared, _⟩ := served.callback visits
    rw [cleared, if_pos rfl]
    exact ⟨rfl, rfl⟩
  | authorize args =>
    rw [if_neg Bool.false_ne_true]
    obtain ⟨_, _, _, ⟨none, same⟩ | ⟨state, drawn, stored⟩⟩ := served.authorize visits
    · rw [none, same]
      exact holds
    · rw [drawn, stored]
      exact ⟨rfl, rfl⟩

theorem Browsed.holds (browsed : Browsed P s h w) : w.Holds (pending h) := by
  induction browsed with
  | start => exact ⟨rfl, rfl⟩
  | visit _ served ih =>
    rw [pending_snoc]
    exact served.holds ih

theorem pending_begins (h : List (Visited F)) {a : Authorization} (waits : pending h = some a) :
    ∃ i, Begins h i h.length a := by
  induction h using List.reverseRecOn with
  | nil => cases waits
  | append_singleton h v ih =>
    rw [pending_snoc] at waits
    split at waits
    · cases waits
    rename_i other
    cases own : v.authorization? with
    | some a' =>
      rw [own] at waits
      obtain rfl := Option.some.inj waits
      refine ⟨h.length, by simp, by simp [own], fun k v after before => ?_⟩
      rw [List.length_append, List.length_singleton] at before
      omega
    | none =>
      rw [own] at waits
      obtain ⟨i, before, begins, quiet⟩ := ih waits
      refine ⟨i, by simp only [List.length_append, List.length_singleton]; omega, ?_, fun k u after before' found => ?_⟩
      · rwa [List.getElem?_append_left before]
      · rw [List.length_append, List.length_singleton] at before'
        by_cases last : k < h.length
        · rw [List.getElem?_append_left last] at found
          exact quiet k u after last found
        · obtain rfl : k = h.length := by omega
          obtain rfl : v = u := by simpa using found
          exact ⟨by simpa using other, own⟩

theorem Browsed.at (browsed : Browsed P s h w) {j : Nat} {v : Visited P.fernet} (found : h[j]? = some v) :
    Browsed P s (h.take j) v.before ∧ v.Served P s := by
  induction browsed with
  | start => cases found
  | @visit h u before served ih =>
    by_cases last : j < h.length
    · rw [List.getElem?_append_left last] at found
      rw [List.take_append_of_le_length last.le]
      exact ih found
    · have within : j < (h ++ [u]).length := (List.getElem?_eq_some_iff.mp found).1
      rw [List.length_append, List.length_singleton] at within
      obtain rfl : j = h.length := by omega
      obtain rfl : u = v := by simpa using found
      rw [List.take_left]
      exact ⟨before, served⟩

/-- The request fails the validation of `/callback`, against the state in the session. -/
def Rejected (args : List (String × String)) (state : Option String) : Prop :=
  args = [] ∨ state = none ∨ state ≠ args.lookup "state" ∨ (args.lookup "error").isSome ∨
    args.lookup "code" = none ∨ args.lookup "code" = some ""

theorem exchanges_iff (s : Settings) (args : List (String × String)) (state : Option String) :
    Exchanges s args state ↔ ¬Rejected args state := by
  unfold Exchanges Rejected callbackCheck
  by_cases empty : args = []
  · simp [empty]
  rw [if_neg empty]
  cases state with
  | none => simp
  | some key =>
    by_cases other : some key ≠ args.lookup "state"
    · simp [other]
    simp only [if_neg other]
    rw [← not_ne_iff.mp other]
    cases args.lookup "error" with
    | some error =>
      refine iff_of_false ?_ (by simp)
      rintro ⟨code, checked⟩
      cases normalized : normalizeError s.fetch.errorTypes (.str error) authorizationErrors .serverError with
      | error e => simp [normalized] at checked
      | ok e => cases described : e.description? <;> simp [normalized, described] at checked
    | none =>
      cases args.lookup "code" with
      | none => simp
      | some code =>
        by_cases blank : code = ""
        · simp [blank]
        · simp [blank, empty]

theorem begins_take {h : List (Visited F)} {i j : Nat} {a : Authorization} (within : j ≤ h.length)
    (begins : Begins (h.take j) i (h.take j).length a) : Begins h i j a := by
  rw [List.length_take_of_le within] at begins
  obtain ⟨before, drawn, quiet⟩ := begins
  refine ⟨before, ?_, fun k v after last found => quiet k v after last ?_⟩
  · rwa [List.getElem?_take_of_lt before] at drawn
  · rwa [List.getElem?_take_of_lt last]

/-- The history of one client. Every call of `fetch`, and so everything sent or inserted, is that of a
callback with the state that a request to `/` drew, which no callback and no other such request came
between; so an authorization leads to one exchange at most. The page shows the client's own state. A
callback that fails its validation does nothing but clear the session. -/
theorem exchanges_authorized (browsed : Browsed P s h w) :
    (∀ (j : Nat) (v : Visited P.fernet), h[j]? = some v → 0 < calls v.trace ∨ (∃ e ∈ v.trace, e.op.isExchange = true) →
        calls v.trace = 1 ∧ ∃ args i a, v.visit = .callback args ∧ Begins h i j a ∧
          args.lookup "state" = some a.state ∧ Echoes a.clientState v.response) ∧
      (∀ i j j' (v v' : Visited P.fernet) a a', Begins h i j a → Begins h i j' a' → h[j]? = some v → h[j']? = some v' →
        0 < calls v.trace → 0 < calls v'.trace → j = j') ∧
      (∀ (j : Nat) (v : Visited P.fernet) args, h[j]? = some v → v.visit = .callback args →
        v.after "state" = none ∧ v.after "client_state" = none ∧
          (Rejected args (v.before "state") → calls v.trace = 0 ∧ ∀ e ∈ v.trace, e.op.isExchange = false)) ∧
      ∀ (i : Nat) (v : Visited P.fernet) args, h[i]? = some v → v.visit = .authorize args → (P.urlsplit s.oauth.authorizationUri).isSome →
        (v.authorization?.isSome ↔ v.response.status = 302) := by
  have called : ∀ {j : Nat} {v : Visited P.fernet}, h[j]? = some v →
      0 < calls v.trace ∨ (∃ e ∈ v.trace, e.op.isExchange = true) → ∃ args, v.visit = .callback args := by
    intro j v found exchange
    cases visits : v.visit with
    | callback args => exact ⟨args, rfl⟩
    | authorize args =>
      obtain ⟨none, quiet, _⟩ := (browsed.at found).2.authorize visits
      rcases exchange with call | ⟨e, met, loud⟩
      · omega
      · cases (quiet e met).symm.trans loud
  refine ⟨fun j v found exchange => ?_, fun i j j' v v' a a' begins begins' found found' call call' => ?_,
    fun j v args found visits => ?_, fun i v args found visits => ((browsed.at found).2.authorize visits).2.2.1⟩
  · obtain ⟨args, visits⟩ := called found exchange
    obtain ⟨before, served⟩ := browsed.at found
    obtain ⟨_, once, echoes, checked, after⟩ := served.callback visits
    have call : 0 < calls v.trace := exchange.elim id fun ⟨e, met, loud⟩ => after e met loud
    have accepted := (exchanges_iff s args _).mp (checked call)
    obtain ⟨state, clientState⟩ := before.holds
    unfold Rejected at accepted
    simp only [not_or] at accepted
    obtain ⟨_, drawn, same, _⟩ := accepted
    cases waits : pending (h.take j) with
    | none =>
      rw [waits] at state
      exact absurd state drawn
    | some a =>
      rw [waits] at state clientState
      obtain ⟨i, begins⟩ := pending_begins _ waits
      have within : j ≤ h.length := (List.getElem?_eq_some_iff.mp found).1.le
      refine ⟨by omega, args, i, a, visits, begins_take within begins, (not_ne_iff.mp same).symm.trans state, ?_⟩
      rw [clientState] at echoes
      exact echoes
  -- The earlier of two callbacks leaves the session without the state that the later one needs.
  · have no_callback : ∀ {j j' : Nat} {v : Visited P.fernet} {a a' : Authorization}, Begins h i j a →
        Begins h i j' a' → h[j]? = some v → 0 < calls v.trace → ¬j < j' := by
      intro j j' v a a' begins begins' found call earlier
      obtain ⟨args, visits⟩ := called found (.inl call)
      have quiet := (begins'.2.2 j v begins.1 earlier found).1
      rw [Visited.isCallback, visits] at quiet
      cases quiet
    have := no_callback begins begins' found call
    have := no_callback begins' begins found' call'
    omega
  · obtain ⟨cleared, _, _, checked, after⟩ := (browsed.at found).2.callback visits
    rw [cleared]
    refine ⟨rfl, rfl, fun rejected => ?_⟩
    have none : ¬0 < calls v.trace := fun call => (exchanges_iff s args _).mp (checked call) rejected
    exact ⟨by omega, fun e met => by
      cases exchange : e.op.isExchange with
      | false => rfl
      | true => exact absurd (after e met exchange) none⟩

end Histories

namespace Sample

theorem answer_session (o : Op Sealed) (w : World platform.fernet) :
    Session.Step w.session (⟨o, (World.answer o w).1⟩ : Event (bridge platform.fernet)) (World.answer o w).2.session := by
  cases o <;> first | rfl | exact ⟨rfl, rfl⟩

def visited (visit : Visit) (w : World platform.fernet) : Visited platform.fernet :=
  let run := (respond platform settings visit.request).eval World.answer w
  ⟨visit, w.session, run.trace, run.result.toOption.getD (jsonify 500 (.object {})), run.world.session⟩

theorem visited_served (visit : Visit) (w : World platform.fernet) : (visited visit w).Served platform settings where
  run := by
    have run := Program.eval_runs World.answer (respond platform settings visit.request) w
    obtain ⟨response, answer⟩ := respond_answers platform settings run
    have same : (visited visit w).response = response := by
      show Option.getD (Except.toOption _) _ = _
      rw [answer]
      rfl
    rw [same]
    exact answer ▸ run
  follows := Program.eval_follows World.session answer_session
    (respond platform settings visit.request) w

def stranger : World platform.fernet := { emptyWorld fun _ => response 200 accessToken with session := fun _ => none }

def begun : World platform.fernet :=
  ((respond platform settings (Visit.request (.authorize [("state", "mine")]))).eval World.answer stranger).world

/-- A client without a session authorizes the bridge, and comes back with a code. -/
def history : List (Visited platform.fernet) :=
  [visited (.authorize [("state", "mine")]) stranger, visited (.callback [("state", secret.text), ("code", "code")]) begun]

theorem history_browsed : ∃ w, Browsed platform settings history w :=
  ⟨_, .visit (h := [visited (.authorize [("state", "mine")]) stranger])
    (.visit (h := []) .start (visited_served _ stranger)) (visited_served _ begun)⟩

end Sample

theorem exchanges_authorized_history :
    let v := Sample.visited (.callback [("state", Sample.secret.text), ("code", "code")]) Sample.begun
    calls v.trace = 1 ∧ ∃ args i a, v.visit = .callback args ∧ Begins Sample.history i 1 a ∧
      args.lookup "state" = some a.state ∧ Echoes a.clientState v.response := by
  intro v
  obtain ⟨w, browsed⟩ := Sample.history_browsed
  exact (exchanges_authorized browsed).1 1 v rfl (.inl (by decide +kernel))

end OAuthClientBridge
