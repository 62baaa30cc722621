import OAuthClientBridge.Disclosure
import OAuthClientBridge.Effect.Mirror
import OAuthClientBridge.OAuth.Settled
import OAuthClientBridge.Serializability

/-!
The service under other secrets. Clients are issued other secrets, the table is sealed under these, the provider hands
out other codes and the bridge has another secret there: whatever is done is the same, up to what the secrets seal,
what is sent to the provider, and the secret on the page that issues it.
-/

namespace OAuthClientBridge
open Python Effect Program

/-- Other secrets in place of the clients' own, and other codes in place of the provider's. -/
structure Disguise {τ : Type} (F : Fernet τ) where
  secret : ClientSecret F → ClientSecret F
  key_iff : ∀ k k', (secret k).key = (secret k').key ↔ k.key = k'.key
  code : String → String
  code_empty : ∀ text, code text = "" ↔ text = ""

/-- The deployment with another secret at the provider. -/
def Settings.withClientSecret (s : Settings) (clientSecret : String) : Settings :=
  { s with oauth := { s.oauth with clientSecret } }

def secretMembers : List String := ["client_secret", "code"]

/-- What is sent to the provider, but for its secrets. -/
def SameButSecrets (data data' : List (String × Json)) : Prop :=
  List.Forall₂ (fun m m' => m'.1 = m.1 ∧ (m.1 ∉ secretMembers → m'.2 = m.2)) data data'

/-- Neither rows, nor requests to the provider, nor new secrets. -/
def Op.impersonal {τ : Type} : Op τ → Bool
  | .send _ _ _ | .select _ | .insert _ _ _ | .update _ _ _ | .generateKey => false
  | _ => true

section
variable {τ : Type} {F : Fernet τ}

namespace Disguise
variable (π : Disguise F)

def credentials (c : ClientCredentials F) : ClientCredentials F := ⟨c.clientId, π.secret c.clientSecret⟩

/-- The arguments of a callback. -/
def arguments (args : List (String × String)) : List (String × String) :=
  args.map fun arg => (arg.1, if arg.1 = "code" then π.code arg.2 else arg.2)

structure Tokens (token token' : τ) : Prop where
  isEmpty : F.isEmpty token' = F.isEmpty token
  opens : ∀ k : ClientSecret F, loads (π.secret k) token' = loads k token

structure Rows (row row' : Row τ) : Prop where
  token : Option.Rel π.Tokens row.token row'.token
  createdAt : row'.createdAt = row.createdAt
  lastUpdatedAt : row'.lastUpdatedAt = row.lastUpdatedAt

structure Records (record record' : TokenRecord τ) : Prop where
  encryptedToken : Option.Rel π.Tokens record.encryptedToken record'.encryptedToken
  createdAt : record'.createdAt = record.createdAt

def Stores (σ σ' : Store τ) : Prop := ∀ id, Option.Rel π.Rows (σ id) (σ' id)

/-- `fresh` is what becomes of a key that is drawn. -/
inductive Events (fresh : ClientSecret F → ClientSecret F) : Event (bridge F) → Event (bridge F) → Prop where
  | same {o : Op τ} (impersonal : o.impersonal = true) (answer : Answer F o) : Events fresh ⟨o, answer⟩ ⟨o, answer⟩
  | generateKey (secret : ClientSecret F) : Events fresh ⟨.generateKey, secret⟩ ⟨.generateKey, fresh secret⟩
  | send (uri : String) {data data' : List (String × Json)} (timeout : ℚ) (answer : Upstream) (same : SameButSecrets data data') :
      Events fresh ⟨.send uri data timeout, answer⟩ ⟨.send uri data' timeout, answer⟩
  | select (id : ClientId) {row row' : Option (Row τ)} (rows : Option.Rel π.Rows row row') :
      Events fresh ⟨.select id, row⟩ ⟨.select id, row'⟩
  | insert (id : ClientId) {token token' : τ} (now : Int) (result : InsertResult) (tokens : π.Tokens token token') :
      Events fresh ⟨.insert id token now, result⟩ ⟨.insert id token' now, result⟩
  | update (id : ClientId) {token token' : Option τ} (now : Int) (rowcount : Nat) (tokens : Option.Rel π.Tokens token token') :
      Events fresh ⟨.update id token now, rowcount⟩ ⟨.update id token' now, rowcount⟩

variable {π} {σ σ' : Store τ} {fresh : ClientSecret F → ClientSecret F}

theorem tokens_encrypt (k : ClientSecret F) (nonce : Nonce) (p : Payload) :
    π.Tokens (F.encrypt k.key nonce p) (F.encrypt (π.secret k).key nonce p) where
  isEmpty := by rw [F.encrypt_nonempty, F.encrypt_nonempty]
  opens k' := by
    by_cases own : k.key = k'.key
    · rw [loads_eq, loads_eq, ← own, ← (π.key_iff k k').mpr own, F.decrypt_encrypt, F.decrypt_encrypt]
    · rw [loads_foreign own, loads_foreign (mt (π.key_iff k k').mp own)]

theorem Rows.record {row row' : Row τ} (rows : π.Rows row row') (id : ClientId) :
    π.Records (row.record F id) (row'.record F id) := by
  refine ⟨?_, rows.createdAt⟩
  have tokens := rows.token
  unfold Row.record
  generalize row.token = token at tokens
  generalize row'.token = token' at tokens
  cases tokens with
  | none => exact .none
  | some tokens =>
    simp only [Option.filter_some, tokens.isEmpty]
    split
    · exact .some tokens
    · exact .none

/-! ### The table under other secrets -/

theorem Stores.write {row row' : Row τ} (stores : π.Stores σ σ') (id : ClientId) (rows : π.Rows row row') :
    π.Stores (σ.write id row) (σ'.write id row') := by
  intro other
  by_cases same : other = id
  · subst same
    rw [Store.write_self, Store.write_self]
    exact .some rows
  · rw [Store.write_other _ _ same, Store.write_other _ _ same]
    exact stores other

theorem Stores.insert {token token' : τ} (stores : π.Stores σ σ') (id : ClientId) (tokens : π.Tokens token token') (now : Int) :
    (σ'.insert id token' now).1 = (σ.insert id token now).1 ∧
      π.Stores (σ.insert id token now).2 (σ'.insert id token' now).2 := by
  have rows := stores id
  unfold Store.insert
  generalize σ id = found at rows
  generalize σ' id = found' at rows
  cases rows with
  | none => exact ⟨rfl, stores.write id ⟨.some tokens, rfl, rfl⟩⟩
  | some rows => exact ⟨rfl, stores⟩

theorem Stores.update {token token' : Option τ} (stores : π.Stores σ σ') (id : ClientId)
    (tokens : Option.Rel π.Tokens token token') (now : Int) : (σ'.update id token' now).1 = (σ.update id token now).1 ∧
      π.Stores (σ.update id token now).2 (σ'.update id token' now).2 := by
  have rows := stores id
  unfold Store.update
  generalize σ id = found at rows
  generalize σ' id = found' at rows
  cases rows with
  | none => exact ⟨rfl, stores⟩
  | some rows => exact ⟨rfl, stores.write id ⟨tokens, rows.createdAt, rfl⟩⟩

theorem imitates (π : Disguise F) (fresh : ClientSecret F → ClientSecret F) :
    Imitates Store.Step Store.Step (π.Events fresh) π.Stores := by
  intro σ σ' o o' answer σ₁ stores pairs now
  obtain ⟨_, _, alike⟩ := pairs answer
  cases alike with
  | same impersonal =>
    have rowless : o.row = none := by cases o <;> first | rfl | cases impersonal
    obtain rfl := (Store.step_rowless rowless).mp now
    exact ⟨answer, σ', .same impersonal answer, (Store.step_rowless rowless).mpr rfl, stores⟩
  | generateKey =>
    obtain rfl : σ₁ = σ := now
    exact ⟨fresh answer, σ', .generateKey answer, rfl, stores⟩
  | send uri timeout _ same =>
    obtain rfl : σ₁ = σ := now
    exact ⟨answer, σ', .send uri timeout answer same, rfl, stores⟩
  | select id =>
    obtain ⟨rfl, rfl⟩ := now
    exact ⟨σ' id, σ', .select id (stores id), ⟨rfl, rfl⟩, stores⟩
  | @insert id token token' time _ tokens =>
    obtain ⟨same, after⟩ := stores.insert id tokens time
    have result : answer = (σ.insert id token time).1 := congrArg Prod.fst now
    have world : σ₁ = (σ.insert id token time).2 := congrArg Prod.snd now
    subst result world
    exact ⟨_, (σ'.insert id token' time).2, .insert id time _ tokens, Prod.ext same.symm rfl, after⟩
  | @update id token token' time _ tokens =>
    obtain ⟨same, after⟩ := stores.update id tokens time
    have rowcount : answer = (σ.update id token time).1 := congrArg Prod.fst now
    have world : σ₁ = (σ.update id token time).2 := congrArg Prod.snd now
    subst rowcount world
    exact ⟨_, (σ'.update id token' time).2, .update id time _ tokens, Prod.ext same.symm rfl, after⟩

/-! ### Programs under other secrets -/

section Programs
variable {α β γ : Type} {A : α → β → Prop} {p : Action F α}

variable (π fresh) in
abbrev Mirror (A : α → β → Prop) (p : Action F α) (q : Action F β) : Prop := Mirrors (π.Events fresh) A p q

theorem events_self {o : Op τ} (impersonal : o.impersonal = true) (answer answer' : Answer F o) :
    π.Events fresh ⟨o, answer⟩ ⟨o, answer'⟩ ↔ answer' = answer := by
  constructor
  · intro alike
    cases alike with
    | same _ => rfl
    | _ => cases impersonal
  · intro same
    subst same
    exact .same impersonal answer'

theorem mirror_self {Φ : Trace (bridge F) → Op τ → Prop} {Q : Trace (bridge F) → Except Exc α → Prop}
    (h : p.Ensures Op.silent Φ Q) (impersonal : ∀ t o, Φ t o → o.impersonal = true) : π.Mirror fresh Eq p p := by
  apply Mirrors.self (fun o => events_self)
  apply h.only.mono
  intro o allowed
  rcases allowed with quiet | ⟨t, now⟩
  · cases o <;> first | rfl | cases quiet
  · exact impersonal t o now

theorem mirror_quiet {Q : Trace (bridge F) → Except Exc α → Prop} (h : p.Ensures Op.silent (fun _ _ => False) Q) :
    π.Mirror fresh Eq p p := mirror_self h fun _ _ never => never.elim

theorem mirror_then {q : Action F α} {f : α → Action F β} {g : α → Action F γ} {B : β → γ → Prop} (h : π.Mirror fresh Eq p q)
    (next : ∀ a, π.Mirror fresh B (f a) (g a)) : π.Mirror fresh B (p >>= f) (q >>= g) :=
  Mirrors.bind h fun a _ same => same ▸ next a

theorem mirror_perform {o : Op τ} (impersonal : o.impersonal = true) {f : Answer F o → Action F α} {g : Answer F o → Action F β}
    (next : ∀ answer, π.Mirror fresh A (f answer) (g answer)) : π.Mirror fresh A (perform o >>= f) (perform o >>= g) := by
  apply Mirrors.op
  · intro answer
    exact ⟨answer, answer, .same impersonal answer⟩
  · intro answer answer' alike
    obtain rfl := (events_self impersonal answer answer').mp alike
    exact next answer'

theorem mirror_emit (e : Emission) {f : Unit → Action F α} {g : Unit → Action F β} (next : π.Mirror fresh A (f ()) (g ())) :
    π.Mirror fresh A (emit e >>= f) (emit e >>= g) := mirror_perform rfl fun _ => next

theorem mirror_lift (r : Except PyError γ) {f : γ → Action F α} {g : γ → Action F β}
    (next : ∀ a, π.Mirror fresh A (f a) (g a)) : π.Mirror fresh A (liftPy r >>= f) (liftPy r >>= g) := by
  cases r with
  | ok a => exact next a
  | error e => exact .throw _

theorem mirror_dumps (secret : ClientSecret F) (p : Payload) :
    π.Mirror fresh π.Tokens (dumps secret p) (dumps (π.secret secret) p) :=
  mirror_perform rfl fun nonce => .pure (π.tokens_encrypt secret nonce p)

theorem mirror_lookup (id : ClientId) :
    π.Mirror fresh (Option.Rel π.Records) (Db.lookup id : Action F (Option (TokenRecord τ))) (Db.lookup id) := by
  apply Mirrors.op
  · intro _
    exact ⟨none, none, .select id .none⟩
  · intro row row' alike
    cases alike with
    | same impersonal => cases impersonal
    | select _ rows =>
      cases rows with
      | none => exact .pure .none
      | some rows => exact .pure (.some (rows.record id))

theorem mirror_insert {token token' : τ} (tokens : π.Tokens token token') (id : ClientId) :
    π.Mirror fresh Eq (Db.insert id token : Action F InsertResult) (Db.insert id token') := by
  apply mirror_perform rfl
  intro now
  apply Mirrors.op
  · intro result
    exact ⟨result, result, .insert id _ result tokens⟩
  · intro result _ alike
    cases alike with
    | same impersonal => cases impersonal
    | insert =>
      cases result with
      | inserted => exact mirror_emit _ (.pure rfl)
      | integrityError => exact .pure rfl

theorem mirror_update {token token' : Option τ} (tokens : Option.Rel π.Tokens token token') (id : ClientId) :
    π.Mirror fresh Eq (Db.update id token : Action F Nat) (Db.update id token') := by
  apply mirror_perform rfl
  intro now
  apply Mirrors.op
  · intro rowcount
    exact ⟨rowcount, rowcount, .update id _ rowcount tokens⟩
  · intro rowcount _ alike
    cases alike with
    | same impersonal => cases impersonal
    | update =>
      apply mirror_emit
      split
      · exact mirror_emit _ (.pure rfl)
      · exact .pure rfl

theorem mirror_raiseError (error : OAuthError) (description uri retryAfter : Json) :
    π.Mirror fresh A (raiseError error description uri retryAfter) (raiseError error description uri retryAfter) :=
  mirror_lift _ fun _ => .throw _

end Programs

/-! ### `fetch` -/

section Fetch
variable {P : Platform τ} {s : FetchSettings} {uri endpoint : String} {data data' : List (String × Json)}

theorem mirror_fetchOnce (same : SameButSecrets data data') (timeout : ℚ) :
    π.Mirror fresh Eq (fetchOnce s uri endpoint data timeout) (fetchOnce s uri endpoint data' timeout) := by
  apply Mirrors.op
  · intro answer
    exact ⟨answer, answer, .send uri _ answer same⟩
  · intro answer answer' alike
    cases alike with
    | same impersonal => cases impersonal
    | send =>
      cases answer with
      | response r => exact mirror_quiet (fetchAnswered_ensures r)
      | failure kind response redirects => exact mirror_quiet (fetchFailed_ensures s kind response redirects)
      | raised e redirects => exact .throw _

theorem mirror_attempt (same : SameButSecrets data data') (name : String) (remaining : ℚ) (st : LoopState) :
    π.Mirror fresh Eq (attempt P s uri endpoint data name remaining st) (attempt P s uri endpoint data' name remaining st) := by
  apply mirror_emit
  split
  · apply mirror_quiet (Q := fun _ _ => True)
    simp
  apply mirror_then (mirror_fetchOnce same remaining)
  intro received
  apply mirror_then (mirror_quiet (tokenEndpointOutcome_ensures _ _))
  intro outcome
  split
  · exact mirror_then (mirror_quiet (retryable_ensures name _ outcome)) fun _ => .pure rfl
  · apply mirror_quiet (Q := fun _ _ => True)
    unfold conclude
    dsimp only
    split <;> simp

theorem mirror_iteration (same : SameButSecrets data data') (deadline : ℚ) (i : Nat) (st : LoopState) :
    π.Mirror fresh Eq (iteration P s uri endpoint data deadline i st) (iteration P s uri endpoint data' deadline i st) := by
  apply mirror_perform rfl
  intro now
  dsimp only
  split
  · exact mirror_attempt same _ _ _
  rename_i decision _
  have admits : (admitRetry s endpoint (attemptName i uri) deadline (deadline - now) ((2 ^ i - 1) * s.backoffFactor) st.retry
      decision : Action F _).Ensures Op.silent (fun _ o => ∃ low high, o = .uniform low high) _ :=
    admitRetry_ensures _ _ _ _ _ _ fun low high => ⟨low, high, rfl⟩
  apply mirror_then (mirror_self admits fun _ _ ⟨_, _, draw⟩ => draw ▸ rfl)
  intro admitted
  split
  · exact .pure rfl
  · exact mirror_attempt same _ _ _

theorem mirror_retryLoop (same : SameButSecrets data data') (deadline : ℚ) (n i : Nat) (st : LoopState) :
    π.Mirror fresh Eq (retryLoop P s uri endpoint data deadline n i st) (retryLoop P s uri endpoint data' deadline n i st) := by
  induction n generalizing i st with
  | zero =>
    apply mirror_quiet (Q := fun _ _ => True)
    unfold retryLoop attemptsUsedUp
    cases st.pendingRetryDecision <;> simp
  | succ n ih =>
    apply mirror_then (mirror_iteration same deadline i st)
    intro again
    split
    · exact ih _ _
    · exact .pure rfl

theorem mirror_fetch (same : SameButSecrets data data') (prepared : prepare data' = prepare data) :
    π.Mirror fresh Eq (fetch P s uri endpoint data) (fetch P s uri endpoint data') := by
  unfold fetch
  rw [prepared]
  apply mirror_lift
  intro _
  apply mirror_perform rfl
  intro _
  apply mirror_perform rfl
  intro now
  apply mirror_lift
  intro result
  apply mirror_then (mirror_retryLoop same _ _ _ _)
  intro st
  exact mirror_quiet (finishFetch_ensures (k := ⟨st.result, st.status, st.retry, false⟩) ⟨rfl, rfl, rfl⟩)

end Fetch

end Disguise
end
end OAuthClientBridge
