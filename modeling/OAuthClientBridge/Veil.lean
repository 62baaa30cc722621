import OAuthClientBridge.Effect.Coupling
import OAuthClientBridge.Merge
import OAuthClientBridge.World

/-!
What a second run of the bridge may have in place of the token material of the first, and how far
that shows in payloads, in the answers of the provider, in rows and in worlds.
-/

namespace OAuthClientBridge
open Python Effect Program

def tokenMembers : List String := ["access_token", "refresh_token", "id_token"]

/-- A non-empty text. -/
def Material (v : Json) : Prop := v.isStr = true ∧ v.truthy = true

theorem Material.selfEq {v : Json} (h : Material v) : v.selfEq = true := by
  obtain ⟨text, _⟩ := h
  cases v with
  | float => cases text
  | _ => rfl

/-- The payload holds a token that its log records must not show. -/
def Exposed (p : Payload) : Prop := ∃ key ∈ tokenMembers, ∃ v, p[key]? = some v ∧ Material v

structure Veil where
  /-- A member of a payload, and what the other run has in its place. -/
  Matches : String → Json → Json → Prop
  /-- The runs are compared by what they log, too. -/
  logged : Prop
  plain : ∀ {key : String} {v v' : Json}, key ∉ tokenMembers → (Matches key v v' ↔ v' = v)
  cases : ∀ {key : String} {v v' : Json}, Matches key v v' → v' = v ∨ Material v ∧ Material v'
  null : ∀ key, Matches key .null .null
  compared : ∀ {key : String} {a a' b b' : Json}, logged → Matches key a a' → Matches key b b' → a'.pyEq b' = a.pyEq b
  /-- Where only one run takes the new value, it still matches the old value of the other. -/
  crossed : ∀ {key : String} {a a' b b' : Json}, Matches key a a' → Matches key b b' → a'.pyEq b' ≠ a.pyEq b →
    Matches key a b' ∧ Matches key b a'
  /-- Both runs can write their refresh token into a form, or neither. -/
  sent : ∀ {v v' : Json}, Matches "refresh_token" v v' → prepare [("refresh_token", v')] = prepare [("refresh_token", v)]

namespace Veil
variable {V : Veil} {key : String} {v v' : Json}

theorem truthy (h : V.Matches key v v') : v'.truthy = v.truthy := by
  rcases V.cases h with rfl | ⟨material, material'⟩
  · rfl
  · rw [material.2, material'.2]

theorem selfEq (h : V.Matches key v v') : v'.selfEq = v.selfEq := by
  rcases V.cases h with rfl | ⟨material, material'⟩
  · rfl
  · rw [material.selfEq, material'.selfEq]

/-! ### Payloads -/

variable (V) in
def Payloads (p p' : Payload) : Prop := ∀ key, Option.Rel (V.Matches key) p[key]? p'[key]?

variable {p p' q q' : Payload}

theorem Payloads.member (h : V.Payloads p p') (plain : key ∉ tokenMembers) : p'[key]? = p[key]? := by
  have now := h key
  revert now
  cases p[key]? <;> cases p'[key]? <;> rintro ⟨⟩
  · rfl
  · rename_i now
    rw [(V.plain plain).mp now]

theorem Payloads.getOrNull (h : V.Payloads p p') (key : String) : V.Matches key (p.getOrNull key) (p'.getOrNull key) := by
  have now := h key
  unfold Payload.getOrNull
  revert now
  cases p[key]? <;> cases p'[key]? <;> rintro ⟨⟩
  · exact V.null key
  · assumption

theorem Payloads.getOrNull_plain (h : V.Payloads p p') (plain : key ∉ tokenMembers) : p'.getOrNull key = p.getOrNull key :=
  (V.plain plain).mp (h.getOrNull key)

theorem Payloads.contains (h : V.Payloads p p') (key : String) : p'.contains key = p.contains key := by
  have now := h key
  rw [Std.ExtTreeMap.contains_eq_isSome_getElem?, Std.ExtTreeMap.contains_eq_isSome_getElem?]
  revert now
  cases p[key]? <;> cases p'[key]? <;> rintro ⟨⟩ <;> rfl

theorem Payloads.validateToken (h : V.Payloads p p') :
    OAuthClientBridge.validateToken p' = OAuthClientBridge.validateToken p := by
  unfold OAuthClientBridge.validateToken
  rw [truthy (h.getOrNull _), truthy (h.getOrNull _)]

theorem Payloads.keys (h : V.Payloads p p') : p'.keys = p.keys := Payload.keys_eq h.contains

theorem payloads_of_absent (h : ∀ key ∈ tokenMembers, p[key]? = none) : V.Payloads p p := by
  intro key
  by_cases plain : key ∈ tokenMembers
  · rw [h key plain]
    exact .none
  · cases p[key]? with
    | none => exact .none
    | some v => exact .some ((V.plain plain).mpr rfl)

theorem payloads_json {e : OAuthError} {description : Json} (h : e.json description = .ok p) : V.Payloads p p := by
  unfold OAuthError.json at h
  cases described : e.describe description with
  | error e => simp [described] at h
  | ok text =>
    rw [described, ok_bind, except_pure, Except.ok.injEq] at h
    subst h
    exact payloads_of_absent (by simp [tokenMembers])

theorem Payloads.eq (h : V.Payloads p p') (bare : ¬Exposed p) : p' = p := by
  refine Std.ExtTreeMap.ext_getElem? fun key => ?_
  by_cases plain : key ∈ tokenMembers
  swap
  · exact h.member plain
  have now := h key
  have none : ∀ v, p[key]? = some v → ¬Material v := fun v present token => bare ⟨key, plain, v, present, token⟩
  revert now none
  cases p[key]? <;> cases p'[key]? <;> rintro ⟨⟩ none
  · rfl
  · rename_i v v' now
    rcases V.cases now with rfl | ⟨token, _⟩
    · rfl
    · exact absurd token (none v rfl)

theorem Payloads.insert (h : V.Payloads p p') (now : V.Matches key v v') : V.Payloads (p.insert key v) (p'.insert key v') := by
  intro other
  rw [Std.ExtTreeMap.getElem?_insert, Std.ExtTreeMap.getElem?_insert]
  split
  · rename_i same
    rw [← Std.LawfulEqCmp.eq_of_compare same]
    exact .some now
  · exact h other

theorem Payloads.filter (h : V.Payloads p p') (f : String → Bool) :
    V.Payloads (p.filter fun key _ => f key) (p'.filter fun key _ => f key) := by
  intro key
  have now := h key
  rw [Std.ExtTreeMap.getElem?_filter', Std.ExtTreeMap.getElem?_filter']
  revert now
  cases p[key]? <;> cases p'[key]? <;> rintro ⟨⟩
  · exact .none
  · rename_i now
    cases f key
    · simp
    · simp only [Option.filter, if_true]
      exact .some now

theorem Payloads.withRetryAfter (h : V.Payloads p p') (n : Nat) :
    V.Payloads (withRetryAfter n p) (OAuthClientBridge.withRetryAfter n p') := by
  unfold OAuthClientBridge.withRetryAfter
  rw [h.contains]
  split
  · exact h.insert ((V.plain (by decide)).mpr rfl)
  · exact h

theorem Payloads.sanitize (h : V.Payloads p p') : sanitizeForLogging p' = sanitizeForLogging p := by
  refine Std.ExtTreeMap.ext_getElem? fun key => ?_
  unfold sanitizeForLogging
  rw [Std.ExtTreeMap.getElem?_map, Std.ExtTreeMap.getElem?_map]
  by_cases shown : key ∈ allowedLogFields
  · have apart : ∀ key ∈ allowedLogFields, key ∉ tokenMembers := by decide
    rw [h.member (apart key shown)]
  · have now := h key
    revert now
    cases p[key]? <;> cases p'[key]? <;> rintro ⟨⟩ <;> simp [shown]

theorem Payloads.grantPayload (h : V.Payloads p p') : V.Payloads (grantPayload p) (OAuthClientBridge.grantPayload p') := by
  unfold OAuthClientBridge.grantPayload
  rw [h.contains]
  split
  · exact h.filter _
  · exact h

/-! ### A refresh -/

theorem Payloads.handedOut (h : V.Payloads p p') (h' : V.Payloads q q') :
    V.Payloads (refreshedToken p q) (refreshedToken p' q') := by
  intro key
  rw [refreshedToken_getElem?, refreshedToken_getElem?]
  unfold OAuthClientBridge.handedOut
  split
  · exact .none
  split
  · rename_i scope
    subst scope
    rw [h.member (by decide), h'.member (by decide)]
    cases q["scope"]?.or p["scope"]? with
    | none => exact .none
    | some v => exact .some ((V.plain (by decide)).mpr rfl)
  · exact h' key

theorem Payloads.modified (h : V.Payloads p p') (h' : V.Payloads q q') :
    V.Payloads (modifiedToken p q) (modifiedToken p' q') := by
  unfold modifiedToken
  rw [h'.contains]
  split
  · exact (h.filter _).insert (h'.getOrNull _)
  · exact h.filter _

theorem Payloads.tokenChanged (logged : V.logged) (h : V.Payloads p p') (h' : V.Payloads q q') :
    tokenChanged p' q' = OAuthClientBridge.tokenChanged p q := by
  rw [tokenChanged_eq, tokenChanged_eq, h.keys, (h.modified h').keys, h'.contains,
    V.compared logged (h.getOrNull _) (h'.getOrNull _)]

theorem Payloads.updatedFields (logged : V.logged) (h : V.Payloads p p') (h' : V.Payloads q q') :
    updatedFields p' q' = OAuthClientBridge.updatedFields p q := by
  have modified := h.modified h'
  have keys : (p'.union (modifiedToken p' q')).keys = (p.union (modifiedToken p q)).keys := by
    refine Payload.keys_eq fun key => ?_
    have union := fun t u : Payload => (Std.ExtTreeMap.contains_union : (t ∪ u).contains key = _)
    exact (union _ _).trans (by rw [h.contains, modified.contains]; exact (union _ _).symm)
  unfold OAuthClientBridge.updatedFields
  dsimp only
  rw [keys]
  refine List.filter_congr fun key _ => ?_
  unfold memberEq sharesMember
  rw [modified.contains, h'.contains, selfEq (h.getOrNull key), V.compared logged (h.getOrNull key) (modified.getOrNull key)]

/-- Where only one run changes its payload, the new one still matches what the other run keeps. -/
theorem Payloads.crossed (h : V.Payloads p p') (h' : V.Payloads q q')
    (differ : OAuthClientBridge.tokenChanged p' q' ≠ OAuthClientBridge.tokenChanged p q) :
    V.Payloads (modifiedToken p q) p' ∧ V.Payloads p (modifiedToken p' q') := by
  have modified := h.modified h'
  rw [tokenChanged_eq, tokenChanged_eq, h.keys, modified.keys, h'.contains] at differ
  -- Names of members never differ between the runs, so it is the refresh tokens that decided.
  obtain ⟨same, renewed, differ⟩ : p.keys = (modifiedToken p q).keys ∧ q.contains "refresh_token" = true ∧
      (p'.getOrNull "refresh_token").pyEq (q'.getOrNull "refresh_token") ≠
        (p.getOrNull "refresh_token").pyEq (q.getOrNull "refresh_token") := by
    cases keys : p.keys != (modifiedToken p q).keys <;> cases renewed : q.contains "refresh_token" <;>
      simp_all
  have same' : p'.keys = (modifiedToken p' q').keys := by rw [h.keys, modified.keys, same]
  have renewed' : q'.contains "refresh_token" = true := by rw [h'.contains, renewed]
  have now : (modifiedToken p q).contains "refresh_token" = true := by simp [modifiedToken, renewed]
  have now' : (modifiedToken p' q').contains "refresh_token" = true := by rw [modified.contains, now]
  have own : p.contains "refresh_token" = true := by rwa [← Payload.mem_keys, same, Payload.mem_keys]
  have own' : p'.contains "refresh_token" = true := by rw [h.contains, own]
  obtain ⟨right, left⟩ := V.crossed (h.getOrNull _) (h'.getOrNull _) differ
  constructor <;> intro key <;> by_cases token : key = "refresh_token"
  · subst token
    rw [Payload.getElem?_of_contains now, Payload.getElem?_of_contains own', modifiedToken_renewed renewed]
    exact .some left
  · rw [modifiedToken_kept same token]
    exact h key
  · subst token
    rw [Payload.getElem?_of_contains own, Payload.getElem?_of_contains now', modifiedToken_renewed renewed']
    exact .some right
  · rw [modifiedToken_kept same' token]
    exact h key

/-! ### Documents -/

variable (V) in
inductive Documents : Document → Document → Prop where
  | object {p p' : Payload} (h : V.Payloads p p') : Documents (.object p) (.object p')
  | other (v : NonObject) : Documents (.other v) (.other v)

variable {d d' : Document}

theorem Documents.asDict (h : V.Documents d d') : Alike V.Payloads d.asDict d'.asDict := by
  cases h with
  | object h => exact .ok h
  | other v => exact .error _

theorem Documents.has (h : V.Documents d d') (key : String) : d'.has key = d.has key := by
  cases h with
  | object h => rw [Document.has_object, Document.has_object, h.contains]
  | other v => rfl

theorem Documents.issue (h : V.Documents d d') (retryStatusCodes : List HTTPStatus) (status : Option HTTPStatus) :
    unexpectedTokenEndpointIssue retryStatusCodes status d' = unexpectedTokenEndpointIssue retryStatusCodes status d := by
  cases h with
  | object h =>
    unfold unexpectedTokenEndpointIssue
    simp only [Document.asDict_object, ok_bind, h.validateToken, h.getOrNull_plain (show "error" ∉ tokenMembers by decide)]
  | other v => rfl

theorem Documents.classify {τ : Type} (h : V.Documents d d') (P : Platform τ) (s : FetchSettings) (status : Option HTTPStatus) :
    classify P s status d' = OAuthClientBridge.classify P s status d := by
  cases h with
  | object h =>
    have error := h.member (show "error" ∉ tokenMembers by decide)
    unfold OAuthClientBridge.classify
    simp only [Document.asDict_object, Document.has_object, Document.item, ok_bind, h.validateToken, error, h.contains]
  | other v => rfl

/-! ### Answers of the provider -/

variable (V) in
inductive Bodies : Body → Body → Prop where
  | undecodable : Bodies .undecodable .undecodable
  | document {d d' : Document} (h : V.Documents d d') : Bodies (.document d) (.document d')

variable (V) in
inductive Responses : UpstreamResponse → UpstreamResponse → Prop where
  | mk (r : UpstreamResponse) {b b' : Body} (h : V.Bodies b b') : Responses { r with body := b } { r with body := b' }

variable (V) in
inductive Upstreams : Upstream → Upstream → Prop where
  | response {r r' : UpstreamResponse} (h : V.Responses r r') : Upstreams (.response r) (.response r')
  | failure (kind : FailureKind) {r r' : Option UpstreamResponse} (redirects : Nat) (h : Option.Rel V.Responses r r') :
      Upstreams (.failure kind r redirects) (.failure kind r' redirects)
  | raised (e : PyError) (redirects : Nat) : Upstreams (.raised e redirects) (.raised e redirects)

theorem failureStatus_eq {r r' : Option UpstreamResponse} (h : Option.Rel V.Responses r r') :
    failureStatus r' = failureStatus r := by
  cases h with
  | none => rfl
  | some h =>
    cases h
    rfl

theorem failureRetry_eq {r r' : Option UpstreamResponse} (kind : FailureKind) (h : Option.Rel V.Responses r r') :
    failureRetry kind r' = failureRetry kind r := by
  cases h with
  | none => rfl
  | some h =>
    cases h
    rfl

/-! ### The table -/

section Rows
variable {τ : Type} {F : Fernet τ}

variable (V) in
structure Tokens (F : Fernet τ) (token token' : τ) : Prop where
  isEmpty : F.isEmpty token' = F.isEmpty token
  decrypt : ∀ k, Option.Rel V.Documents (F.decrypt k token) (F.decrypt k token')
  /-- A token opens under one key only. -/
  single : ∀ {k k' : F.Key} {d d' : Document}, F.decrypt k token = some d → F.decrypt k' token' = some d' → k' = k

variable (V) in
structure Rows (F : Fernet τ) (row row' : Row τ) : Prop where
  token : Option.Rel (V.Tokens F) row.token row'.token
  createdAt : V.logged → row'.createdAt = row.createdAt

variable (V) in
def Stores (F : Fernet τ) (σ σ' : Store τ) : Prop := ∀ id, Option.Rel (V.Rows F) (σ id) (σ' id)

theorem Payloads.tokens (h : V.Payloads p p') (k : F.Key) (nonce nonce' : Nonce) :
    V.Tokens F (F.encrypt k nonce p) (F.encrypt k nonce' p') where
  isEmpty := by rw [F.encrypt_nonempty, F.encrypt_nonempty]
  decrypt k' := by
    cases opened : F.decrypt k' (F.encrypt k nonce p) with
    | some d =>
      obtain rfl := F.authentic opened
      rw [F.decrypt_encrypt] at opened
      obtain rfl := Option.some.inj opened
      rw [F.decrypt_encrypt]
      exact .some (.object h)
    | none =>
      cases opened' : F.decrypt k' (F.encrypt k nonce' p') with
      | none => exact .none
      | some d =>
        obtain rfl := F.authentic opened'
        rw [F.decrypt_encrypt] at opened
        cases opened
  single opened opened' := (F.authentic opened').trans (F.authentic opened).symm

end Rows

end Veil
end OAuthClientBridge
