import OAuthClientBridge.Classification

/-! What a successful refresh hands out and what it leaves in the table, member by member. -/

namespace OAuthClientBridge
open Python Effect Program

/-! ### The two payloads -/

section Payloads
variable (stored refreshed : Payload) (key : String)

/-- A member of the response: that of the refreshed token, without its refresh token, and with the
stored scope if it has none. -/
def handedOut : Option Json :=
  if key = "refresh_token" then none
  else if key = "scope" then refreshed[key]?.or stored[key]?
  else refreshed[key]?

def keptStored : Option Json :=
  if key = "refresh_token" then refreshed[key]?.or stored[key]?
  else if key ∈ ["access_token", "expires_in", "token_type"] then none
  else stored[key]?

theorem scrubRefreshToken_getElem? : (scrubRefreshToken stored)[key]? =
    if key ∈ ["access_token", "expires_in", "token_type"] then none else stored[key]? := by
  unfold scrubRefreshToken
  rw [Std.ExtTreeMap.getElem?_filter']
  cases stored[key]? <;> by_cases scrubbed : key ∈ ["access_token", "expires_in", "token_type"] <;> simp [scrubbed]

theorem refreshedToken_getElem? : (refreshedToken stored refreshed)[key]? = handedOut stored refreshed key := by
  unfold refreshedToken handedOut
  rw [Std.ExtTreeMap.getElem?_erase]
  by_cases token : key = "refresh_token"
  · simp [token]
  rw [if_neg (by simpa using Ne.symm token), if_neg token]
  by_cases scope : key = "scope"
  swap
  · rw [if_neg scope]
    split
    · rw [Std.ExtTreeMap.getElem?_insert, if_neg (by simpa using Ne.symm scope)]
    · rfl
  subst scope
  rw [if_pos rfl, Std.ExtTreeMap.contains_eq_isSome_getElem?, Std.ExtTreeMap.contains_eq_isSome_getElem?]
  cases own : refreshed["scope"]? with
  | some value => simp [own]
  | none => cases old : stored["scope"]? <;> simp [own, old, Payload.getOrNull]

theorem modifiedToken_getElem? : (modifiedToken stored refreshed)[key]? = keptStored stored refreshed key := by
  unfold modifiedToken keptStored
  rw [Std.ExtTreeMap.contains_eq_isSome_getElem?]
  by_cases token : key = "refresh_token"
  · subst token
    have kept := scrubRefreshToken_getElem? stored "refresh_token"
    cases new : refreshed["refresh_token"]? <;> simp [new, kept, Payload.getOrNull]
  · rw [if_neg token]
    split
    · rw [Std.ExtTreeMap.getElem?_insert, if_neg (by simpa using Ne.symm token), scrubRefreshToken_getElem?]
    · exact scrubRefreshToken_getElem? stored key

end Payloads

def TextOrAbsent (p : Payload) (key : String) : Prop := ∀ v, p[key]? = some v → v.isStr = true

def HasText (p : Payload) (key : String) : Prop := ∃ v, p[key]? = some v ∧ v.isStr = true

theorem Payload.mem_keys {p : Payload} {key : String} : key ∈ p.keys ↔ p.contains key = true := by
  rw [Std.ExtTreeMap.mem_keys, Std.ExtTreeMap.mem_iff_contains]

theorem sharesMember_eq (stored refreshed : Payload) {key : String} (held : (modifiedToken stored refreshed).contains key = true) :
    sharesMember refreshed (modifiedToken stored refreshed) key =
      !(key = "refresh_token" && refreshed["refresh_token"]?.isSome) := by
  rw [sharesMember, held, Bool.true_and, Std.ExtTreeMap.contains_eq_isSome_getElem?]

theorem Payload.keys_eq {p p' : Payload} (same : ∀ key, p'.contains key = p.contains key) : p'.keys = p.keys := by
  have names : (p'.map fun _ _ => ()) = p.map fun _ _ => () := by
    refine Std.ExtTreeMap.ext_getElem? fun key => ?_
    have now := same key
    rw [Std.ExtTreeMap.contains_eq_isSome_getElem?, Std.ExtTreeMap.contains_eq_isSome_getElem?] at now
    rw [Std.ExtTreeMap.getElem?_map, Std.ExtTreeMap.getElem?_map]
    revert now
    cases p[key]? <;> cases p'[key]? <;> simp
  simpa using congrArg Std.ExtTreeMap.keys names

theorem modifiedToken_renewed {stored refreshed : Payload} (renewed : refreshed.contains "refresh_token" = true) :
    (modifiedToken stored refreshed).getOrNull "refresh_token" = refreshed.getOrNull "refresh_token" := by
  unfold modifiedToken
  rw [if_pos renewed, Payload.getOrNull_insert_self]

theorem modifiedToken_kept {stored refreshed : Payload} {key : String} (same : stored.keys = (modifiedToken stored refreshed).keys)
    (other : key ≠ "refresh_token") : (modifiedToken stored refreshed)[key]? = stored[key]? := by
  have own : stored.contains key = (modifiedToken stored refreshed).contains key := by
    rw [Bool.eq_iff_iff, ← Payload.mem_keys, ← Payload.mem_keys, same]
  have found := modifiedToken_getElem? stored refreshed key
  rw [Std.ExtTreeMap.contains_eq_isSome_getElem?, Std.ExtTreeMap.contains_eq_isSome_getElem?] at own
  rw [keptStored, if_neg other] at found
  split at found
  · rw [found] at own ⊢
    exact (Option.isNone_iff_eq_none.mp (Option.isSome_eq_false_iff.mp own)).symm
  · exact found

theorem tokenChanged_eq (stored refreshed : Payload) : tokenChanged stored refreshed =
    (stored.keys != (modifiedToken stored refreshed).keys || refreshed.contains "refresh_token" &&
      !(stored.getOrNull "refresh_token").pyEq (refreshed.getOrNull "refresh_token")) := by
  unfold tokenChanged
  cases keys : stored.keys != (modifiedToken stored refreshed).keys with
  | true => simp [keys]
  | false =>
    have same := bne_eq_false_iff_eq.mp keys
    dsimp only
    rw [keys, Bool.false_or, Bool.false_or, Bool.eq_iff_iff, List.any_eq_true]
    constructor
    · rintro ⟨key, own, differs⟩
      rw [sharesMember_eq stored refreshed (by rwa [← Payload.mem_keys, ← same])] at differs
      obtain ⟨⟨rfl, renewed⟩, differs⟩ : (key = "refresh_token" ∧ refreshed["refresh_token"]?.isSome = true) ∧
          (stored.getOrNull key).pyEq ((modifiedToken stored refreshed).getOrNull key) = false := by
        simpa using differs
      rw [← Std.ExtTreeMap.contains_eq_isSome_getElem?] at renewed
      rw [renewed, ← modifiedToken_renewed renewed, differs]
      rfl
    · intro differs
      obtain ⟨renewed, differs⟩ := Bool.and_eq_true_iff.mp differs
      have held : (modifiedToken stored refreshed).contains "refresh_token" = true := by
        unfold modifiedToken
        simp [renewed]
      refine ⟨"refresh_token", by rwa [same, Payload.mem_keys], ?_⟩
      rw [sharesMember_eq stored refreshed held, ← Std.ExtTreeMap.contains_eq_isSome_getElem?, renewed,
        modifiedToken_renewed renewed]
      simpa using differs

/-- The comparison that decides on the write sees every difference between the two payloads. -/
theorem tokenChanged_iff {stored refreshed : Payload} (holds : HasText stored "refresh_token") :
    tokenChanged stored refreshed = true ↔ modifiedToken stored refreshed ≠ stored := by
  obtain ⟨old, held, text⟩ := holds
  have own : stored.getOrNull "refresh_token" = old := by rw [Payload.getOrNull, held, Option.getD_some]
  rw [← not_iff_not, not_not, Bool.not_eq_true, tokenChanged_eq, Bool.or_eq_false_iff, bne_eq_false_iff_eq, own]
  constructor
  · rintro ⟨keys, equal⟩
    refine Std.ExtTreeMap.ext_getElem? fun key => ?_
    by_cases token : key = "refresh_token"
    swap
    · exact modifiedToken_kept keys token
    subst token
    rw [modifiedToken_getElem?, keptStored, if_pos rfl]
    cases present : refreshed["refresh_token"]? with
    | none => exact Option.none_or
    | some v =>
      have contained : refreshed.contains "refresh_token" = true := by
        rw [Std.ExtTreeMap.contains_eq_isSome_getElem?, present, Option.isSome_some]
      have same : old.pyEq v = true := by
        simpa [contained, Payload.getOrNull, present] using equal
      rw [Option.some_or, held, (Json.str_pyEq text).mp same]
  · intro same
    refine ⟨by rw [same], ?_⟩
    cases contained : refreshed.contains "refresh_token" with
    | false => rfl
    | true =>
      rw [← modifiedToken_renewed contained, same, own, (Json.str_pyEq text).mpr rfl]
      rfl

/-! ### The view -/

section View
variable {τ : Type} {F : Fernet τ}

def Op.isUpdate : Op τ → Bool
  | .update _ _ _ => true
  | _ => false

def updates (t : Trace (bridge F)) : Nat := t.countP fun e => e.op.isUpdate

theorem updates_visible (t : Trace (bridge F)) : updates (visible Op.silent t) = updates t := by
  unfold updates visible
  rw [List.countP_filter]
  refine List.countP_congr fun e _ => ?_
  obtain ⟨o, answer⟩ := e
  cases o <;> simp [Op.isUpdate, Op.silent]

theorem updates_fetch {uri : String} {data : List (String × Json)} {t : Trace (bridge F)}
    (trace : FetchTrace uri data t) : updates t = 0 := by
  refine List.countP_eq_zero.mpr fun e met => ?_
  obtain ⟨o, answer⟩ := e
  obtain ⟨w, rfl⟩ | ⟨low, high, rfl⟩ := trace _ met <;> simp [Op.isUpdate]

variable {P : Platform τ} {s : Settings}

/-- The refresh is answered with a token: the last answer is final and readable, and its object has
no error, the members of a token, and a `refresh_token` that is a string or absent. -/
structure Renewed (s : FetchSettings) (l : List Seen) (refreshed : Payload) : Prop where
  last : ∃ r status, (answers l).getLast? = some (.response r) ∧ FinalObject s r status refreshed ∧
    ∃ n, (Upstream.response r).retryAfter = .ok n
  accepted : Accepted refreshed
  refreshToken : TextOrAbsent refreshed "refresh_token"

theorem Renewed.returned {l : List Seen} {refreshed p : Payload} (h : Renewed s.fetch l refreshed)
    (returned : Returned P s.fetch l p) : p = refreshed := by
  obtain ⟨r, status, last, object, _⟩ := h.last
  obtain ⟨_, n, _, rfl⟩ := object.returned returned last
  simp [withRetryAfter, h.accepted.1]

theorem Renewed.not_raised {l : List Seen} {refreshed : Payload} {e : PyError} (h : Renewed s.fetch l refreshed) :
    ¬Raised P s.fetch l e := by
  intro raises
  obtain ⟨r, status, last, object, readable⟩ := h.last
  have absent : refreshed["error"]? = none := h.accepted.noError
  refine object.raised raises last ⟨measure_hashable ?_, readable⟩
  simp [Payload.getOrNull, absent, Json.hashable]

theorem Renewed.asked {l : List Seen} {refreshed : Payload} (h : Renewed s.fetch l refreshed) : answers l ≠ [] := by
  obtain ⟨r, status, last, _⟩ := h.last
  intro none
  simp [none] at last

variable {req : TokenRequest} {σ σ' : Store τ} {c : ClientCredentials P.fernet} {row : Row τ} {stored refreshed : Payload}
  {t : Trace (bridge P.fernet)} {response : Response}

theorem Renewed.run (renewed : Renewed s.fetch (seen t) refreshed) (h : Refreshable P req σ c row stored)
    (held : HasText stored "refresh_token") (run : Runs (serve s (token P s req)) t (.ok response))
    (follows : Follows Store.Step σ t σ') :
    response = nocache (jsonify 200 (.object (refreshedToken stored refreshed))) ∧
      (modifiedToken stored refreshed = stored ∧ updates t = 0 ∧ σ' = σ ∨
        modifiedToken stored refreshed ≠ stored ∧ updates t = 1 ∧ ∃ nonce now, σ' = σ.write c.clientId
          { row with
            token := some (P.fernet.encrypt c.clientSecret.key nonce (modifiedToken stored refreshed))
            lastUpdatedAt := some now }) := by
  obtain ⟨r₀, ended, answer⟩ := (serve_ensures s (token_ensures P s req)).runs run
  obtain rfl := Except.ok.inj answer
  rw [← seen_visible] at renewed
  obtain ⟨p, raises, _⟩ | ⟨p, t', returned, ends, written, _, tf, split, asked⟩ :=
    h.cases ended (Store.follows_visible follows)
  · exact absurd (raises.asked renewed.asked) renewed.not_raised
  obtain rfl := renewed.returned returned
  have count : updates t = updates t' := by
    rw [← updates_visible, split, updates, List.countP_append, List.countP_cons_of_neg (by simp [Op.isUpdate])]
    exact (congrArg (· + updates t') (updates_fetch asked)).trans (Nat.zero_add _)
  have changed : tokenChanged stored p = true ↔ modifiedToken stored p ≠ stored := tokenChanged_iff held
  cases ends with
  | revoked _ _ failed _ | failed failed _ => simp [renewed.accepted.1] at failed
  | invalid _ invalid => simp [renewed.accepted.2] at invalid
  | unchanged _ same =>
    rw [same] at changed
    rcases written with _ | _
    exact ⟨rfl, .inl ⟨not_not.mp (mt changed.mpr Bool.false_ne_true), count, rfl⟩⟩
  | updated nonce now n _ differs =>
    rcases written with _ | ⟨rfl, _ | ⟨step, _ | _⟩⟩
    exact ⟨rfl, .inr ⟨changed.mp differs, count, nonce, now, Store.step_update step h.found⟩⟩

theorem opens_written (row : Row τ) (nonce : Nonce) (now : Option Int) (payload : Payload) :
    Opens c { row with token := some (P.fernet.encrypt c.clientSecret.key nonce payload), lastUpdatedAt := now }
      (.object payload) := by
  refine ⟨P.fernet.encrypt c.clientSecret.key nonce payload, ?_, (loads_eq c.clientSecret _).trans (P.fernet.decrypt_encrypt _ _ _)⟩
  simp [Row.record, P.fernet.encrypt_nonempty]

theorem Renewed.write_free (renewed : Renewed s.fetch (seen t) refreshed) (absent : refreshed["refresh_token"]? = none)
    (h : Refreshable P req σ c row stored) (held : HasText stored "refresh_token")
    (clean : ∀ key ∈ ["access_token", "expires_in", "token_type"], stored[key]? = none)
    (run : Runs (serve s (token P s req)) t (.ok response)) (follows : Follows Store.Step σ t σ') :
    updates t = 0 ∧ σ' = σ := by
  obtain ⟨_, unchanged | ⟨differs, _⟩⟩ := renewed.run h held run follows
  · exact unchanged.2
  refine absurd (Std.ExtTreeMap.ext_getElem? fun key => ?_) differs
  rw [modifiedToken_getElem?, keptStored]
  split
  · rename_i token
    rw [token, absent, Option.none_or]
  split
  · rename_i scrubbed
    exact (clean key scrubbed).symm
  · rfl

/-- A refresh that the provider answers with a token: what the client is handed, what the table holds
afterwards, when it is written, and that a further refresh without a new refresh token writes nothing. -/
theorem refresh_merge (h : Refreshable P req σ c row stored)
    (held : HasText stored "refresh_token") (run : Runs (serve s (token P s req)) t (.ok response))
    (follows : Follows Store.Step σ t σ') (renewed : Renewed s.fetch (seen t) refreshed) :
    (∃ body : Payload, response = nocache (jsonify 200 (.object body)) ∧
        ∀ key, body[key]? = handedOut stored refreshed key) ∧
      ∃ (row' : Row τ) (merged : Payload), σ' c.clientId = some row' ∧ Opens c row' (.object merged) ∧
        (∀ key, merged[key]? = keptStored stored refreshed key) ∧ (∀ id, id ≠ c.clientId → σ' id = σ id) ∧
        (merged ≠ stored → updates t = 1) ∧ (merged = stored → updates t = 0 ∧ σ' = σ) ∧
        ∀ req' t' response' σ'' refreshed', Presents P req' c →
          Runs (serve s (token P s req')) t' (.ok response') → Follows Store.Step σ' t' σ'' →
          Renewed s.fetch (seen t') refreshed' → refreshed'["refresh_token"]? = none → updates t' = 0 ∧ σ'' = σ' := by
  obtain ⟨answer, stores⟩ := renewed.run h held run follows
  refine ⟨⟨_, answer, refreshedToken_getElem? stored refreshed⟩, ?_⟩
  have members := modifiedToken_getElem? stored refreshed
  have held' : HasText (modifiedToken stored refreshed) "refresh_token" := by
    unfold HasText
    rw [members, keptStored, if_pos rfl]
    cases new : refreshed["refresh_token"]? with
    | none => exact held
    | some v => exact ⟨v, rfl, renewed.refreshToken v new⟩
  have clean : ∀ key ∈ ["access_token", "expires_in", "token_type"], (modifiedToken stored refreshed)[key]? = none := by
    intro key scrubbed
    rw [members, keptStored, if_neg (by rintro rfl; simp at scrubbed), if_pos scrubbed]
  -- The merged payload holds none of the scrubbed members, so merging again finds nothing to change.
  have further : ∀ {row' : Row τ}, σ' c.clientId = some row' → Opens c row' (.object (modifiedToken stored refreshed)) →
      ∀ req' t' response' σ'' refreshed', Presents P req' c → Runs (serve s (token P s req')) t' (.ok response') →
        Follows Store.Step σ' t' σ'' → Renewed s.fetch (seen t') refreshed' → refreshed'["refresh_token"]? = none →
        updates t' = 0 ∧ σ'' = σ' := by
    intro row' found opens req' t' response' σ'' refreshed' presents run' follows' renewed' absent
    have refreshable : (modifiedToken stored refreshed).contains "refresh_token" = true := by
      obtain ⟨v, present, _⟩ := held'
      rw [Std.ExtTreeMap.contains_eq_isSome_getElem?, present, Option.isSome_some]
    exact renewed'.write_free absent ⟨presents, found, opens, refreshable⟩ held' clean run' follows'
  rcases stores with ⟨same, none, rfl⟩ | ⟨differs, once, nonce, now, rfl⟩
  · have opens := h.opens
    rw [← same] at opens
    exact ⟨row, _, h.found, opens, members, fun _ _ => rfl, fun differs => absurd same differs, fun _ => ⟨none, rfl⟩,
      further h.found opens⟩
  · have found := Store.write_self σ c.clientId
      { row with token := some (P.fernet.encrypt c.clientSecret.key nonce (modifiedToken stored refreshed)), lastUpdatedAt := some now }
    have opens := opens_written (c := c) row nonce (some now) (modifiedToken stored refreshed)
    exact ⟨_, _, found, opens, members, fun id other => Store.write_other _ _ other, fun _ => once,
      fun same => absurd same differs, further found opens⟩

end View

namespace Sample

def renewal : Payload := accessToken.insert "refresh_token" (.str "second")

theorem renewal_renewed :
    Renewed settings.fetch (seen (tokenRun grant fun _ => response 200 renewal).trace) renewal where
  last := ⟨_, .ok, World.eval_last rfl (by decide +kernel), finalObject .ok renewal (by decide), 0, rfl⟩
  accepted := ⟨rfl, rfl⟩
  refreshToken v present := by
    simp only [renewal, Std.ExtTreeMap.getElem?_insert_self, Option.some.injEq] at present
    exact present ▸ rfl

end Sample

theorem refresh_merge_renewal :
    let run := Sample.tokenRun Sample.grant fun _ => Sample.response 200 Sample.renewal
    ∃ row merged, run.world.store Sample.clientId = some row ∧ Opens Sample.credentials row (.object merged) ∧
      merged["refresh_token"]? = some (.str "second") ∧ updates run.trace = 1 := by
  intro run
  obtain ⟨response, answer⟩ := Sample.tokenRun_result Sample.grant fun _ => Sample.response 200 Sample.renewal
  obtain ⟨_, row, merged, found, opens, members, _, once, _, _⟩ := refresh_merge (Sample.refreshable rfl)
    ⟨.str "first", rfl, rfl⟩ (answer ▸ Sample.tokenRun_runs _ _)
    (Sample.tokenRun_follows _ _) Sample.renewal_renewed
  have token : merged["refresh_token"]? = some (.str "second") := by
    rw [members, keptStored, if_pos rfl, Sample.renewal, Std.ExtTreeMap.getElem?_insert_self, Option.some_or]
  refine ⟨row, merged, found, opens, token, once ?_⟩
  rintro rfl
  exact absurd token (show Sample.grant["refresh_token"]? ≠ some (.str "second") from by simp [Sample.grant])

end OAuthClientBridge
