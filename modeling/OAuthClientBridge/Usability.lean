import OAuthClientBridge.Custody

/-!
Whether a stored grant can still be served. Both writers take a new refresh token on mere presence
of the member, so a usable table depends on what the provider puts there.
-/

namespace OAuthClientBridge
open Python Effect Program

/-- The member is a refresh token that can be presented. -/
def HoldsRefresh (p : Payload) : Prop := ∃ token, token ≠ "" ∧ p["refresh_token"]? = some (.str token)

/-- A token can still be served from the record. -/
def Usable (p : Payload) : Prop := HoldsRefresh p ∨ p["refresh_token"]? = none ∧ validateToken p = true

def presentable : Option Json → Bool
  | some (.str token) => token ≠ ""
  | _ => false

theorem holdsRefresh_iff (p : Payload) : HoldsRefresh p ↔ presentable p["refresh_token"]? = true := by
  unfold HoldsRefresh presentable
  split
  · rename_i token present
    simp [present]
  · rename_i absent
    exact iff_of_false (fun ⟨token, _, present⟩ => absent token present) (by simp)

instance : DecidablePred HoldsRefresh := fun p => decidable_of_iff _ (holdsRefresh_iff p).symm

instance : DecidablePred Usable := fun p =>
  decidable_of_iff (HoldsRefresh p ∨ p["refresh_token"]?.isNone = true ∧ validateToken p = true)
    (by simp [Usable, Option.isNone_iff_eq_none])

/-- If the views take the answer for a token, its `refresh_token` is absent or a non-empty string. -/
def RefreshSound (s : FetchSettings) (a : Upstream) : Prop :=
  a.retried s = false → ∀ b, a.document s = .object b → b["error"]? = none → validateToken b = true →
    b["refresh_token"]? = none ∨ HoldsRefresh b

section Payloads
variable {τ : Type} {P : Platform τ} {s : Settings} {l : List Seen} {p stored : Payload}

theorem scrubRefreshToken_refresh (p : Payload) : (scrubRefreshToken p)["refresh_token"]? = p["refresh_token"]? := by
  unfold scrubRefreshToken
  rw [Std.ExtTreeMap.getElem?_filter']
  cases p["refresh_token"]? <;> simp

theorem contains_refresh {p : Payload} : p.contains "refresh_token" = p["refresh_token"]?.isSome :=
  Std.ExtTreeMap.contains_eq_isSome_getElem?

theorem exchangeError_accepted (exchanged : exchangeError s p = .ok none) : Accepted p := by
  have absent := exchangeError_none exchanged
  refine ⟨by simp [Std.ExtTreeMap.contains_eq_isSome_getElem?, absent], ?_⟩
  rw [exchangeError_of_noError absent] at exchanged
  split at exchanged
  · assumption
  · cases exchanged

theorem Returned.accepted (h : Returned P s.fetch l p) (accepted : Accepted p) :
    ∃ a ∈ answers l, a.retried s.fetch = false ∧ a.document s.fetch = .object p := by
  have last := h.last.2
  cases ha : (answers l).getLast? with
  | none =>
    rw [ha] at last
    subst last
    cases accepted.1
  | some a =>
    rw [ha] at last
    obtain ⟨_, b, n, object, _, rfl⟩ := last
    have noError : (a.outcome s.fetch b)["error"]? = none :=
      (withRetryAfter_getElem? n _ (by decide)).symm.trans accepted.noError
    have final : a.retried s.fetch = false := by
      by_contra retried
      rw [Upstream.outcome, if_pos (by simpa using retried)] at noError
      cases noError
    have untouched : withRetryAfter n (a.outcome s.fetch b) = b := by
      have contains : b.contains "error" = false := by
        rw [Upstream.outcome, if_neg (by simp [final])] at noError
        simp [Std.ExtTreeMap.contains_eq_isSome_getElem?, noError]
      simp [withRetryAfter, Upstream.outcome, final, contains]
    exact ⟨a, List.mem_of_getLast? ha, final, by rw [untouched, object]⟩

theorem Returned.refreshSound (h : Returned P s.fetch l p) (accepted : Accepted p)
    (sound : ∀ a ∈ answers l, RefreshSound s.fetch a) : p["refresh_token"]? = none ∨ HoldsRefresh p := by
  obtain ⟨a, met, final, object⟩ := h.accepted accepted
  exact sound a met final p object accepted.noError accepted.2

theorem grantPayload_usable (valid : validateToken p = true) (sound : p["refresh_token"]? = none ∨ HoldsRefresh p) :
    Usable (grantPayload p) := by
  unfold grantPayload
  rw [contains_refresh]
  rcases sound with absent | ⟨token, nonempty, held⟩
  · simp [absent, Usable, valid]
  · refine .inl ⟨token, nonempty, ?_⟩
    simpa [held] using (scrubRefreshToken_refresh p).trans held

theorem modifiedToken_holds (usable : Usable stored) (refreshable : stored.contains "refresh_token" = true)
    (sound : p["refresh_token"]? = none ∨ HoldsRefresh p) : HoldsRefresh (modifiedToken stored p) := by
  have holds : HoldsRefresh stored := by
    rcases usable with holds | ⟨absent, _⟩
    · exact holds
    · simp [contains_refresh, absent] at refreshable
  unfold modifiedToken
  rw [contains_refresh]
  rcases sound with absent | ⟨token, nonempty, held⟩
  · obtain ⟨token, nonempty, held⟩ := holds
    refine ⟨token, nonempty, ?_⟩
    simpa [absent] using (scrubRefreshToken_refresh stored).trans held
  · exact ⟨token, nonempty, by simp [held, Payload.getOrNull]⟩

end Payloads

section Runs
variable {τ ι : Type} {P : Platform τ} {s : Settings}

def AnswersSoundly {F : Fernet τ} (s : FetchSettings) : Event (bridge F) → Prop
  | ⟨.send _ _ _, a⟩ => RefreshSound s a
  | _ => True

/-- A step under which the provider, if it answers, answers soundly. -/
def SoundStep {F : Fernet τ} (s : FetchSettings) : Environment (bridge F) (Store τ) :=
  fun σ e σ' => Store.Step σ e σ' ∧ AnswersSoundly s e

variable [DecidableEq ι] {requests : ι → Request} {c : Pool.Config (bridge P.fernet) Exc Response (Store τ) ι}

theorem custody_usable (h : Pool.Reachable (SoundStep s.fetch) (service P s (fun _ => none) requests) c) :
    Custody Usable c.world (acts c) ∧ ∀ i, ∀ a ∈ answers (seen (acts c i)), RefreshSound s.fetch a := by
  refine @custody_reachable _ _ P s _ _ _ _ id (RefreshSound s.fetch) _ _ _ (fun _ _ _ now => now.1)
    (fun _ _ _ _ _ _ now => now.2) (fun l p sound returned exchanged => ?_)
    (fun l stored p sound returned accepted usable refreshable => ?_) rfl h
  · have accepted := exchangeError_accepted exchanged
    exact grantPayload_usable accepted.2 (returned.refreshSound accepted sound)
  · exact .inl (modifiedToken_holds usable refreshable (returned.refreshSound accepted sound))

theorem refresh_kept (h : Pool.Reachable (SoundStep s.fetch) (service P s (fun _ => none) requests) c) {i : ι}
    {o : Op τ} {answer : Answer P.fernet o} {next : Answer P.fernet o → Action P.fernet Response} {σ' : Store τ}
    (ready : (c.thread i).rest = .op o next) (now : Store.Step c.world ⟨o, answer⟩ σ') {id : ClientId}
    {row row' : Row τ} {token token' : τ} {secret : ClientSecret P.fernet} {payload : Payload}
    (found : c.world id = some row) (live : row.token = some token)
    (opened : loads secret token = some (.object payload)) (holds : HoldsRefresh payload)
    (found' : σ' id = some row') (live' : row'.token = some token') :
    ∃ payload', loads secret token' = some (.object payload') ∧ HoldsRefresh payload' := by
  have same : σ' id = c.world id → ∃ payload', loads secret token' = some (.object payload') ∧ HoldsRefresh payload' := by
    intro unchanged
    obtain rfl := Option.some.inj (found.symm.trans (unchanged.symm.trans found'))
    obtain rfl := Option.some.inj (live.symm.trans live')
    exact ⟨payload, opened, holds⟩
  obtain ⟨rfl, _⟩ | ⟨other, sealed, time, _, missing, rfl⟩ | ⟨other, row₀, written, time, n, op, _, rfl⟩ :=
    Store.step_cases now
  · exact same rfl
  · exact same (Store.write_other _ _ fun own => by cases (own ▸ missing).symm.trans found)
  · by_cases own : id = other
    swap
    · exact same (Store.write_other _ _ own)
    subst own
    cases op
    obtain rfl := Option.some.inj ((Store.write_self _ _ _).symm.trans found')
    -- An update under this id is that of a `/token` request which read a row of the same client.
    obtain ⟨held, sound⟩ := custody_usable h
    obtain ⟨r, credentials, read, stored, t', refreshed, _, _, rfl, trace, opens, refreshable, returned,
      rfl | ⟨accepted, nonce, rfl⟩⟩ := (acts_next h ready rfl).update
    · cases live'
    obtain ⟨j, issuer, issued, key, usable⟩ := (held.read i _ read (by simp [trace])).opened opens
    obtain ⟨k, issuer', issued', sealed⟩ := held.stored _ row found
    obtain rfl := held.single j k _ _ _ issued issued'
    obtain ⟨nonce', payload', rfl, _⟩ := sealed token live
    rw [loads_eq] at opened
    obtain rfl := Option.some.inj live'
    refine ⟨modifiedToken stored refreshed, ?_, modifiedToken_holds usable refreshable
      (returned.refreshSound accepted (sound i))⟩
    rw [loads_eq, P.fernet.authentic opened, key, P.fernet.decrypt_encrypt]

/-- In every run in which the provider answers soundly, whatever the interleaving: each live record
opens, under the issued secret, to a usable payload, and no step loses a refresh token that can be
presented, short of revoking the grant. -/
theorem grants_usable (h : Pool.Reachable (SoundStep s.fetch) (service P s (fun _ => none) requests) c) :
    (∀ id row token, c.world id = some row → row.token = some token →
        ∃ i secret payload, Issues (acts c i) id secret ∧ loads secret token = some (.object payload) ∧
          Usable payload) ∧
      ∀ i o answer next σ', (c.thread i).rest = .op o next → Store.Step c.world ⟨o, answer⟩ σ' →
        ∀ id row token row' token' (secret : ClientSecret P.fernet) payload, c.world id = some row → row.token = some token →
        loads secret token = some (.object payload) → HoldsRefresh payload →
        σ' id = some row' → row'.token = some token' →
        ∃ payload', loads secret token' = some (.object payload') ∧ HoldsRefresh payload' := by
  refine ⟨fun id row token found live => ?_, fun i o answer next σ' ready now id row token row' token' secret payload
    found live opened holds found' live' => refresh_kept h ready now found live opened holds found' live'⟩
  obtain ⟨i, secret, issued, sealed⟩ := (custody_usable h).1.stored id row found
  obtain ⟨nonce, payload, rfl, usable⟩ := sealed token live
  exact ⟨i, secret, payload, issued, by rw [loads_eq, P.fernet.decrypt_encrypt], usable⟩

end Runs

namespace Sample

def withRefresh (token : Json) : Payload := accessToken.insert "refresh_token" token

theorem withRefresh_sound (statusCode : Nat) {token : String} (nonempty : token ≠ "") :
    RefreshSound settings.fetch (response statusCode (withRefresh (.str token))) := by
  intro _ b object _ _
  obtain rfl := Document.object.inj object
  exact .inr ⟨token, nonempty, by simp [withRefresh]⟩

theorem granted_soundly {a : Upstream} (sound : RefreshSound settings.fetch a) :
    Pool.Reachable (SoundStep settings.fetch) (service platform settings (fun _ => none) requests) (granted a) := by
  refine Pool.reachable_run (callbackRun_runs _) ((callbackRun_follows _).restrict fun e met => ?_)
  obtain ⟨o, answer⟩ := e
  cases o with
  | send uri data timeout =>
    have seen_answer : answer ∈ answers (seen (callbackRun fun _ => a).trace) :=
      List.mem_filterMap.mpr ⟨.answer answer, List.mem_filterMap.mpr ⟨_, met, rfl⟩, rfl⟩
    rw [World.eval_answers _ _ rfl answer seen_answer]
    exact sound
  | _ => trivial

def refreshed (a a' : Upstream) : Pool.Config (bridge platform.fernet) Exc Response (Store Sealed) Bool :=
  let run := (respond platform settings (.token request)).eval World.answer
    { emptyWorld (fun _ => a') with store := (granted a).world }
  (granted a).advance true run.world.store run.trace (Program.ofExcept run.result)

theorem refreshed_reachable (a a' : Upstream) :
    Pool.Reachable Store.Step (service platform settings (fun _ => none) requests) (refreshed a a') := by
  have asked := Program.eval_runs World.answer (respond platform settings (.token request))
    { emptyWorld (fun _ => a') with store := (granted a).world }
  have stored := World.eval_follows_store (respond platform settings (.token request))
    { emptyWorld (fun _ => a') with store := (granted a).world }
  have served := Pool.reachable_run (c := granted a) (i := true) asked stored
  unfold refreshed
  dsimp only at served ⊢
  exact (granted_reachable a).trans served

end Sample

/-- A callback whose answer holds a refresh token stores a usable record. -/
theorem grants_usable_granted :
    ∃ row token i secret payload,
      (Sample.granted (Sample.response 200 (Sample.withRefresh (.str "first")))).world Sample.clientId = some row ∧
      row.token = some token ∧
      Issues (acts (Sample.granted (Sample.response 200 (Sample.withRefresh (.str "first")))) i) Sample.clientId secret ∧
      loads secret token = some (.object payload) ∧ Usable payload := by
  have live : ((Sample.granted (Sample.response 200 (Sample.withRefresh (.str "first")))).world Sample.clientId).any
      (fun row => row.token.isSome) = true := by decide +kernel
  obtain ⟨row, found, live⟩ := (Option.any_eq_true _ _).mp live
  obtain ⟨token, live⟩ := Option.isSome_iff_exists.mp live
  obtain ⟨i, secret, payload, grant⟩ :=
    (grants_usable (Sample.granted_soundly (Sample.withRefresh_sound 200 (by decide)))).1 _ row token found live
  exact ⟨row, token, i, secret, payload, found, live, grant⟩

/-- A refresh replaces a refresh token by `null`, and nothing can be served from the record any more. -/
theorem grants_unusable :
    let a := Sample.response 200 (Sample.withRefresh (.str "first"))
    let a' := Sample.response 200 (Sample.withRefresh .null)
    Pool.Reachable Store.Step (service Sample.platform Sample.settings (fun _ => none) Sample.requests)
        (Sample.refreshed a a') ∧
      (∃ row token payload, (Sample.granted a).world Sample.clientId = some row ∧ row.token = some token ∧
        loads Sample.secret token = some (.object payload) ∧ HoldsRefresh payload) ∧
      ∃ row token payload, (Sample.refreshed a a').world Sample.clientId = some row ∧ row.token = some token ∧
        loads Sample.secret token = some (.object payload) ∧ ¬Usable payload := by
  intro a a'
  have opens : ∀ {σ : Store Sealed} {U : Payload → Prop} [DecidablePred U], (σ Sample.clientId).any (fun row =>
      row.token.any fun token => token.key = Sample.secret.text && decide (U token.payload)) = true →
      ∃ row token payload, σ Sample.clientId = some row ∧ row.token = some token ∧
        loads Sample.secret token = some (.object payload) ∧ U payload := by
    intro σ U _ held
    obtain ⟨row, found, held⟩ := (Option.any_eq_true _ _).mp held
    obtain ⟨token, live, held⟩ := (Option.any_eq_true _ _).mp held
    obtain ⟨key, good⟩ := Bool.and_eq_true_iff.mp held
    refine ⟨row, token, token.payload, found, live, ?_, of_decide_eq_true good⟩
    rw [loads_eq]
    exact if_pos (of_decide_eq_true key).symm
  exact ⟨Sample.refreshed_reachable a a', opens (by decide +kernel), opens (by decide +kernel)⟩

end OAuthClientBridge
