import OAuthClientBridge.Custody

/-!
A revocation is final once no request is under way that has read the token before: whoever asks for the client
from then on, the row stays as it is and the provider is not asked again.
-/

namespace OAuthClientBridge
open Python Effect Program

variable {τ ι : Type} {P : Platform τ} {s : Settings} {requests : ι → Request} {σ₀ : Store τ} {id : ClientId} {row : Row τ}
  {c c' : Pool.Config (bridge P.fernet) Exc Response (Store τ) ι}

/-- The request is answered. -/
def Finished {F : Fernet τ} (c : Pool.Config (bridge F) Exc Response (Store τ) ι) (i : ι) : Prop :=
  ∃ r, (c.thread i).rest = ofExcept r

/-- The grant of the client is revoked, and a request that holds a token of it is answered. -/
structure Revoked {F : Fernet τ} (c : Pool.Config (bridge F) Exc Response (Store τ) ι) (id : ClientId) (row : Row τ) : Prop where
  found : c.world id = some row
  null : row.token = none
  held : ∀ i row', ⟨.select id, some row'⟩ ∈ acts c i → row'.token ≠ none → Finished c i

/-- Since `c` the row was not changed, and whoever looked it up has found it as it is. -/
structure Unchanged {F : Fernet τ} (c c' : Pool.Config (bridge F) Exc Response (Store τ) ι) (id : ClientId) (row : Row τ) :
    Prop where
  stays : c'.world id = some row
  answered : ∀ i, Finished c i → c'.thread i = c.thread i
  looked : ∀ i found, ⟨.select id, found⟩ ∈ acts c' i → found = some row ∨ ⟨.select id, found⟩ ∈ acts c i

theorem not_finished {F : Fernet τ} {c : Pool.Config (bridge F) Exc Response (Store τ) ι} {i : ι} {o : Op τ}
    {next : Answer F o → Action F Response} (ready : (c.thread i).rest = .op o next) : ¬Finished c i := by
  rintro ⟨r, ended⟩
  rw [ready] at ended
  cases r <;> cases ended

/-- A request that changes the row has read a token of it. -/
theorem update_read {i : ι} {token : Option τ} {now : Int}
    (allowed : ServiceOp P s (requests i) (acts c i) (.update id token now)) :
    ∃ row, ⟨.select id, some row⟩ ∈ acts c i ∧ row.token ≠ none := by
  obtain ⟨r, credentials, row, stored, t', refreshed, _, _, _, same, opens, _⟩ := allowed.update
  refine ⟨row, ?_, opens.token⟩
  rw [same]
  exact List.mem_cons_self

/-- Whoever had not looked the client up finds the row without a token. -/
theorem Unchanged.fresh (unchanged : Unchanged c c' id row) {j : ι} (fresh : acts c j = []) {found : Option (Row τ)}
    (met : ⟨.select id, found⟩ ∈ acts c' j) : found = some row := by
  rcases unchanged.looked j found met with same | old
  · exact same
  · rw [fresh] at old
    cases old

variable [DecidableEq ι]

theorem Revoked.unchanged (h : Pool.Reachable Store.Step (service P s σ₀ requests) c) (revoked : Revoked c id row)
    (later : Pool.Reachable Store.Step c c') : Unchanged c c' id row := by
  induction later with
  | refl => exact ⟨revoked.found, fun _ _ => rfl, fun _ _ met => .inr met⟩
  | @tail m m' before step ih =>
    obtain ⟨i, ready, now⟩ := step
    rename_i o next answer σ
    have busy : ¬Finished c i := by
      intro answered
      have unchanged := ih.answered i answered
      obtain ⟨r, ended⟩ := answered
      exact not_finished ready ⟨r, unchanged ▸ ended⟩
    constructor
    · -- Only an update could change the row, by a request that has read a token of it.
      rcases Store.step_cases now with ⟨rfl, _⟩ | ⟨own, token, time, _, missing, rfl⟩ |
        ⟨own, row', token, time, n, same, found, rfl⟩
      · exact ih.stays
      · have other : id ≠ own := by
          rintro rfl
          cases missing.symm.trans ih.stays
        exact (Store.write_other _ _ other).trans ih.stays
      · by_cases other : id = own
        swap
        · exact (Store.write_other _ _ other).trans ih.stays
        subst other
        cases same
        obtain ⟨row', met, live⟩ := update_read (acts_next (h.trans before) ready rfl)
        rcases ih.looked i _ met with same | old
        · cases same
          exact absurd revoked.null live
        · exact absurd (revoked.held i row' old live) busy
    · intro j answered
      have other : j ≠ i := by
        rintro rfl
        exact busy answered
      rw [← ih.answered j answered]
      exact Function.update_of_ne other _ _
    · intro j found met
      rcases acts_advance met with old | ⟨rfl, same⟩
      · exact ih.looked j found old
      · cases same
        exact .inl (now.1.trans ih.stays)

/-- A revocation is final: once the requests that have read a token are answered, the row is not written any more,
and whoever presents the client id is told of the revocation, at no request to the provider. -/
theorem revocation_final (h : Pool.Reachable Store.Step (service P s σ₀ requests) c) (revoked : Revoked c id row)
    (later : Pool.Reachable Store.Step c c') :
    c'.world id = some row ∧ ∀ j r credentials, requests j = .token r → Presents P r credentials →
      credentials.clientId = id → acts c j = [] →
        (∀ e ∈ (c'.thread j).done, ∀ uri data timeout, e.op ≠ .send uri data timeout) ∧
        ∀ answer, (c'.thread j).rest = .pure answer → answer = revokedResponse P s r.userAgent := by
  have unchanged := revoked.unchanged h later
  have whole := h.trans later
  refine ⟨unchanged.stays, fun j r credentials asks presents own unread => ?_⟩
  subst own
  have shut : ∀ {row' d}, ⟨.select credentials.clientId, some row'⟩ ∈ acts c' j → ¬Opens credentials row' d := by
    intro row' d met opens
    cases unchanged.fresh unread met
    exact opens.token revoked.null
  have ungranted : ∀ {credentials' stored t}, t <+: acts c' j → ¬Granted P s r credentials' stored t := by
    intro credentials' stored t before granted
    obtain ⟨row', tf, presents', opens, _, _, rfl⟩ := granted
    obtain rfl := presents.unique presents'
    exact shut (before.subset List.mem_cons_self) opens
  constructor
  · intro e done uri data timeout sends
    have met : e ∈ acts c' j := List.mem_filter.mpr ⟨done, by rw [sends]; rfl⟩
    obtain ⟨t, t', split⟩ := List.append_of_mem met
    have allowed := acts_past whole j t e t' split
    rw [asks, sends] at allowed
    cases allowed with
    | send w granted => exact ungranted ⟨e :: t', split.symm⟩ granted
  · intro answer answered
    have run : Runs (respond P s (requests j)) (c'.thread j).done (.ok answer) := Pool.runs whole answered
    rw [asks] at run
    obtain ⟨r₀, ended, same⟩ := (serve_ensures s (token_ensures P s r)).runs run
    have ended : TokenRun P s r (acts c' j) r₀ := ended
    rw [← served_revokedAnswer, Except.ok.inj same]
    generalize trace : acts c' j = t at ended
    have first {found : Option (Row τ)} (selects : t = [⟨.select credentials.clientId, found⟩]) :
        ⟨.select credentials.clientId, found⟩ ∈ acts c' j := by
      rw [trace, selects]
      exact List.mem_cons_self
    cases ended with
    | unauthenticated absent => exact absurd presents (absent credentials)
    | missing presents' =>
      obtain rfl := presents.unique presents'
      cases unchanged.fresh unread (first rfl)
    | revoked presents' null => rfl
    | wrongSecret presents' live =>
      obtain rfl := presents.unique presents'
      cases unchanged.fresh unread (first rfl)
      simp [Row.record, revoked.null] at live
    | stored presents' opens | malformed presents' opens =>
      obtain rfl := presents.unique presents'
      exact absurd opens (shut (first rfl))
    | raised granted => exact absurd granted (ungranted (trace ▸ List.prefix_refl _))
    | refreshed granted => exact absurd granted (ungranted (trace ▸ List.prefix_append _ _))

namespace Sample

def onRevoked : Pool.Config (bridge platform.fernet) Exc Response (Store Sealed) Unit :=
  service platform settings revokedStore fun _ => .token request

theorem onRevoked_revoked : Revoked onRevoked clientId ⟨none, some 0, some 0⟩ where
  found := rfl
  null := rfl
  held i row' met := by cases met

def toldRevoked : Pool.Config (bridge platform.fernet) Exc Response (Store Sealed) Unit :=
  onRevoked.advance () (storeRun revokedStore).world.store (storeRun revokedStore).trace
    (Program.ofExcept (storeRun revokedStore).result)

theorem toldRevoked_later : Pool.Reachable Store.Step onRevoked toldRevoked :=
  Pool.reachable_run (c := onRevoked) (i := ()) (storeRun_runs revokedStore) (storeRun_follows revokedStore)

theorem toldRevoked_answered : ∃ answer, (toldRevoked.thread ()).rest = .pure answer := by
  have run : Runs (respond platform settings (.token request)) _ _ := storeRun_runs revokedStore
  obtain ⟨answer, ended⟩ := respond_answers _ _ run
  exact ⟨answer, by simp [toldRevoked, Pool.Config.advance, ended]⟩

end Sample

theorem revocation_final_told :
    ∃ answer, (Sample.toldRevoked.thread ()).rest = .pure answer ∧
      answer = revokedResponse Sample.platform Sample.settings Sample.request.userAgent := by
  obtain ⟨answer, answered⟩ := Sample.toldRevoked_answered
  exact ⟨answer, answered, ((revocation_final .refl Sample.onRevoked_revoked Sample.toldRevoked_later).2 () _ _ rfl
    Sample.presents rfl rfl).2 answer answered⟩

end OAuthClientBridge
