import OAuthClientBridge.Robustness

/-! What the answers of `/token` give away about the rows of other clients. -/

namespace OAuthClientBridge
open Python Effect Program

variable {τ : Type} {P : Platform τ} {s : Settings} {req : TokenRequest} {c : ClientCredentials P.fernet}
  {σ σ' : Store τ} {t : Trace (bridge P.fernet)} {r : Except Exc Response}

/-- The table holds a live row of the client, under another key than the one presented. -/
def ForeignRow (σ : Store τ) {F : Fernet τ} (c : ClientCredentials F) : Prop :=
  ∃ row key nonce payload, σ c.clientId = some row ∧ row.token = some (F.encrypt key nonce payload) ∧
    key ≠ c.clientSecret.key

/-- The grant of the client was revoked. -/
def RevokedRow (σ : Store τ) {F : Fernet τ} (c : ClientCredentials F) : Prop :=
  ∃ row, σ c.clientId = some row ∧ row.token = none

theorem loads_foreign {F : Fernet τ} {key : F.Key} {nonce : Nonce} {payload : Payload} {secret : ClientSecret F}
    (other : key ≠ secret.key) : loads secret (F.encrypt key nonce payload) = none := by
  rw [loads_eq]
  cases opened : F.decrypt secret.key (F.encrypt key nonce payload) with
  | none => rfl
  | some d => exact absurd (F.authentic opened).symm other

theorem TokenRun.unauthenticated_answer (run : TokenRun P s req t r) (absent : ∀ c, ¬Presents P req c) :
    r = .error (credentialError P req) := by
  cases run with
  | unauthenticated _ => rfl
  | missing presents | revoked presents _ | wrongSecret presents _ _ | stored presents _ _ | malformed presents _ =>
    exact absurd presents (absent _)
  | raised granted _ | refreshed granted _ _ =>
    obtain ⟨_, _, presents, _⟩ := granted
    exact absurd presents (absent _)

theorem TokenRun.closed_answer (run : TokenRun P s req t r) (presents : Presents P req c)
    (follows : Follows Store.Step σ t σ')
    (shut : ∀ row, σ c.clientId = some row → ∀ stored, ¬Opens c row stored) :
    r = match (σ c.clientId).map fun row => (row.record P.fernet c.clientId).encryptedToken with
      | some none => revokedAnswer P s req.userAgent
      | _ => .error notKnown := by
  cases run with
  | unauthenticated absent => exact absurd presents (absent c)
  | missing presents' =>
    obtain ⟨rfl, found, _⟩ := presents.selected presents' follows
    simp [← found]
  | revoked presents' null =>
    obtain ⟨rfl, found, _⟩ := presents.selected presents' follows
    simp [← found, null]
  | wrongSecret presents' live _ =>
    obtain ⟨rfl, found, _⟩ := presents.selected presents' follows
    simp [← found, live]
  | stored presents' opens _ | malformed presents' opens =>
    obtain ⟨rfl, found, _⟩ := presents.selected presents' follows
    exact absurd opens (shut _ found.symm _)
  | raised granted _ | refreshed granted _ _ =>
    obtain ⟨row, tf, presents', opens, _, _, rfl⟩ := granted
    obtain ⟨rfl, found, _⟩ := presents.selected presents' follows
    exact absurd opens (shut _ found.symm _)

theorem TokenRun.missing_answer (run : TokenRun P s req t r) (presents : Presents P req c)
    (follows : Follows Store.Step σ t σ') (missing : σ c.clientId = none) : r = .error notKnown := by
  simpa [missing] using run.closed_answer presents follows (by simp [missing])

theorem TokenRun.foreign_answer (run : TokenRun P s req t r) (presents : Presents P req c)
    (follows : Follows Store.Step σ t σ') (foreign : ForeignRow σ c) : r = .error notKnown := by
  obtain ⟨row, key, nonce, payload, found, live, other⟩ := foreign
  have encrypted : (row.record P.fernet c.clientId).encryptedToken = some (P.fernet.encrypt key nonce payload) := by
    simp [Row.record, live, P.fernet.encrypt_nonempty]
  have answer := run.closed_answer presents follows ?_
  · simpa [found, encrypted] using answer
  · rintro row' found' stored ⟨token, live', opened⟩
    obtain rfl := Option.some.inj (found.symm.trans found')
    obtain rfl := Option.some.inj (encrypted.symm.trans live')
    cases (loads_foreign other).symm.trans opened

theorem TokenRun.revoked_answer (run : TokenRun P s req t r) (presents : Presents P req c)
    (follows : Follows Store.Step σ t σ') (revoked : RevokedRow σ c) : r = revokedAnswer P s req.userAgent := by
  obtain ⟨row, found, null⟩ := revoked
  have answer := run.closed_answer presents follows ?_
  · simpa [found, Row.record, null] using answer
  · intro row' found' stored opens
    obtain rfl := Option.some.inj (found.symm.trans found')
    exact opens.token null

/-- The complete answer to a request that finds no grant, and to one that finds a revoked one. -/
def notKnownResponse (s : Settings) : Response :=
  nocache ((jsonify 401 (.object (errorObject .invalidClient clientNotKnown))).withHeader "WWW-Authenticate"
    ("Basic realm=\"" ++ s.authRealm ++ "\""))

def revokedResponse (P : Platform τ) (s : Settings) (userAgent : String) : Response :=
  nocache (match revokedGrantWorkaround P s userAgent with
    | some payload => jsonify 200 (.object payload)
    | none => jsonify 400 (.object (errorObject .invalidGrant "Grant has been revoked.")))

theorem served_notKnown (s : Settings) : served s (.error notKnown) = notKnownResponse s := rfl

theorem served_revokedAnswer (userAgent : String) :
    served s (revokedAnswer P s userAgent) = revokedResponse P s userAgent := by
  unfold revokedAnswer revokedResponse
  cases revokedGrantWorkaround P s userAgent <;> rfl

/-- A request whose secret does not open the grant is answered the same whether the table has no row
of the client or a live one. Only a revoked grant is told apart, by an answer that depends on the
settings and the user agent alone, and only by a request with well-formed credentials. -/
theorem token_discloses_revocation_only {σ₁ σ₂ σ₃ σ₁' σ₂' σ₃' : Store τ} {t₁ t₂ t₃ : Trace (bridge P.fernet)}
    {r₁ r₂ r₃ : Except Exc Response} (missing : ∀ c, Presents P req c → σ₁ c.clientId = none)
    (foreign : ∀ c, Presents P req c → ForeignRow σ₂ c) (revoked : ∀ c, Presents P req c → RevokedRow σ₃ c)
    (run₁ : Runs (serve s (token P s req)) t₁ r₁) (follows₁ : Follows Store.Step σ₁ t₁ σ₁')
    (run₂ : Runs (serve s (token P s req)) t₂ r₂) (follows₂ : Follows Store.Step σ₂ t₂ σ₂')
    (run₃ : Runs (serve s (token P s req)) t₃ r₃) (follows₃ : Follows Store.Step σ₃ t₃ σ₃') :
    r₂ = r₁ ∧ ((∀ c, ¬Presents P req c) → r₃ = r₁) ∧
      ∀ c, Presents P req c → r₁ = .ok (notKnownResponse s) ∧ r₃ = .ok (revokedResponse P s req.userAgent) := by
  obtain ⟨_, ended₁, rfl⟩ := (serve_ensures s (token_ensures P s req)).runs run₁
  obtain ⟨_, ended₂, rfl⟩ := (serve_ensures s (token_ensures P s req)).runs run₂
  obtain ⟨_, ended₃, rfl⟩ := (serve_ensures s (token_ensures P s req)).runs run₃
  have follows₁ := Store.follows_visible follows₁
  have follows₂ := Store.follows_visible follows₂
  have follows₃ := Store.follows_visible follows₃
  by_cases authenticated : ∃ c, Presents P req c
  · obtain ⟨c, presents⟩ := authenticated
    rw [ended₁.missing_answer presents follows₁ (missing c presents),
      ended₂.foreign_answer presents follows₂ (foreign c presents),
      ended₃.revoked_answer presents follows₃ (revoked c presents), served_notKnown, served_revokedAnswer]
    exact ⟨rfl, fun absent => absurd presents (absent c), fun _ _ => ⟨rfl, rfl⟩⟩
  · have absent : ∀ c, ¬Presents P req c := fun c presents => authenticated ⟨c, presents⟩
    rw [ended₁.unauthenticated_answer absent, ended₂.unauthenticated_answer absent,
      ended₃.unauthenticated_answer absent]
    exact ⟨rfl, fun _ => rfl, fun c presents => absurd presents (absent c)⟩

namespace Sample

def storeRun (σ : Store Sealed) : Outcome (bridge platform.fernet) Exc Response (World platform.fernet) :=
  (serve settings (token platform settings request)).eval World.answer
    { world grant (fun _ => response 500 ∅) with store := σ }

theorem storeRun_runs (σ : Store Sealed) :
    Runs (serve settings (token platform settings request)) (storeRun σ).trace (storeRun σ).result :=
  eval_runs _ _ _

theorem storeRun_follows (σ : Store Sealed) : Follows Store.Step σ (storeRun σ).trace (storeRun σ).world.store :=
  World.eval_follows_store _ { world grant (fun _ => response 500 ∅) with store := σ }

def revokedStore : Store Sealed := fun id => if id = clientId then some ⟨none, some 0, some 0⟩ else none

def foreignStore : Store Sealed :=
  fun id => if id = clientId then some ⟨some ⟨"", ⟨0, 0⟩, grant⟩, some 0, some 0⟩ else none

theorem revokedStore_row : RevokedRow revokedStore credentials := ⟨_, rfl, rfl⟩

theorem foreignStore_row : ForeignRow foreignStore credentials :=
  ⟨_, "", ⟨0, 0⟩, grant, rfl, rfl, show ("" : String) ≠ secret.text by decide +kernel⟩

end Sample

theorem token_discloses_revocation_only_sample :
    (Sample.storeRun Sample.foreignStore).result = (Sample.storeRun fun _ => none).result ∧
      ((∀ c, ¬Presents Sample.platform Sample.request c) →
        (Sample.storeRun Sample.revokedStore).result = (Sample.storeRun fun _ => none).result) ∧
      ∀ c, Presents Sample.platform Sample.request c →
        (Sample.storeRun fun _ => none).result = .ok (notKnownResponse Sample.settings) ∧
        (Sample.storeRun Sample.revokedStore).result =
          .ok (revokedResponse Sample.platform Sample.settings Sample.request.userAgent) := by
  have only : ∀ c, Presents Sample.platform Sample.request c → c = Sample.credentials :=
    fun c presents => Sample.presents.unique presents
  exact token_discloses_revocation_only (fun _ _ => rfl) (fun c presents => only c presents ▸ Sample.foreignStore_row)
    (fun c presents => only c presents ▸ Sample.revokedStore_row) (Sample.storeRun_runs _)
    (Sample.storeRun_follows _) (Sample.storeRun_runs _) (Sample.storeRun_follows _) (Sample.storeRun_runs _)
    (Sample.storeRun_follows _)

/-- A revoked grant shows: the same request gets another answer than for a client without a row. -/
theorem token_discloses_revoked :
    RevokedRow Sample.revokedStore Sample.credentials ∧
      Presents Sample.platform Sample.request Sample.credentials ∧
      Follows Store.Step (fun _ => none) (Sample.storeRun fun _ => none).trace
        (Sample.storeRun fun _ => none).world.store ∧
      Follows Store.Step Sample.revokedStore (Sample.storeRun Sample.revokedStore).trace
        (Sample.storeRun Sample.revokedStore).world.store ∧
      ∃ r₁ r₃, Runs (serve Sample.settings (token Sample.platform Sample.settings Sample.request))
          (Sample.storeRun fun _ => none).trace (.ok r₁) ∧
        Runs (serve Sample.settings (token Sample.platform Sample.settings Sample.request))
          (Sample.storeRun Sample.revokedStore).trace (.ok r₃) ∧ r₁.status = 401 ∧ r₃.status = 400 := by
  have statuses : (Sample.storeRun fun _ => none).result.toOption.map Response.status = some 401 ∧
      (Sample.storeRun Sample.revokedStore).result.toOption.map Response.status = some 400 := by
    decide +kernel
  have answered : ∀ {σ : Store Sealed} {n : Nat},
      (Sample.storeRun σ).result.toOption.map Response.status = some n →
      ∃ r, Runs (serve Sample.settings (token Sample.platform Sample.settings Sample.request))
        (Sample.storeRun σ).trace (.ok r) ∧ r.status = n := by
    intro σ n status
    have run := Sample.storeRun_runs σ
    cases answer : (Sample.storeRun σ).result with
    | error e => simp [answer, Except.toOption] at status
    | ok r => exact ⟨r, answer ▸ run, by simpa [answer, Except.toOption] using status⟩
  obtain ⟨r₁, run₁, unknown⟩ := answered statuses.1
  obtain ⟨r₃, run₃, revoked⟩ := answered statuses.2
  exact ⟨Sample.revokedStore_row, Sample.presents, Sample.storeRun_follows _, Sample.storeRun_follows _, r₁, r₃,
    run₁, run₃, unknown, revoked⟩

end OAuthClientBridge
