import OAuthClientBridge.Confinement

/-!
Token material in logs and spans: two runs whose tokens are renamed log the same, as long as no
answer of the provider makes `fetch` show its payload as it is.
-/

namespace OAuthClientBridge
open Python Effect Program

/-- Other non-empty texts for the non-empty texts of tokens, one for one. -/
structure Renaming where
  rename : Json → Json
  material : ∀ {v}, Material v → Material (rename v)
  injective : ∀ {v w}, Material v → Material w → rename v = rename w → v = w

instance (v : Json) : Decidable (Material v) := inferInstanceAs (Decidable (_ ∧ _))

namespace Renaming
variable (ρ : Renaming)

def json (v : Json) : Json := if Material v then ρ.rename v else v

theorem pyEq_json (a b : Json) : (ρ.json a).pyEq (ρ.json b) = a.pyEq b := by
  rw [Bool.eq_iff_iff]
  unfold json
  by_cases left : Material a <;> by_cases right : Material b
  · rw [if_pos left, if_pos right, Json.str_pyEq (ρ.material left).1, Json.str_pyEq left.1]
    exact ⟨ρ.injective left right, congrArg ρ.rename⟩
  · rw [if_pos left, if_neg right, Json.str_pyEq (ρ.material left).1, Json.str_pyEq left.1]
    exact iff_of_false (fun same => right (same ▸ ρ.material left)) fun same => right (same ▸ left)
  · rw [if_neg left, if_pos right, Json.pyEq_str (ρ.material right).1, Json.pyEq_str right.1]
    exact iff_of_false (fun same => left (same ▸ ρ.material right)) fun same => left (same ▸ right)
  · rw [if_neg left, if_neg right]

theorem pyEq_member (key : String) (a b : Json) :
    (if key ∈ tokenMembers then ρ.json a else a).pyEq (if key ∈ tokenMembers then ρ.json b else b) = a.pyEq b := by
  split
  · exact ρ.pyEq_json a b
  · rfl

theorem json_cases (v : Json) : ρ.json v = v ∨ Material v ∧ Material (ρ.json v) := by
  unfold json
  split
  · rename_i material
    exact .inr ⟨material, ρ.material material⟩
  · exact .inl rfl

/-- Two runs of the same provider, but for the names of its tokens. A refresh token that goes by another
name can be sent to the provider under both. -/
def veil : Veil where
  Matches key v v' := (v' = if key ∈ tokenMembers then ρ.json v else v) ∧
    (key = "refresh_token" → v' = v ∨ Utf8Text v ∧ Utf8Text v')
  logged := True
  plain plain := by
    rw [if_neg plain]
    exact and_iff_left fun token => absurd (token ▸ by decide) plain
  cases {key v v'} h := by
    obtain ⟨rfl, _⟩ := h
    split
    · exact ρ.json_cases v
    · exact .inl rfl
  null key := by
    refine ⟨?_, fun _ => .inl rfl⟩
    split <;> rfl
  compared {key a a' b b'} _ now later := by
    obtain ⟨rfl, _⟩ := now
    obtain ⟨rfl, _⟩ := later
    exact ρ.pyEq_member key a b
  crossed {key a a' b b'} now later differ := by
    obtain ⟨rfl, _⟩ := now
    obtain ⟨rfl, _⟩ := later
    exact absurd (ρ.pyEq_member key a b) differ
  sent {v v'} h := by
    obtain rfl | ⟨⟨_, _, rfl⟩, ⟨_, _, rfl⟩⟩ := h.2 rfl <;> rfl

end Renaming

/-- What the bridge logs, and what it records in spans and metrics, does not depend on the token material
of the provider's answers, in every history in which no answer makes `fetch` show its payload. -/
theorem tokens_unlogged {τ : Type} (P : Platform τ) (s : Settings) (ρ : Renaming) (arrivals : List Arrival)
    {w w' : World P.fernet} (twins : ρ.veil.Twins w w') (quiet : ∀ n, Quiet s.fetch (w.upstream n)) :
    (serveAll P s arrivals w').2.emitted = (serveAll P s arrivals w).2.emitted := by
  obtain ⟨_, _, _, held⟩ := (Veil.serveAll_matching arrivals (twins.even fun _ => quiet)).2
  exact held.emitted trivial

namespace Sample

def primed : Renaming where
  rename
    | .str text => .str ("x" ++ text)
    | v => v
  material {v} h := by
    cases v with
    | str text => exact ⟨rfl, by simp [Json.truthy]⟩
    | _ => exact h
  injective {v w} h h' same := by
    cases v <;> cases h.1 <;> cases w <;> cases h'.1 <;> simp_all

def granting (type : Payload) (text : String) : Upstream := response 200 (type.insert "access_token" (.str text))

theorem granting_matches {type : Payload} (plain : ∀ key ∈ tokenMembers, type[key]? = none) {text : String} (set : text ≠ "") :
    primed.veil.Upstreams (granting type text) (granting type ("x" ++ text)) :=
  .response (.mk { statusCode := 200, body := .undecodable } (.document (.object
    ((Veil.payloads_of_absent plain).insert (by
      simp [Renaming.veil, Renaming.json, primed, tokenMembers, Material, Json.isStr, Json.truthy, set])))))

theorem renamed {type : Payload} (plain : ∀ key ∈ tokenMembers, type[key]? = none) :
    primed.veil.Twins (emptyWorld fun _ => granting type "first") (emptyWorld fun _ => granting type "xfirst") where
  session := rfl
  monotonic := rfl
  uniform := rfl
  budget := rfl
  keys := rfl
  ids := rfl
  upstream _ := granting_matches plain (by decide)
  utcnow _ := rfl
  emitted _ := rfl
  store _ := .none

def bearer : Payload := .ofList [("token_type", Json.str "Bearer")]

theorem bearer_quiet : Quiet settings.fetch (granting bearer "first") := by
  intro r p status n same body code _ _
  cases same
  cases body
  obtain rfl : status = .ok := HTTPStatus.code_injective (HTTPStatus.ofCode_eq_ok.mp code)
  decide +kernel

def callbackArrival : Arrival := ⟨.callback arguments, fun key => if key = "state" then some "state" else none⟩

def loggedTokens (l : List Emission) : List String :=
  l.filterMap fun e => match e with
    | .log _ _ _ fields => fields.findSome? fun field => match field.2 with
      | .document (.object p) => match p["access_token"]? with
        | some (.str text) => some text
        | _ => none
      | _ => none
    | _ => none

end Sample

theorem tokens_unlogged_bearer :
    (serveAll Sample.platform Sample.settings [Sample.callbackArrival]
        (Sample.emptyWorld fun _ => Sample.granting Sample.bearer "xfirst")).2.emitted =
      (serveAll Sample.platform Sample.settings [Sample.callbackArrival]
        (Sample.emptyWorld fun _ => Sample.granting Sample.bearer "first")).2.emitted :=
  tokens_unlogged Sample.platform Sample.settings Sample.primed [Sample.callbackArrival]
    (Sample.renamed (by simp [tokenMembers, Sample.bearer])) fun _ => Sample.bearer_quiet

/-- A success without a token type is logged as it is, with its access token. -/
theorem tokens_logged : ∃ w w' : World Sample.platform.fernet, Sample.primed.veil.Twins w w' ∧
    (serveAll Sample.platform Sample.settings [Sample.callbackArrival] w').2.emitted ≠
      (serveAll Sample.platform Sample.settings [Sample.callbackArrival] w).2.emitted := by
  refine ⟨_, _, @Sample.renamed ∅ (by simp), fun same => ?_⟩
  have logged := congrArg Sample.loggedTokens same
  revert logged
  decide +kernel

end OAuthClientBridge
