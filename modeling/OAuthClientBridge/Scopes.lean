import OAuthClientBridge.Authorizations
import OAuthClientBridge.Utils.UriLaws

/-!
The scopes that reach the provider. `/` checks the words of the requested scope and forwards its
text, which the provider splits again, at spaces only.
-/

namespace OAuthClientBridge
open Python Effect Program

/-! ### Words and pieces -/

/-- The tokens of a scope as the provider reads it. -/
def pieces (scope : List Char) : List (List Char) := (splitOn ' ' scope).filter (· ≠ [])

section
variable {α : Type} {p q : α → Bool} {a : α} {s piece head : List α} {tail : List (List α)}

theorem splitOnP_refine (finer : ∀ a, p a = true → q a = true) (s : List α) :
    ∃ head tail head' tail', s.splitOnP p = head :: tail ∧ s.splitOnP q = head' :: tail' ∧
      ((∀ a ∈ head, q a = false) → head' = head) ∧
      ∀ piece ∈ tail, (∀ a ∈ piece, q a = false) → piece ∈ tail' := by
  induction s with
  | nil => exact ⟨[], [], [], [], List.splitOnP_nil, List.splitOnP_nil, fun _ => rfl, nofun⟩
  | cons a s ih =>
    obtain ⟨head, tail, head', tail', coarse, fine, first, rest⟩ := ih
    rw [List.splitOnP_cons_eq_if_modifyHead, List.splitOnP_cons_eq_if_modifyHead, coarse, fine]
    cases hp : p a with
    | true =>
      rw [if_pos rfl, if_pos (finer a hp)]
      refine ⟨_, _, _, _, rfl, rfl, fun _ => rfl, fun piece found plain => ?_⟩
      rcases List.mem_cons.mp found with rfl | found
      · exact List.mem_cons.mpr (.inl (first plain).symm)
      · exact List.mem_cons_of_mem _ (rest piece found plain)
    | false =>
      cases hq : q a with
      | true =>
        refine ⟨_, _, _, _, rfl, rfl, fun plain => ?_, fun piece found plain => ?_⟩
        · cases hq.symm.trans (plain a List.mem_cons_self)
        · exact List.mem_cons_of_mem _ (rest piece found plain)
      | false =>
        refine ⟨_, _, _, _, rfl, rfl, fun plain => ?_, rest⟩
        exact congrArg (a :: ·) (first fun b found => plain b (List.mem_cons_of_mem _ found))

end

theorem mem_splitWords {scope piece : List Char} (found : piece ∈ pieces scope)
    (plain : ∀ c ∈ piece, isSpace c = false) : piece ∈ splitWords scope := by
  obtain ⟨found, nonempty⟩ := List.mem_filter.mp found
  refine List.mem_filter.mpr ⟨?_, nonempty⟩
  have finer : ∀ c : Char, (c == ' ') = true → isSpace c = true := by
    intro c same
    rw [beq_iff_eq.mp same]
    rfl
  obtain ⟨head, tail, head', tail', coarse, fine, first, rest⟩ := splitOnP_refine finer scope
  rw [splitOn, List.splitOn_eq_splitOnP, coarse] at found
  rw [fine]
  rcases List.mem_cons.mp found with rfl | found
  · exact List.mem_cons.mpr (.inl (first plain).symm)
  · exact List.mem_cons_of_mem _ (rest piece found plain)

/-! ### The session -/

variable {τ : Type} {F : Fernet τ}

def Session.enter (w : Session) (e : Event (bridge F)) : Session :=
  match e.op with
  | .sessionPop key => Function.update w key none
  | .sessionSet key value => Function.update w key value
  | _ => w

def Session.after (t : Trace (bridge F)) (w : Session) : Session := t.foldl Session.enter w

theorem Session.after_visible (t : Trace (bridge F)) (w : Session) :
    Session.after (visible Op.silent t) w = Session.after t w := by
  induction t generalizing w with
  | nil => rfl
  | cons e t ih =>
    cases silent : e.op.silent with
    | true =>
      have same : w.enter e = w := by
        obtain ⟨o, answer⟩ := e
        cases o <;> first | rfl | cases silent
      rw [visible_cons_silent silent, ih, Session.after, Session.after, List.foldl_cons, same]
    | false =>
      rw [visible_cons silent]
      exact ih _

/-! ### The redirect -/

/-- What the allowlist is for: a redirect asks for one scope, each piece of it allowed, and any
other answer leaves every session as it was. -/
def AllowlistKept (allowed : List String) (t : Trace (bridge F)) (r : Response) : Prop :=
  (r.status = 302 → ∃ location scope, r.headers.lookup "Location" = some location ∧
    (parseQs (queryOf location)).lookup "scope" = some [scope] ∧
    ∀ piece ∈ pieces scope.toList, String.ofList piece ∈ allowed) ∧
  (r.status ≠ 302 → ∀ w, Session.after t w = w)

variable {P : Platform τ} {checkNetloc : String → Bool} {s : Settings} {args : List (String × String)}

/-- The authorization URI is one, and the scope keeps its words apart with spaces, or what else
it has in their place is allowed as it stands. -/
def Forwardable (checkNetloc : String → Bool) (s : Settings) (args : List (String × String)) (allowed : List String) : Prop :=
  (∃ split, Python.urlsplit checkNetloc s.oauth.authorizationUri = some split) ∧
    ∀ piece ∈ pieces (requestedScope s args).toList, piece.any isSpace = true → String.ofList piece ∈ allowed

theorem distinct_authorizeParams (s : Settings) (args : List (String × String)) (state : String) :
    ((authorizeParams s args state).map Prod.fst).Nodup := by
  show ["client_id", "response_type", "redirect_uri", "scope", "state"].Nodup
  decide

theorem redirect_scope {split : SplitUri} (args : List (String × String)) (state : String)
    (splits : Python.urlsplit checkNetloc s.oauth.authorizationUri = some split) :
    ∃ location, redirect (P.withUrllib checkNetloc) s.oauth.authorizationUri (authorizeParams s args state) =
        .ok ⟨302, [("Location", location), ("Content-Type", "text/html; charset=utf-8")], .empty⟩ ∧
      (parseQs (queryOf location)).lookup "scope" = some [requestedScope s args] := by
  have accepts : (P.withUrllib checkNetloc).urlsplit s.oauth.authorizationUri = some split := splits
  have rewritten : rewriteUri (P.withUrllib checkNetloc) s.oauth.authorizationUri (authorizeParams s args state) =
      .ok (Python.urlunsplit { split with
        query := rewriteQuery (P.withUrllib checkNetloc) split.query (authorizeParams s args state) }) := by
    rw [rewriteUri, accepts]
    rfl
  have plain : '#' ∉ (rewriteQuery (P.withUrllib checkNetloc) split.query (authorizeParams s args state)).toList :=
    fun found => (rewriteQuery_plain found).1 rfl
  have query := queryOf_urlunsplit (urlsplit_front splits) plain
  generalize Python.urlunsplit _ = location at rewritten query
  refine ⟨location, by rw [redirect, rewritten]; rfl, ?_⟩
  rw [query, parseQs_rewriteQuery]
  exact (lookup_overrides _ (distinct_authorizeParams s args state)).1 "scope" _ (by simp [authorizeParams])

theorem permitted_answer {t : Trace (bridge (P.withUrllib checkNetloc).fernet)} {r : Response}
    (run : Runs (serve s (authorize (P.withUrllib checkNetloc) s args)) t (.ok r)) (permitted : Permitted s args) :
    (∃ state : ClientSecret (P.withUrllib checkNetloc).fernet, visible Op.silent t = remembered args state) ∧
    ((∃ split, Python.urlsplit checkNetloc s.oauth.authorizationUri = some split) ∧ r.status = 302 ∧
        (∃ location, r.headers.lookup "Location" = some location ∧
          (parseQs (queryOf location)).lookup "scope" = some [requestedScope s args]) ∨
      Python.urlsplit checkNetloc s.oauth.authorizationUri = none ∧ r.status ≠ 302) := by
  obtain ⟨r₀, ended, answer⟩ := (serve_ensures s (authorize_ensures _ s args)).runs run
  cases answer
  generalize events : visible Op.silent t = shown at ended
  cases ended with
  | refused _ _ refuses => exact absurd permitted refuses
  | stored state _ =>
    refine ⟨⟨state, rfl⟩, ?_⟩
    cases splits : Python.urlsplit checkNetloc s.oauth.authorizationUri with
    | some split =>
      obtain ⟨location, built, scope⟩ := redirect_scope (P := P) args state.text splits
      rw [built]
      exact .inl ⟨⟨split, rfl⟩, rfl, location, rfl, scope⟩
    | none =>
      have fails : redirect (P.withUrllib checkNetloc) s.oauth.authorizationUri (authorizeParams s args state.text) =
          .error .valueError := by
        have rejects : (P.withUrllib checkNetloc).urlsplit s.oauth.authorizationUri = none := splits
        rw [redirect, rewriteUri, rejects]
        rfl
      rw [fails]
      exact .inr ⟨rfl, by simp [served_python, jsonify]⟩

theorem refused_answer {t : Trace (bridge (P.withUrllib checkNetloc).fernet)} {r : Response}
    (run : Runs (serve s (authorize (P.withUrllib checkNetloc) s args)) t (.ok r)) (refused : ¬Permitted s args) :
    visible Op.silent t = [] ∧ r.status ≠ 302 := by
  obtain ⟨r₀, ended, answer⟩ := (serve_ensures s (authorize_ensures _ s args)).runs run
  cases answer
  generalize visible Op.silent t = shown at ended
  cases ended with
  | refused error desc _ => exact ⟨rfl, pageAnswer_not_redirect s _ desc none .null⟩
  | stored _ permitted => exact absurd permitted refused

theorem allowed_words {allowed : List String} (restricted : s.oauth.allowedScopes = some allowed)
    (permitted : Permitted s args) {word : List Char} (found : word ∈ splitWords (requestedScope s args).toList) :
    String.ofList word ∈ allowed := by
  have checked := permitted.2
  simp only [requestedScopeIsAllowed, restricted] at checked
  exact of_decide_eq_true (List.all_eq_true.mp checked word found)

theorem after_remembered {F : Fernet τ} (args : List (String × String)) (state : ClientSecret F) (w : Session) :
    Session.after (remembered args state) w "state" = some state.text := by
  simp [Session.after, remembered, Session.enter]

/-- Exactly the refused and the forwardable requests keep the allowlist. -/
theorem allowlistKept_iff {allowed : List String} (restricted : s.oauth.allowedScopes = some allowed)
    {t : Trace (bridge (P.withUrllib checkNetloc).fernet)} {r : Response}
    (run : Runs (serve s (authorize (P.withUrllib checkNetloc) s args)) t (.ok r)) :
    AllowlistKept allowed t r ↔ ¬Permitted s args ∨ Forwardable checkNetloc s args allowed := by
  by_cases permitted : Permitted s args
  · obtain ⟨⟨state, stored⟩, ⟨splits, redirects, location, sent, scope⟩ | ⟨rejects, fails⟩⟩ := permitted_answer run permitted
    · constructor
      · rintro ⟨kept, _⟩
        obtain ⟨location', scope', sent', scope'', allowed⟩ := kept redirects
        obtain rfl := Option.some_inj.mp (sent.symm.trans sent')
        obtain rfl : requestedScope s args = scope' := by simpa using scope.symm.trans scope''
        exact .inr ⟨splits, fun piece found _ => allowed piece found⟩
      · rintro (refused | ⟨_, spaced⟩)
        · exact absurd permitted refused
        · refine ⟨fun _ => ⟨location, _, sent, scope, fun piece found => ?_⟩, fun other => absurd redirects other⟩
          cases plain : piece.any isSpace with
          | true => exact spaced piece found plain
          | false => exact allowed_words restricted permitted (mem_splitWords found (by simpa using plain))
    · constructor
      · rintro ⟨_, unchanged⟩
        have same := congrFun (unchanged fails fun _ => none) "state"
        rw [← Session.after_visible, stored, after_remembered] at same
        cases same
      · rintro (refused | ⟨⟨split, splits⟩, _⟩)
        · exact absurd permitted refused
        · cases rejects.symm.trans splits
  · obtain ⟨nothing, fails⟩ := refused_answer run permitted
    refine ⟨fun _ => .inl permitted, fun _ => ⟨fun redirects => absurd redirects fails, fun _ w => ?_⟩⟩
    rw [← Session.after_visible, nothing]
    rfl

namespace Sample

def restricted : Settings := { settings with oauth := { settings.oauth with allowedScopes := some ["a", "b"] } }

abbrev scopedAuthorize (scope : String) : Action (platform.withUrllib fun _ => true).fernet Response :=
  serve restricted (authorize (platform.withUrllib fun _ => true) restricted [("scope", scope)])

theorem scopedAuthorize_runs (scope : String) : ∃ t r, Runs (scopedAuthorize scope) t (.ok r) := by
  have runs : Runs (scopedAuthorize scope) _ _ :=
    Program.eval_runs World.answer (scopedAuthorize scope) (emptyWorld fun _ => .failure .other none 0)
  obtain ⟨r₀, _, answer⟩ := (serve_ensures restricted (authorize_ensures _ restricted [("scope", scope)])).runs runs
  rw [answer] at runs
  exact ⟨_, _, runs⟩

end Sample

/-- Scopes that are kept apart by spaces. -/
theorem allowlistKept_spaces : ∃ t r, Runs (Sample.scopedAuthorize "a b") t (.ok r) ∧ AllowlistKept ["a", "b"] t r := by
  obtain ⟨t, r, run⟩ := Sample.scopedAuthorize_runs "a b"
  exact ⟨t, r, run, (allowlistKept_iff rfl run).mpr (.inr ⟨⟨_, rfl⟩, by decide +kernel⟩)⟩

/-- Scopes that are kept apart by a tab pass the check, and are one scope for the provider. -/
theorem allowlist_passed_by_tab :
    ∃ t r, Runs (Sample.scopedAuthorize "a\tb") t (.ok r) ∧ ¬AllowlistKept ["a", "b"] t r := by
  obtain ⟨t, r, run⟩ := Sample.scopedAuthorize_runs "a\tb"
  refine ⟨t, r, run, fun kept => ?_⟩
  have permitted : Permitted Sample.restricted [("scope", "a\tb")] := ⟨by decide, by decide +kernel⟩
  obtain ⟨_, ⟨_, redirects, location, sent, scope⟩ | ⟨rejects, _⟩⟩ := permitted_answer run permitted
  · obtain ⟨location', scope', sent', scope'', allowed⟩ := kept.1 redirects
    obtain rfl := Option.some_inj.mp (sent.symm.trans sent')
    obtain rfl : "a\tb" = scope' := by simpa [requestedScope] using scope.symm.trans scope''
    revert allowed
    decide +kernel
  · cases rejects

end OAuthClientBridge
