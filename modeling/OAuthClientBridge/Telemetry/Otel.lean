import OAuthClientBridge.Scopes

/-! `_otel.py`: what the span of a request keeps of its response. A redirect says nothing of the request there. -/

namespace OAuthClientBridge
open Python Effect Program

/-- `CaseInsensitiveDict(headers).get(name)`, the last one of that name. -/
def headerValue (headers : List (String × String)) (name : String) : Option String :=
  ((headers.filter fun header => sameIgnoringCase header.1 name).getLast?).map Prod.snd

/-- The headers that a span keeps as they are, each with its attribute. -/
def tracedHeaders : List (String × String) :=
  [("Cache-Control", "http.response.header.cache_control"), ("Content-Type", "http.response.header.content_type"),
   ("Retry-After", "http.response.header.retry_after")]

/-- The attributes that `_flask_response_hook` sets on a recording span. -/
def flaskResponseHook (checkNetloc : String → Bool) (headers : List (String × String)) :
    Except PyError (List (String × String)) := do
  let sanitizedLocation ← sanitizeUrl checkNetloc (headerValue headers "Location")
  return (sanitizedLocation.map fun url => ("http.response.header.location", url)).toList ++
    tracedHeaders.filterMap fun header => (headerValue headers header.1).map fun value => (header.2, value)

section
variable {location name : String} {rest : List (String × String)}

theorem headerValue_location (absent : rest.all (!sameIgnoringCase ·.1 "Location") = true) :
    headerValue (("Location", location) :: rest) "Location" = some location := by
  have others : (rest.filter fun header => sameIgnoringCase header.1 "Location") = [] := by
    apply List.filter_eq_nil_iff.mpr
    intro header found
    simpa using List.all_eq_true.mp absent header found
  have found : sameIgnoringCase "Location" "Location" = true := by decide
  simp only [headerValue, List.filter_cons, found, if_true, others]
  rfl

theorem headerValue_other (other : sameIgnoringCase "Location" name = false) :
    headerValue (("Location", location) :: rest) name = headerValue rest name := by
  rw [headerValue, List.filter_cons_of_neg (by simp [other])]
  rfl

/-- What a redirect leaves: its sanitized location, and the same as another response with its other headers. -/
theorem flaskResponseHook_redirect {checkNetloc : String → Bool} {url : String}
    (absent : rest.all (!sameIgnoringCase ·.1 "Location") = true)
    (sanitized : sanitizeUrl checkNetloc (some location) = .ok (some url)) :
    flaskResponseHook checkNetloc (("Location", location) :: rest) = .ok (("http.response.header.location", url) ::
      tracedHeaders.filterMap fun header => (headerValue rest header.1).map fun value => (header.2, value)) := by
  have others : ∀ header ∈ tracedHeaders, sameIgnoringCase "Location" header.1 = false := by decide
  have same : (tracedHeaders.filterMap fun header => (headerValue (("Location", location) :: rest) header.1).map
      fun value => (header.2, value)) =
      tracedHeaders.filterMap fun header => (headerValue rest header.1).map fun value => (header.2, value) := by
    apply List.filterMap_congr
    intro header found
    rw [headerValue_other (others header found)]
  rw [flaskResponseHook, headerValue_location absent, sanitized, same]
  rfl

end

/-! ### The names in a rewritten query -/

/-- The names of a dictionary, with how many values each has. -/
def shape (dict : List (String × List String)) : List (String × Nat) := dict.map fun entry => (entry.1, entry.2.length)

def overrideShape (sizes : List (String × Nat)) (name : String) : List (String × Nat) :=
  if sizes.any (·.1 = name) then sizes.map fun entry => if entry.1 = name then (name, 1) else entry
  else sizes ++ [(name, 1)]

theorem shape_overrideParam (dict : List (String × List String)) (param : String × String) :
    shape (overrideParam dict param) = overrideShape (shape dict) param.1 := by
  have known : (shape dict).any (·.1 = param.1) = dict.any (·.1 = param.1) := by
    rw [shape, List.any_map]
    rfl
  unfold overrideParam overrideShape
  rw [known]
  split
  · unfold shape
    rw [List.map_map, List.map_map]
    apply List.map_congr_left
    intro entry _
    by_cases same : entry.1 = param.1 <;> simp [same]
  · simp [shape]

theorem shape_overrides {dict dict' : List (String × List String)} {params params' : UriParam} (start : shape dict = shape dict')
    (names : params.map Prod.fst = params'.map Prod.fst) :
    shape (params.foldl overrideParam dict) = shape (params'.foldl overrideParam dict') := by
  induction params generalizing params' dict dict' with
  | nil =>
    cases params' with
    | nil => exact start
    | cons param' params' => cases names
  | cons param params ih =>
    cases params' with
    | nil => cases names
    | cons param' params' =>
      obtain ⟨name, names⟩ := List.cons.inj names
      apply ih _ names
      rw [shape_overrideParam, shape_overrideParam, start, name]

theorem fieldsOf_names (dict : List (String × List String)) :
    (fieldsOf dict).map Prod.fst = (shape dict).flatMap fun entry => List.replicate entry.2 entry.1 := by
  rw [fieldsOf, shape, List.map_flatMap, List.flatMap_map]
  congr 1
  funext entry
  rw [List.map_map]
  exact List.map_const' ..

variable {τ : Type} {P : Platform τ} {checkNetloc : String → Bool} {s : Settings}

/-- A query that was rewritten is redacted to the names of its parameters alone. -/
theorem filteredQuery_rewriteQuery {params params' : UriParam} (names : params.map Prod.fst = params'.map Prod.fst)
    (original : String) :
    filteredQuery (rewriteQuery (P.withUrllib checkNetloc) original params) =
      filteredQuery (rewriteQuery (P.withUrllib checkNetloc) original params') := by
  have fields : ∀ params : UriParam, (parseQsl (rewriteQuery (P.withUrllib checkNetloc) original params)).map Prod.fst =
      (shape (params.foldl overrideParam (parseQs original))).flatMap fun entry => List.replicate entry.2 entry.1 := by
    intro params
    rw [← fieldsOf_names]
    exact congrArg (List.map Prod.fst) (parseQsl_urlencode (fieldsOf (params.foldl overrideParam (parseQs original))))
  have redacted : ∀ query : String, filteredQuery query =
      String.ofList (['&'].intercalate (((parseQsl query).map Prod.fst).map redactedField)) := by
    intro query
    rw [filteredQuery, List.map_map]
    rfl
  rw [redacted, redacted, fields, fields, shape_overrides rfl names]

theorem sanitizeUrl_rewriteUri {uri location : String} {params : UriParam} {split : SplitUri}
    (splits : Python.urlsplit checkNetloc uri = some split) (web : split.scheme = "http" ∨ split.scheme = "https")
    (host : split.netloc ≠ "") (rewritten : rewriteUri (P.withUrllib checkNetloc) uri params = .ok location) :
    sanitizeUrl checkNetloc (some location) = .ok (some (Python.urlunsplit { split with
      query := filteredQuery (rewriteQuery (P.withUrllib checkNetloc) split.query params) })) := by
  have isSplit := isSplit_of_urlsplit splits web host
  have plain : ∀ c ∈ (rewriteQuery (P.withUrllib checkNetloc) split.query params).toList, c ≠ '#' ∧ isUnsafe c = false :=
    fun _ found => rewriteQuery_plain found
  have accepts : (P.withUrllib checkNetloc).urlsplit uri = some split := splits
  rw [rewriteUri, accepts] at rewritten
  rw [← Except.ok.inj rewritten]
  generalize rewriteQuery (P.withUrllib checkNetloc) split.query params = query at plain
  have written : IsSplit checkNetloc { split with query } := by
    refine { isSplit with query := fun found => (plain _ found).1 rfl, clean := fun c found => ?_ }
    have clean := isSplit.clean c
    simp only [List.mem_append] at found clean
    rcases found with (parts | new) | fragment
    · exact clean (.inl (.inl parts))
    · exact (plain c new).2
    · exact clean (.inr fragment)
  have reads : urlsplit checkNetloc ((P.withUrllib checkNetloc).urlunsplit { split with query }) = some { split with query } :=
    written.urlsplit_urlunsplit
  unfold sanitizeUrl
  dsimp only
  rw [reads]
  dsimp only
  split
  · rename_i blank
    subst blank
    rfl
  · rfl

/-! ### The redirect of `/` -/

theorem redirect_headers {args : List (String × String)} {t : Trace (bridge (P.withUrllib checkNetloc).fernet)} {r : Response}
    (run : Runs (respond (P.withUrllib checkNetloc) s (.authorize args)) t (.ok r)) (redirects : r.status = 302) :
    ∃ state location,
      rewriteUri (P.withUrllib checkNetloc) s.oauth.authorizationUri (authorizeParams s args state) = .ok location ∧
      r.headers = [("Location", location), ("Content-Type", "text/html; charset=utf-8"), ("Cache-Control", "no-store"),
        ("Pragma", "no-cache")] := by
  obtain ⟨r₀, ended, answer⟩ := (serve_ensures s (authorize_ensures _ s args)).runs run
  cases answer
  generalize visible Op.silent t = shown at ended
  cases ended with
  | refused error description _ => exact absurd redirects (pageAnswer_not_redirect s _ description none .null)
  | stored state _ =>
    cases rewritten : rewriteUri (P.withUrllib checkNetloc) s.oauth.authorizationUri (authorizeParams s args state.text) with
    | error e =>
      rw [redirect, rewritten] at redirects
      simp [served_python, jsonify] at redirects
    | ok location =>
      refine ⟨state.text, location, rewritten, ?_⟩
      rw [redirect, rewritten]
      rfl

/-- Two redirects of `/` leave the same attributes, whatever was asked and whatever state was drawn. -/
theorem redirects_traced_alike {split : SplitUri} (splits : Python.urlsplit checkNetloc s.oauth.authorizationUri = some split)
    (web : split.scheme = "http" ∨ split.scheme = "https") (host : split.netloc ≠ "")
    {args args' : List (String × String)} {t t' : Trace (bridge (P.withUrllib checkNetloc).fernet)} {r r' : Response}
    (run : Runs (respond (P.withUrllib checkNetloc) s (.authorize args)) t (.ok r)) (redirects : r.status = 302)
    (run' : Runs (respond (P.withUrllib checkNetloc) s (.authorize args')) t' (.ok r')) (redirects' : r'.status = 302) :
    ∃ attributes, flaskResponseHook checkNetloc r.headers = .ok attributes ∧
      flaskResponseHook checkNetloc r'.headers = .ok attributes := by
  obtain ⟨state, location, rewritten, headers⟩ := redirect_headers run redirects
  obtain ⟨state', location', rewritten', headers'⟩ := redirect_headers run' redirects'
  have shown := sanitizeUrl_rewriteUri splits web host rewritten
  have shown' := sanitizeUrl_rewriteUri splits web host rewritten'
  have names : (authorizeParams s args state).map Prod.fst = (authorizeParams s args' state').map Prod.fst := rfl
  rw [filteredQuery_rewriteQuery names] at shown
  rw [headers, headers']
  exact ⟨_, flaskResponseHook_redirect (by decide) shown, flaskResponseHook_redirect (by decide) shown'⟩

namespace Sample

abbrev asked (scope : String) : Outcome (bridge (platform.withUrllib fun _ => true).fernet) Exc Response
    (World (platform.withUrllib fun _ => true).fernet) :=
  (respond (platform.withUrllib fun _ => true) settings (.authorize [("scope", scope)])).eval World.answer
    (emptyWorld fun _ => .failure .other none 0)

theorem asked_redirects {scope : String} (redirects : (asked scope).result.toOption.map Response.status = some 302) :
    ∃ r, Runs (respond (platform.withUrllib fun _ => true) settings (.authorize [("scope", scope)])) (asked scope).trace (.ok r) ∧
      r.status = 302 := by
  have run := Program.eval_runs World.answer (respond (platform.withUrllib fun _ => true) settings (.authorize [("scope", scope)]))
    (emptyWorld fun _ => .failure .other none 0)
  obtain ⟨r, answer⟩ := respond_answers _ _ run
  rw [answer] at run redirects
  exact ⟨r, run, Option.some.inj redirects⟩

end Sample

/-- The scope does not show. -/
theorem redirects_traced_alike_scopes : ∃ r r',
    Runs (respond (Sample.platform.withUrllib fun _ => true) Sample.settings (.authorize [("scope", "a")]))
      (Sample.asked "a").trace (.ok r) ∧
    Runs (respond (Sample.platform.withUrllib fun _ => true) Sample.settings (.authorize [("scope", "b c")]))
      (Sample.asked "b c").trace (.ok r') ∧
    ∃ attributes, flaskResponseHook (fun _ => true) r.headers = .ok attributes ∧
      flaskResponseHook (fun _ => true) r'.headers = .ok attributes := by
  obtain ⟨r, run, redirects⟩ := @Sample.asked_redirects "a" (by decide +kernel)
  obtain ⟨r', run', redirects'⟩ := @Sample.asked_redirects "b c" (by decide +kernel)
  have splits : Python.urlsplit (fun _ => true) Sample.settings.oauth.authorizationUri =
      some ⟨"https", "provider", "/authorize", "", ""⟩ := rfl
  exact ⟨r, r', run, run', redirects_traced_alike splits (.inr rfl) (by decide) run redirects run' redirects'⟩

end OAuthClientBridge
