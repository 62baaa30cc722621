import OAuthClientBridge.Python.RoundTrip
import OAuthClientBridge.Utils.Uri
import OAuthClientBridge.World

/-! Rewriting a URI is an override of its parsed query. -/

namespace OAuthClientBridge
open Python

/-- A platform with the standard library's `urllib.parse`. -/
def Platform.withUrllib {τ : Type} (P : Platform τ) (checkNetloc : String → Bool) : Platform τ :=
  { P with urlsplit := Python.urlsplit checkNetloc, urlunsplit := Python.urlunsplit, parseQs := Python.parseQs,
           urlencode := Python.urlencode }

variable {dict : List (String × List String)} {params : UriParam} {key value : String}

theorem overrideParam_change (dict : List (String × List String)) (param : String × String) :
    (dict.map fun entry => if entry.1 = param.1 then (param.1, [param.2]) else entry) =
      dict.map fun entry => if entry.1 = param.1 then (entry.1, (fun _ => [param.2]) entry.2) else entry := by
  refine List.map_congr_left fun entry _ => ?_
  by_cases same : entry.1 = param.1
  · rw [if_pos same, if_pos same, same]
  · rw [if_neg same, if_neg same]

theorem isDict_overrideParam (isDict : IsDict dict) (param : String × String) : IsDict (overrideParam dict param) := by
  unfold overrideParam
  split
  · rw [overrideParam_change]
    exact isDict.change param.1 fun _ => List.cons_ne_nil _ _
  · next new => exact isDict.snoc (Bool.not_eq_true _ ▸ new) param.2

theorem isDict_overrides (isDict : IsDict dict) (params : UriParam) : IsDict (params.foldl overrideParam dict) := by
  induction params generalizing dict with
  | nil => exact isDict
  | cons param params ih => exact ih (isDict_overrideParam isDict param)

theorem lookup_change (dict : List (String × List String)) (param : String × String) (key : String) :
    (dict.map fun entry => if entry.1 = param.1 then (param.1, [param.2]) else entry).lookup key =
      if key = param.1 ∧ dict.any (·.1 = param.1) then some [param.2] else dict.lookup key := by
  induction dict with
  | nil => simp
  | cons entry dict ih =>
    obtain ⟨name, values⟩ := entry
    rw [List.map_cons, List.any_cons]
    by_cases same : name = param.1
    · subst same
      by_cases asked : key = param.1
      · subst asked
        simp
      · simp only [if_pos, List.lookup_cons, beq_eq_false_iff_ne.mpr asked, ih, asked, false_and, if_false]
    · by_cases asked : key = name
      · subst asked
        simp [same]
      · simp only [same, if_false, List.lookup_cons, beq_eq_false_iff_ne.mpr asked, ih, decide_false, Bool.false_or]

theorem lookup_overrideParam (dict : List (String × List String)) (param : String × String) (key : String) :
    (overrideParam dict param).lookup key = if key = param.1 then some [param.2] else dict.lookup key := by
  unfold overrideParam
  split
  · next known => simp [lookup_change, known]
  · next new =>
    have absent : dict.lookup param.1 = none := by
      rw [List.lookup_eq_none_iff]
      intro entry found
      rw [bne_iff_ne]
      intro same
      exact new (List.any_eq_true.mpr ⟨entry, found, decide_eq_true same.symm⟩)
    rw [List.lookup_append]
    by_cases asked : key = param.1
    · subst asked
      simp [absent]
    · simp [asked, List.lookup_cons, beq_eq_false_iff_ne.mpr asked]

theorem lookup_overrides (dict : List (String × List String)) (distinct : (params.map Prod.fst).Nodup) :
    (∀ key value, (key, value) ∈ params → (params.foldl overrideParam dict).lookup key = some [value]) ∧
      ∀ key, key ∉ params.map Prod.fst → (params.foldl overrideParam dict).lookup key = dict.lookup key := by
  induction params generalizing dict with
  | nil => exact ⟨nofun, fun _ _ => rfl⟩
  | cons param params ih =>
    obtain ⟨first, rest⟩ := List.nodup_cons.mp distinct
    obtain ⟨given, others⟩ := ih (overrideParam dict param) rest
    refine ⟨fun key value found => ?_, fun key absent => ?_⟩
    · rcases List.mem_cons.mp found with rfl | found
      · rw [List.foldl_cons, others key first, lookup_overrideParam, if_pos rfl]
      · exact given key value found
    · obtain ⟨other, absent⟩ := not_or.mp (mt List.mem_cons.mpr absent)
      rw [List.foldl_cons, others key absent, lookup_overrideParam, if_neg other]

section
variable {τ : Type} {P : Platform τ} {checkNetloc : String → Bool} {uri : String} {split : SplitUri}

theorem parseQs_rewriteQuery (original : String) (params : UriParam) :
    parseQs (rewriteQuery (P.withUrllib checkNetloc) original params) = params.foldl overrideParam (parseQs original) :=
  parseQs_urlencode (isDict_overrides (isDict_parseQs original) params)

theorem rewriteQuery_plain {original : String} {c : Char}
    (found : c ∈ (rewriteQuery (P.withUrllib checkNetloc) original params).toList) : c ≠ '#' ∧ isUnsafe c = false :=
  urlencode_plain found

/-- The rewritten address has the parts of the old one but for its query, which is the old one overridden. -/
theorem rewriteUri_overrides (splits : Python.urlsplit checkNetloc uri = some split)
    (web : split.scheme = "http" ∨ split.scheme = "https") (host : split.netloc ≠ "")
    (distinct : (params.map Prod.fst).Nodup) :
    ∃ uri' split', rewriteUri (P.withUrllib checkNetloc) uri params = .ok uri' ∧
      Python.urlsplit checkNetloc uri' = some split' ∧
      split'.scheme = split.scheme ∧ split'.netloc = split.netloc ∧ split'.path = split.path ∧
      split'.fragment = split.fragment ∧
      (∀ key value, (key, value) ∈ params → (parseQs split'.query).lookup key = some [value]) ∧
      ∀ key, key ∉ params.map Prod.fst → (parseQs split'.query).lookup key = (parseQs split.query).lookup key := by
  have isSplit := isSplit_of_urlsplit splits web host
  have read := @parseQs_rewriteQuery _ P checkNetloc split.query params
  have plain : ∀ c ∈ (rewriteQuery (P.withUrllib checkNetloc) split.query params).toList, c ≠ '#' ∧ isUnsafe c = false :=
    fun _ found => rewriteQuery_plain found
  obtain ⟨given, others⟩ := lookup_overrides (parseQs split.query) distinct
  generalize asked : rewriteQuery (P.withUrllib checkNetloc) split.query params = query at read plain
  have rewritten : IsSplit checkNetloc { split with query } := by
    refine { isSplit with query := fun found => (plain _ found).1 rfl, clean := fun c found => ?_ }
    have clean := isSplit.clean c
    simp only [List.mem_append] at found clean
    rcases found with (parts | new) | fragment
    · exact clean (.inl (.inl parts))
    · exact (plain c new).2
    · exact clean (.inr fragment)
  refine ⟨_, _, ?_, rewritten.urlsplit_urlunsplit, rfl, rfl, rfl, rfl, ?_, ?_⟩
  · have accepts : (P.withUrllib checkNetloc).urlsplit uri = some split := splits
    rw [rewriteUri, accepts, ← asked]
    rfl
  · exact fun key value found => read ▸ given key value found
  · exact fun key absent => read ▸ others key absent

/-- A repeated name is overridden, and a blank value is kept. -/
theorem rewriteUri_overrides_repeated : ∃ uri' split',
    rewriteUri (Sample.platform.withUrllib fun _ => true) "https://h/p?a=1&b=&a=2#f" [("a", "x y")] = .ok uri' ∧
      Python.urlsplit (fun _ => true) uri' = some split' ∧ split'.path = "/p" ∧
      (parseQs split'.query).lookup "a" = some ["x y"] ∧ (parseQs split'.query).lookup "b" = some [""] := by
  obtain ⟨uri', split', rewritten, splits, _, _, path, _, given, others⟩ := @rewriteUri_overrides
    [("a", "x y")] _ Sample.platform (fun _ => true) "https://h/p?a=1&b=&a=2#f"
    ⟨"https", "h", "/p", "a=1&b=&a=2", "f"⟩ rfl (.inr rfl) (by decide) (by decide)
  exact ⟨uri', split', rewritten, splits, path, given "a" "x y" (by decide),
    (others "b" (by decide)).trans (by decide +kernel)⟩

end
end OAuthClientBridge
