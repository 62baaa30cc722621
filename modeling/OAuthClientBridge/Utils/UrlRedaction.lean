import OAuthClientBridge.Python.RoundTrip
import OAuthClientBridge.Utils.Uri

/-! `sanitize_url` hides the values of a query, and nothing else of the address. -/

namespace OAuthClientBridge
open Python

/-! ### Addresses as they are written -/

/-- A part of an address behind its delimiter, if it is there. -/
def delimited (sep : Char) : Option (List Char) → List Char
  | none => []
  | some s => sep :: s

/-- A parameter of a query: a key, and what follows its `=` if it has one. -/
structure QueryParam where
  key : String
  value : Option String
  keyEnds : ∀ c ∈ key.toList, c ≠ '=' ∧ c ≠ '&' ∧ c ≠ '#'
  valueEnds : ∀ v ∈ value, ∀ c ∈ v.toList, c ≠ '&' ∧ c ≠ '#'

def QueryParam.text (param : QueryParam) : List Char :=
  param.key.toList ++ delimited '=' (param.value.map String.toList)

def queryText (query : List QueryParam) : List Char := ['&'].intercalate (query.map QueryParam.text)

structure WebAddress where
  scheme : String
  netloc : String
  path : String
  fragment : Option String
  web : lowerAscii scheme.toList = "http".toList ∨ lowerAscii scheme.toList = "https".toList
  host : ∃ c ∈ netloc.toList, isUnsafe c = false
  netlocEnds : ∀ c ∈ netloc.toList, endsNetloc c = false
  rooted : ∀ c ∈ path.toList.head?, c = '/'
  pathEnds : ∀ c ∈ path.toList, c ≠ '#' ∧ c ≠ '?'

def WebAddress.url (address : WebAddress) (query : List QueryParam) : String :=
  String.ofList (address.scheme.toList ++ ':' :: '/' :: '/' :: (address.netloc.toList ++ (address.path.toList ++
    delimited '?' (if query = [] then none else some (queryText query)) ++
    delimited '#' (address.fragment.map String.toList))))

/-- The parameters have one key, and both have a `=` unless the key alone makes a parameter. -/
def SameKey (param param' : QueryParam) : Prop :=
  param.key = param'.key ∧
    (param.value.isSome = param'.value.isSome ∨ ∃ c ∈ param.key.toList, isUnsafe c = false)

/-! ### What is removed -/

/-- What is left of a text of an address that `urlsplit` reads. -/
def cleaned (s : List Char) : List Char := s.filter (!isUnsafe ·)

theorem cleaned_append (s t : List Char) : cleaned (s ++ t) = cleaned s ++ cleaned t := List.filter_append ..

theorem mem_cleaned {s : List Char} {c : Char} : c ∈ cleaned s ↔ c ∈ s ∧ isUnsafe c = false := by
  rw [cleaned, List.mem_filter, Bool.not_eq_true']

theorem cleaned_cons {c : Char} (safe : isUnsafe c = false) (s : List Char) : cleaned (c :: s) = c :: cleaned s := by
  rw [cleaned, List.filter_cons, safe]
  rfl

theorem cleaned_delimited {sep : Char} (safe : isUnsafe sep = false) (o : Option (List Char)) :
    cleaned (delimited sep o) = delimited sep (o.map cleaned) := by
  cases o with
  | none => rfl
  | some s => exact cleaned_cons safe s

theorem cut_delimited {sep : Char} {s : List Char} (absent : sep ∉ s) (o : Option (List Char)) :
    cut sep (s ++ delimited sep o) = (s, o.getD []) := by
  cases o with
  | none => rw [delimited, List.append_nil, cut_absent absent, Option.getD_none]
  | some t => exact cut_append absent t

theorem cleaned_intercalate (fields : List (List Char)) :
    cleaned (['&'].intercalate fields) = ['&'].intercalate (fields.map cleaned) := by
  induction fields with
  | nil => rfl
  | cons field fields ih =>
    cases fields with
    | nil => simp
    | cons next fields =>
      rw [List.map_cons, List.map_cons, List.intercalate_cons_cons, List.intercalate_cons_cons, cleaned_append,
        cleaned_append, ih]
      rfl

/-! ### Parameters -/

def QueryParam.field (param : QueryParam) : List Char := cleaned param.text

theorem QueryParam.field_eq (param : QueryParam) :
    param.field = cleaned param.key.toList ++ delimited '=' ((param.value.map String.toList).map cleaned) := by
  rw [field, text, cleaned_append, cleaned_delimited rfl]

theorem QueryParam.field_whole (param : QueryParam) : ∀ c ∈ param.field, c ≠ '&' ∧ c ≠ '#' := by
  intro c found
  obtain ⟨found, _⟩ := mem_cleaned.mp found
  rcases List.mem_append.mp found with key | rest
  · exact (param.keyEnds c key).2
  · cases held : param.value with
    | none =>
      rw [held] at rest
      cases rest
    | some v =>
      rw [held] at rest
      rcases List.mem_cons.mp rest with rfl | value
      · decide
      · exact param.valueEnds v held c value

/-- The key that `parse_qsl` reads. -/
def QueryParam.decodedKey (param : QueryParam) : String := String.ofList (unquotePlus (cleaned param.key.toList))

theorem QueryParam.readField_key (param : QueryParam) : (readField param.field).1 = param.decodedKey := by
  have whole : '=' ∉ cleaned param.key.toList := by
    intro found
    exact (param.keyEnds _ (mem_cleaned.mp found).1).1 rfl
  rw [readField, field_eq, cut_delimited whole, decodedKey]

/-- The keys of the parameters in order; an empty text between two `&` is no parameter. -/
def decodedKeys (query : List QueryParam) : List String :=
  (query.filter fun param => param.field ≠ []).map QueryParam.decodedKey

theorem cleaned_queryText (query : List QueryParam) :
    cleaned (queryText query) = ['&'].intercalate (query.map QueryParam.field) := by
  rw [queryText, cleaned_intercalate, List.map_map]
  rfl

theorem parseQsl_keys (query : List QueryParam) :
    (parseQsl (String.ofList (cleaned (queryText query)))).map Prod.fst = decodedKeys query := by
  have whole : ∀ field ∈ query.map QueryParam.field, '&' ∉ field := by
    intro field found amp
    obtain ⟨param, _, rfl⟩ := List.mem_map.mp found
    exact (param.field_whole _ amp).1 rfl
  rw [cleaned_queryText, parseQsl_fields whole, List.map_map, List.filter_map, List.map_map]
  exact List.map_congr_left fun param _ => param.readField_key

theorem SameKey.decodedKey {param param' : QueryParam} (same : SameKey param param') :
    param.decodedKey = param'.decodedKey := by
  rw [QueryParam.decodedKey, QueryParam.decodedKey, same.1]

theorem field_eq_nil {param : QueryParam} : param.field = [] ↔ cleaned param.key.toList = [] ∧ param.value = none := by
  rw [QueryParam.field_eq, List.append_eq_nil_iff]
  cases param.value <;> simp [delimited]

theorem SameKey.blank {param param' : QueryParam} (same : SameKey param param') : param.field = [] ↔ param'.field = [] := by
  rw [field_eq_nil, field_eq_nil, ← same.1]
  rcases same.2 with equals | ⟨c, inKey, safe⟩
  · rw [← Option.isNone_iff_eq_none, ← Option.isNone_iff_eq_none, ← Option.not_isSome, ← Option.not_isSome, equals]
  · have kept : cleaned param.key.toList ≠ [] := List.ne_nil_of_mem (mem_cleaned.mpr ⟨inKey, safe⟩)
    exact iff_of_false (fun blank => kept blank.1) fun blank => kept blank.1

theorem SameKey.text_of_blank {param param' : QueryParam} (same : SameKey param param') (blank : param.field = []) :
    param.text = param'.text := by
  have none := (field_eq_nil.mp blank).2
  have none' := (field_eq_nil.mp (same.blank.mp blank)).2
  rw [QueryParam.text, QueryParam.text, same.1, none, none']

abbrev SameKeys : List QueryParam → List QueryParam → Prop := List.Forall₂ SameKey

theorem SameKeys.decodedKeys {query query' : List QueryParam} (same : SameKeys query query') :
    decodedKeys query = decodedKeys query' := by
  unfold OAuthClientBridge.decodedKeys
  induction same with
  | nil => rfl
  | @cons param param' query query' first _ ih =>
    by_cases blank : param.field = []
    · rw [List.filter_cons_of_neg (by simp [blank]), List.filter_cons_of_neg (by simp [first.blank.mp blank]), ih]
    · rw [List.filter_cons_of_pos (by simp [blank]), List.filter_cons_of_pos (by simp [mt first.blank.mpr blank]),
        List.map_cons, List.map_cons, ih, first.decodedKey]

theorem intercalate_eq_nil {fields : List (List Char)} : ['&'].intercalate fields = [] ↔ fields = [] ∨ fields = [[]] := by
  cases fields with
  | nil => simp
  | cons field fields =>
    cases fields with
    | nil => simp
    | cons next fields => simp [List.intercalate_cons_cons]

theorem cleaned_queryText_eq_nil {query : List QueryParam} :
    cleaned (queryText query) = [] ↔ query = [] ∨ ∃ param, query = [param] ∧ param.field = [] := by
  rw [cleaned_queryText, intercalate_eq_nil, List.map_eq_nil_iff, List.map_eq_singleton_iff]

theorem SameKeys.queryText_of_nil {query query' : List QueryParam} (same : SameKeys query query')
    (empty : cleaned (queryText query) = []) : (query = [] ↔ query' = []) ∧ queryText query = queryText query' := by
  rcases cleaned_queryText_eq_nil.mp empty with rfl | ⟨param, rfl, blank⟩
  · cases same
    exact ⟨Iff.rfl, rfl⟩
  · rcases same with _ | ⟨first, rest⟩
    cases rest
    refine ⟨iff_of_false (List.cons_ne_nil _ _) (List.cons_ne_nil _ _), ?_⟩
    rw [queryText, queryText, List.map_singleton, List.map_singleton, first.text_of_blank blank]

/-! ### Reading an address -/

theorem isAlpha_of_toLower {c : Char} (letter : c.toLower.isAlpha = true) : c.isAlpha = true := by
  unfold Char.toLower at letter
  split at letter
  · next upper =>
    have capital : c.isUpper = true := decide_eq_true upper
    exact (Bool.or_eq_true _ _).mpr (.inl capital)
  · exact letter

theorem plain_of_isAlpha {c : Char} (letter : c.isAlpha = true) :
    isUnsafe c = false ∧ isC0OrSpace c = false ∧ isSchemeChar c = true ∧ c ≠ ':' := by
  have big : 32 < c.toNat := by
    delta Char.isAlpha Char.isUpper Char.isLower at letter
    simp only [Bool.or_eq_true, Bool.and_eq_true, decide_eq_true_eq, ge_iff_le, UInt32.le_iff_toNat_le] at letter
    rw [Char.toNat]
    rcases letter with ⟨low, _⟩ | ⟨low, _⟩
    · exact Nat.lt_of_lt_of_le (by decide) low
    · exact Nat.lt_of_lt_of_le (by decide) low
  refine ⟨?_, decide_eq_false (by omega), ?_, ?_⟩
  · cases removed : isUnsafe c with
    | false => rfl
    | true =>
      simp only [isUnsafe, List.contains_eq_mem, List.mem_cons, List.not_mem_nil, or_false, decide_eq_true_eq] at removed
      rcases removed with rfl | rfl | rfl <;> cases letter
  · rw [isSchemeChar, Char.isAlphanum, letter]
    rfl
  · rintro rfl
    cases letter

variable (address : WebAddress) (query : List QueryParam) {checkNetloc : String → Bool}

theorem WebAddress.scheme_alpha : address.scheme.toList ≠ [] ∧ ∀ c ∈ address.scheme.toList, c.isAlpha = true := by
  have letters : lowerAscii address.scheme.toList ≠ [] ∧ (lowerAscii address.scheme.toList).all Char.isAlpha = true := by
    rcases address.web with web | web <;> rw [web] <;> exact ⟨by decide, by decide⟩
  refine ⟨fun empty => letters.1 (by rw [empty]; rfl), fun c found => isAlpha_of_toLower ?_⟩
  exact List.all_eq_true.mp letters.2 _ (List.mem_map_of_mem found)

/-- The text behind the scheme, as `urlsplit` reads it. -/
def WebAddress.rest : List Char :=
  cleaned address.netloc.toList ++ (cleaned address.path.toList ++
    delimited '?' (if query = [] then none else some (cleaned (queryText query))) ++
    delimited '#' ((address.fragment.map String.toList).map cleaned))

theorem WebAddress.stripped : ((address.url query).toList.dropWhile isC0OrSpace).filter (!isUnsafe ·) =
    address.scheme.toList ++ ':' :: '/' :: '/' :: address.rest query := by
  obtain ⟨nonempty, letters⟩ := address.scheme_alpha
  have front : (address.url query).toList.dropWhile isC0OrSpace = (address.url query).toList := by
    rw [url, String.toList_ofList]
    cases written : address.scheme.toList with
    | nil => exact absurd written nonempty
    | cons c scheme =>
      have visible := (plain_of_isAlpha (letters c (written ▸ List.mem_cons_self))).2.1
      rw [List.cons_append, List.dropWhile_cons, visible]
      rfl
  have scheme : cleaned address.scheme.toList = address.scheme.toList := by
    rw [cleaned, List.filter_eq_self]
    intro c found
    rw [(plain_of_isAlpha (letters c found)).1]
    rfl
  rw [front, url, String.toList_ofList]
  change cleaned _ = _
  rw [cleaned_append, scheme, cleaned_cons rfl, cleaned_cons rfl, cleaned_cons rfl, cleaned_append, cleaned_append,
    cleaned_append, cleaned_delimited rfl, cleaned_delimited rfl, rest]
  by_cases none : query = []
  · rw [if_pos none, if_pos none]
    rfl
  · rw [if_neg none, if_neg none]
    rfl

theorem splitScheme_letters {scheme : List Char} (nonempty : scheme ≠ []) (letters : ∀ c ∈ scheme, c.isAlpha = true)
    (rest : List Char) : splitScheme (scheme ++ ':' :: rest) = (lowerAscii scheme, rest) := by
  have passes : ∀ c ∈ scheme, decide (c ≠ ':') = true := by
    intro c found
    exact decide_eq_true (plain_of_isAlpha (letters c found)).2.2.2
  have before : (scheme ++ ':' :: rest).takeWhile (· ≠ ':') = scheme := by
    rw [List.takeWhile_append_of_pos passes]
    simp
  have after : (scheme ++ ':' :: rest).dropWhile (· ≠ ':') = ':' :: rest := by
    rw [List.dropWhile_append_of_pos passes]
    simp
  unfold splitScheme
  rw [before, after]
  cases scheme with
  | nil => exact absurd rfl nonempty
  | cons c scheme =>
    have valid : (c :: scheme).all isSchemeChar = true := by
      rw [List.all_eq_true]
      intro d found
      exact (plain_of_isAlpha (letters d found)).2.2.1
    exact if_pos ⟨letters c List.mem_cons_self, valid⟩

def WebAddress.parts : SplitUri where
  scheme := String.ofList (lowerAscii address.scheme.toList)
  netloc := String.ofList (cleaned address.netloc.toList)
  path := String.ofList (cleaned address.path.toList)
  query := String.ofList (cleaned (queryText query))
  fragment := String.ofList (((address.fragment.map String.toList).map cleaned).getD [])

theorem queryText_hash (query : List QueryParam) : '#' ∉ cleaned (queryText query) := by
  rw [cleaned_queryText]
  intro found
  rcases mem_intercalate found with same | ⟨field, inside, found⟩
  · cases same
  · obtain ⟨param, _, rfl⟩ := List.mem_map.mp inside
    exact (param.field_whole _ found).2 rfl

theorem WebAddress.rest_ends : ∀ c ∈ (cleaned address.path.toList ++
    delimited '?' (if query = [] then none else some (cleaned (queryText query))) ++
    delimited '#' ((address.fragment.map String.toList).map cleaned)).head?, endsNetloc c = true := by
  have rooted := address.rooted
  intro c first
  cases path : address.path.toList with
  | cons d path' =>
    rw [path] at rooted first
    obtain rfl := rooted d rfl
    rw [cleaned_cons rfl] at first
    obtain rfl : '/' = c := Option.some_inj.mp first
    rfl
  | nil =>
    rw [path] at first
    by_cases none : query = []
    · rw [if_pos none] at first
      cases written : address.fragment with
      | none =>
        rw [written] at first
        cases first
      | some fragment =>
        rw [written] at first
        obtain rfl : '#' = c := Option.some_inj.mp first
        rfl
    · rw [if_neg none] at first
      obtain rfl : '?' = c := Option.some_inj.mp first
      rfl

theorem WebAddress.urlsplit_url : urlsplit checkNetloc (address.url query) =
    if ('[' ∈ cleaned address.netloc.toList ↔ ']' ∈ cleaned address.netloc.toList) ∧
      checkNetloc (String.ofList (cleaned address.netloc.toList)) = true then some (address.parts query) else none := by
  obtain ⟨nonempty, letters⟩ := address.scheme_alpha
  have netloc : ∀ c ∈ cleaned address.netloc.toList, endsNetloc c = false := by
    intro c found
    exact address.netlocEnds c (mem_cleaned.mp found).1
  have host : cleaned address.netloc.toList ≠ [] := by
    obtain ⟨c, found, safe⟩ := address.host
    exact List.ne_nil_of_mem (mem_cleaned.mpr ⟨found, safe⟩)
  have question : '?' ∉ cleaned address.path.toList := by
    intro found
    exact (address.pathEnds _ (mem_cleaned.mp found).1).2 rfl
  have hash : '#' ∉ cleaned address.path.toList ++
      delimited '?' (if query = [] then none else some (cleaned (queryText query))) := by
    intro found
    rcases List.mem_append.mp found with path | rest
    · exact (address.pathEnds _ (mem_cleaned.mp path).1).1 rfl
    · by_cases none : query = []
      · rw [if_pos none] at rest
        cases rest
      · rw [if_neg none] at rest
        rcases List.mem_cons.mp rest with same | inside
        · cases same
        · exact queryText_hash query inside
  have read : (if query = [] then none else some (cleaned (queryText query))).getD [] = cleaned (queryText query) := by
    by_cases none : query = []
    · rw [if_pos none, none]
      rfl
    · rw [if_neg none]
      rfl
  rw [urlsplit, address.stripped]
  simp only [splitScheme_letters nonempty letters, rest, splitNetloc_append netloc (address.rest_ends query),
    cut_delimited hash, cut_delimited question, read]
  by_cases accepted : ('[' ∈ cleaned address.netloc.toList ↔ ']' ∈ cleaned address.netloc.toList) ∧
      checkNetloc (String.ofList (cleaned address.netloc.toList)) = true
  · rw [if_pos accepted, if_pos ⟨accepted.1, .inr accepted.2⟩]
    rfl
  · rw [if_neg accepted, if_neg]
    rintro ⟨brackets, empty | checked⟩
    · exact host empty
    · exact accepted ⟨brackets, checked⟩

/-! ### What is written back -/

theorem mem_redactedField {key : String} {c : Char} (found : c ∈ redactedField key) :
    c ≠ '&' ∧ c ≠ '#' ∧ isUnsafe c = false := by
  rcases List.mem_append.mp found with quoted | rest
  · have plain : isQuoted c = true := by
      unfold isQuoted
      rcases mem_quoteFromBytes quoted with safe | none | rfl
      · rw [safe]
        rfl
      · cases none
      · rfl
    exact ⟨isQuoted_ne plain rfl, isQuoted_plain plain⟩
  · have fixed : ('=' :: redactedUrlValue.toList).all fun c => decide (c ≠ '&' ∧ c ≠ '#' ∧ isUnsafe c = false) := rfl
    exact of_decide_eq_true (List.all_eq_true.mp fixed c rest)

theorem readField_redactedField (key : String) : readField (redactedField key) = (key, redactedUrlValue) := by
  have whole : '=' ∉ quote [] key.toList := by
    intro found
    rcases mem_quoteFromBytes found with safe | none | same
    · cases safe
    · cases none
    · cases same
  have value : unquotePlus redactedUrlValue.toList = redactedUrlValue.toList := by decide
  rw [readField, redactedField, cut_append whole, unquotePlus_quote, value, String.ofList_toList, String.ofList_toList]

theorem parseQsl_filteredQuery (query : String) :
    parseQsl (filteredQuery query) = (parseQsl query).map fun field => (field.1, redactedUrlValue) := by
  have whole : ∀ field ∈ (parseQsl query).map (fun field => redactedField field.1), '&' ∉ field ∧ field ≠ [] := by
    intro text found
    obtain ⟨field, _, rfl⟩ := List.mem_map.mp found
    refine ⟨fun amp => (mem_redactedField amp).1 rfl, ?_⟩
    rw [redactedField]
    simp
  rw [filteredQuery, parseQsl_fields fun field found => (whole field found).1,
    List.filter_eq_self.mpr fun field found => decide_eq_true (whole field found).2, List.map_map]
  exact List.map_congr_left fun field _ => readField_redactedField field.1

theorem filteredQuery_idem (query : String) : filteredQuery (filteredQuery query) = filteredQuery query := by
  rw [filteredQuery, parseQsl_filteredQuery, List.map_map]
  rfl

theorem mem_filteredQuery {query : String} {c : Char} (found : c ∈ (filteredQuery query).toList) :
    c ≠ '#' ∧ isUnsafe c = false := by
  rw [filteredQuery, String.toList_ofList] at found
  rcases mem_intercalate found with rfl | ⟨text, inside, found⟩
  · decide
  · obtain ⟨field, _, rfl⟩ := List.mem_map.mp inside
    exact (mem_redactedField found).2

theorem sanitizeUrl_split {url : String} {split : SplitUri} (splits : urlsplit checkNetloc url = some split)
    (web : split.scheme = "http" ∨ split.scheme = "https") (host : split.netloc ≠ "") :
    ∃ url' split', sanitizeUrl checkNetloc (some url) = .ok (some url') ∧ urlsplit checkNetloc url' = some split' ∧
      split'.scheme = split.scheme ∧ split'.netloc = split.netloc ∧ split'.path = split.path ∧
      split'.fragment = split.fragment ∧ (parseQsl split'.query).map Prod.fst = (parseQsl split.query).map Prod.fst ∧
      sanitizeUrl checkNetloc (some url') = .ok (some url') := by
  have isSplit := isSplit_of_urlsplit splits web host
  unfold sanitizeUrl
  simp only [splits]
  by_cases blank : split.query = ""
  · refine ⟨url, split, if_pos blank, splits, rfl, rfl, rfl, rfl, rfl, ?_⟩
    simp only [splits]
    exact if_pos blank
  · have written : IsSplit checkNetloc { split with query := filteredQuery split.query } := by
      refine { isSplit with query := fun found => (mem_filteredQuery found).1 rfl, clean := fun c found => ?_ }
      have clean := isSplit.clean c
      simp only [List.mem_append] at found clean
      rcases found with (parts | query) | fragment
      · exact clean (.inl (.inl parts))
      · exact (mem_filteredQuery query).2
      · exact clean (.inr fragment)
    refine ⟨_, _, if_neg blank, written.urlsplit_urlunsplit, rfl, rfl, rfl, rfl, ?_, ?_⟩
    · rw [parseQsl_filteredQuery, List.map_map]
      rfl
    · simp only [written.urlsplit_urlunsplit, filteredQuery_idem]
      split <;> rfl

theorem WebAddress.parts_web : ((address.parts query).scheme = "http" ∨ (address.parts query).scheme = "https") ∧
    (address.parts query).netloc ≠ "" := by
  constructor
  · rcases address.web with web | web
    · left
      rw [parts, web]
      rfl
    · right
      rw [parts, web]
      rfl
  · obtain ⟨c, found, safe⟩ := address.host
    rw [parts, ne_eq, String.ofList_eq_empty_iff]
    exact List.ne_nil_of_mem (mem_cleaned.mpr ⟨found, safe⟩)

theorem SameKey.symm {param param' : QueryParam} (same : SameKey param param') : SameKey param' param := by
  obtain ⟨key, equals | visible⟩ := same
  · exact ⟨key.symm, .inl equals.symm⟩
  · exact ⟨key.symm, .inr (key ▸ visible)⟩

theorem SameKeys.symm {query query' : List QueryParam} (same : SameKeys query query') : SameKeys query' query := by
  induction same with
  | nil => exact .nil
  | cons first _ ih => exact .cons first.symm ih

theorem SameKeys.url_of_nil {query query' : List QueryParam} (same : SameKeys query query')
    (empty : cleaned (queryText query) = []) : address.url query = address.url query' := by
  obtain ⟨none, text⟩ := same.queryText_of_nil empty
  rw [WebAddress.url, WebAddress.url, text]
  by_cases blank : query = []
  · rw [if_pos blank, if_pos (none.mp blank)]
  · rw [if_neg blank, if_neg (mt none.mpr blank)]

theorem SameKeys.filteredQuery {query query' : List QueryParam} (same : SameKeys query query') :
    filteredQuery (String.ofList (cleaned (queryText query))) =
      filteredQuery (String.ofList (cleaned (queryText query'))) := by
  have byKeys : ∀ q : String, OAuthClientBridge.filteredQuery q =
      String.ofList (['&'].intercalate (((parseQsl q).map Prod.fst).map redactedField)) := by
    intro q
    rw [List.map_map]
    rfl
  rw [byKeys, byKeys, parseQsl_keys, parseQsl_keys, same.decodedKeys]

/-- The values of a query do not show in the sanitized address, whose other parts and keys are kept. -/
theorem sanitizeUrl_hides {query query' : List QueryParam} (same : SameKeys query query') :
    sanitizeUrl checkNetloc (some (address.url query)) = sanitizeUrl checkNetloc (some (address.url query')) ∧
      ∀ split, urlsplit checkNetloc (address.url query) = some split →
        ∃ url' split', sanitizeUrl checkNetloc (some (address.url query)) = .ok (some url') ∧
          urlsplit checkNetloc url' = some split' ∧
          split'.scheme = split.scheme ∧ split'.netloc = split.netloc ∧ split'.path = split.path ∧
          split'.fragment = split.fragment ∧
          (parseQsl split.query).map Prod.fst = decodedKeys query ∧
          (parseQsl split'.query).map Prod.fst = decodedKeys query ∧
          sanitizeUrl checkNetloc (some url') = .ok (some url') := by
  have splits := @WebAddress.urlsplit_url address query checkNetloc
  have splits' := @WebAddress.urlsplit_url address query' checkNetloc
  constructor
  -- A query that is read as empty is copied, not rewritten; then both texts are the same.
  · by_cases empty : cleaned (queryText query) = []
    · rw [same.url_of_nil address empty]
    have empty' : cleaned (queryText query') ≠ [] := by
      intro nothing
      obtain ⟨_, text⟩ := same.symm.queryText_of_nil nothing
      exact empty (text ▸ nothing)
    split at splits
    · next accepted =>
      rw [if_pos accepted] at splits'
      have shown : (address.parts query).query ≠ "" := mt String.ofList_eq_empty_iff.mp empty
      have shown' : (address.parts query').query ≠ "" := mt String.ofList_eq_empty_iff.mp empty'
      have filtered : OAuthClientBridge.filteredQuery (address.parts query).query =
          OAuthClientBridge.filteredQuery (address.parts query').query := same.filteredQuery
      simp only [sanitizeUrl, splits, splits', if_neg shown, if_neg shown', filtered]
      rfl
    · next rejected =>
      rw [if_neg rejected] at splits'
      simp only [sanitizeUrl, splits, splits']
  · intro split reads
    have whole : split = address.parts query := by
      rw [splits] at reads
      split at reads
      · exact (Option.some_inj.mp reads).symm
      · cases reads
    subst whole
    obtain ⟨web, host⟩ := address.parts_web query
    obtain ⟨url', split', sanitized, splits', scheme, netloc, path, fragment, keys, again⟩ :=
      sanitizeUrl_split reads web host
    have decoded : (parseQsl (address.parts query).query).map Prod.fst = decodedKeys query := parseQsl_keys query
    exact ⟨url', split', sanitized, splits', scheme, netloc, path, fragment, decoded, keys.trans decoded, again⟩

namespace Sample

theorem forall_of_all {p : Char → Prop} [DecidablePred p] {s : List Char} (all : (s.all fun c => decide (p c)) = true) :
    ∀ c ∈ s, p c := fun c found => of_decide_eq_true (List.all_eq_true.mp all c found)

def returnAddress : WebAddress where
  scheme := "https"
  netloc := "bridge"
  path := "/callback"
  fragment := some "top"
  web := .inr rfl
  host := ⟨'b', List.mem_cons_self, rfl⟩
  netlocEnds := forall_of_all rfl
  rooted := by
    rintro _ ⟨⟩
    rfl
  pathEnds := forall_of_all rfl

def assigned (key value : String) (keyEnds : (key.toList.all fun c => decide (c ≠ '=' ∧ c ≠ '&' ∧ c ≠ '#')) = true := by rfl)
    (valueEnds : (value.toList.all fun c => decide (c ≠ '&' ∧ c ≠ '#')) = true := by rfl) : QueryParam where
  key := key
  value := some value
  keyEnds := forall_of_all keyEnds
  valueEnds := by
    rintro _ ⟨⟩
    exact forall_of_all valueEnds

def flag : QueryParam := ⟨"state", none, forall_of_all rfl, nofun⟩

def secretQuery : List QueryParam := [assigned "code" "a=b;\n%26", assigned "" "+", flag]

def emptyQuery : List QueryParam := [assigned "code" "", assigned "" "", assigned "state" "s"]

theorem secretQuery_same : SameKeys secretQuery emptyQuery :=
  .cons ⟨rfl, .inl rfl⟩ (.cons ⟨rfl, .inl rfl⟩ (.cons ⟨rfl, .inr ⟨'s', List.mem_cons_self, rfl⟩⟩ .nil))

end Sample

theorem sanitizeUrl_hides_code :
    sanitizeUrl (fun _ => true) (some (Sample.returnAddress.url Sample.secretQuery)) =
        sanitizeUrl (fun _ => true) (some (Sample.returnAddress.url Sample.emptyQuery)) ∧
      ∃ url' split', sanitizeUrl (fun _ => true) (some (Sample.returnAddress.url Sample.secretQuery)) = .ok (some url') ∧
        urlsplit (fun _ => true) url' = some split' ∧ split'.path = "/callback" ∧
        (parseQsl split'.query).map Prod.fst = ["code", "", "state"] := by
  obtain ⟨same, kept⟩ := @sanitizeUrl_hides Sample.returnAddress (fun _ => true) _ _ Sample.secretQuery_same
  have splits : urlsplit (fun _ => true) (Sample.returnAddress.url Sample.secretQuery) =
      some (Sample.returnAddress.parts Sample.secretQuery) :=
    (Sample.returnAddress.urlsplit_url Sample.secretQuery).trans (if_pos ⟨by decide, rfl⟩)
  obtain ⟨url', split', sanitized, splits', _, _, path, _, _, keys, _⟩ := kept _ splits
  exact ⟨same, url', split', sanitized, splits', path, keys.trans (by decide +kernel)⟩

end OAuthClientBridge
