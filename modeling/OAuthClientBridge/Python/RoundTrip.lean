import Mathlib.Data.List.TakeWhile
import OAuthClientBridge.Python.Urllib

/-! What `urllib.parse` wrote is read back: escapes, queries, and whole URIs. -/

namespace OAuthClientBridge.Python

/-! ### Escapes -/

theorem hexDigit?_hexDigits : ∀ d < 16, hexDigit? (hexDigits.getD d '0') = some d := by decide

theorem alwaysSafe_hexDigits : ∀ d < 16, alwaysSafe (hexDigits.getD d '0') = true := by decide

theorem hexToByte?_escape (b : UInt8) :
    hexToByte? (hexDigits.getD (b.toNat / 16) '0') (hexDigits.getD (b.toNat % 16) '0') = some b := by
  have below := b.toNat_lt
  rw [hexToByte?, hexDigit?_hexDigits _ (by omega), hexDigit?_hexDigits _ (by omega)]
  have whole : 16 * (b.toNat / 16) + b.toNat % 16 = b.toNat := by omega
  exact congrArg some ((congrArg UInt8.ofNat whole).trans UInt8.ofNat_toNat)

theorem unquoteImpl_cons {c : Char} (plain : c ≠ '%') (rest : List Char) :
    unquoteImpl (c :: rest) = String.utf8EncodeChar c ++ unquoteImpl rest := by
  rw [unquoteImpl]
  rintro a b rest' rfl
  exact absurd rfl plain

theorem unquoteImpl_escape (b : UInt8) (rest : List Char) : unquoteImpl (escape b ++ rest) = b :: unquoteImpl rest := by
  simp only [escape, List.cons_append, List.nil_append, unquoteImpl, hexToByte?_escape]

theorem unquoteImpl_plain {s : List Char} (plain : '%' ∉ s) : unquoteImpl s = encodeUtf8 s := by
  induction s with
  | nil => rfl
  | cons c s ih =>
    obtain ⟨first, rest⟩ := not_or.mp (mt List.mem_cons.mpr plain)
    rw [unquoteImpl_cons (Ne.symm first), encodeUtf8_cons, ih rest]

theorem unquoteImpl_quoteFromBytes {safe : List Char} (percent : '%' ∉ safe) (bs : Bytes) :
    unquoteImpl (quoteFromBytes safe bs) = bs := by
  induction bs with
  | nil => rfl
  | cons b bs ih =>
    rw [quoteFromBytes, List.flatMap_cons, ← quoteFromBytes]
    unfold quoteByte
    split
    · next kept =>
      have plain : Char.ofNat b.toNat ≠ '%' := by
        intro same
        rw [same] at kept
        rcases kept.2 with safe | safe
        · cases safe
        · exact percent safe
      rw [List.singleton_append, unquoteImpl_cons plain, utf8EncodeChar_ascii kept.1, ih]
      rfl
    · rw [unquoteImpl_escape, ih]

theorem mem_quoteFromBytes {safe : List Char} {bs : Bytes} {c : Char} (found : c ∈ quoteFromBytes safe bs) :
    alwaysSafe c = true ∨ c ∈ safe ∨ c = '%' := by
  obtain ⟨b, _, found⟩ := List.mem_flatMap.mp found
  have below := b.toNat_lt
  unfold quoteByte at found
  split at found
  · next kept =>
    obtain rfl := List.mem_singleton.mp found
    obtain ⟨_, safe | safe⟩ := kept
    · exact .inl safe
    · exact .inr (.inl safe)
  · simp only [escape, List.mem_cons, List.not_mem_nil, or_false] at found
    rcases found with rfl | rfl | rfl
    · exact .inr (.inr rfl)
    · exact .inl (alwaysSafe_hexDigits _ (by omega))
    · exact .inl (alwaysSafe_hexDigits _ (by omega))

theorem unquote_ascii {s : List Char} (ascii : ∀ c ∈ s, isAsciiChar c = true) : unquote s = decodeUtf8 (unquoteImpl s) := by
  unfold unquote
  split
  · next plain => rw [unquoteImpl_plain plain, decodeUtf8_encodeUtf8]
  · next escaped =>
    have one : s.splitBy (fun a b => isAsciiChar a == isAsciiChar b) = [s] := by
      apply List.splitBy_of_isChain
      · rintro rfl
        exact escaped nofun
      · apply List.Pairwise.isChain
        exact List.pairwise_of_forall_mem_list fun a ha b hb => by rw [ascii a ha, ascii b hb]; rfl
    rw [one, List.flatMap_singleton, if_pos (List.all_eq_true.mpr ascii)]

def isQuoted (c : Char) : Bool := alwaysSafe c || c == '+' || c == '%'

theorem mem_quotePlus {s : List Char} {c : Char} (found : c ∈ quotePlus s) : isQuoted c = true := by
  obtain ⟨c, quoted, rfl⟩ := List.mem_map.mp found
  split
  · rfl
  · next visible =>
    rcases mem_quoteFromBytes quoted with safe | space | rfl
    · simp [isQuoted, safe]
    · exact absurd (List.mem_singleton.mp space) visible
    · rfl

theorem isQuoted_ne {c d : Char} (quoted : isQuoted c = true) (reserved : isQuoted d = false) : c ≠ d := by
  rintro rfl
  rw [quoted] at reserved
  cases reserved

theorem alwaysSafe_ascii {c : Char} (safe : alwaysSafe c = true) : isAsciiChar c = true := by
  delta alwaysSafe Char.isAlphanum Char.isAlpha Char.isUpper Char.isLower Char.isDigit at safe
  simp only [Bool.or_eq_true, Bool.and_eq_true, decide_eq_true_eq, List.contains_eq_mem, ge_iff_le, UInt32.le_iff_toNat_le] at safe
  rw [isAsciiChar, decide_eq_true_eq, Char.toNat]
  rcases safe with ((⟨_, upper⟩ | ⟨_, lower⟩) | ⟨_, digit⟩) | mark
  · exact Nat.lt_of_le_of_lt upper (by decide)
  · exact Nat.lt_of_le_of_lt lower (by decide)
  · exact Nat.lt_of_le_of_lt digit (by decide)
  · simp only [List.mem_cons, List.not_mem_nil, or_false] at mark
    obtain rfl | rfl | rfl | rfl := mark <;> decide

theorem unquote_quote {safe : List Char} (percent : '%' ∉ safe) (ascii : ∀ c ∈ safe, isAsciiChar c = true) (s : List Char) :
    unquote (quote safe s) = s := by
  have quoted : ∀ c ∈ quote safe s, isAsciiChar c = true := by
    intro c found
    rcases mem_quoteFromBytes found with plain | kept | rfl
    · exact alwaysSafe_ascii plain
    · exact ascii c kept
    · rfl
  rw [unquote_ascii quoted, quote, unquoteImpl_quoteFromBytes percent, decodeUtf8_encodeUtf8]

theorem plus_quote {safe : List Char} (plus : '+' ∉ safe) (s : List Char) : '+' ∉ quote safe s := by
  intro found
  rcases mem_quoteFromBytes found with plain | kept | same
  · cases plain
  · exact plus kept
  · cases same

@[simp] theorem unquotePlus_quotePlus (s : List Char) : unquotePlus (quotePlus s) = s := by
  have plus : (quotePlus s).map (fun c => if c = '+' then ' ' else c) = quote [' '] s := by
    rw [quotePlus, List.map_map]
    refine (List.map_congr_left fun c quoted => ?_).trans (List.map_id _)
    rw [Function.comp_apply]
    by_cases space : c = ' '
    · rw [if_pos space, if_pos rfl]
      exact space.symm
    · have literal : c ≠ '+' := by
        rintro rfl
        exact plus_quote (by decide) s quoted
      rw [if_neg space, if_neg literal]
      rfl
  rw [unquotePlus, plus, unquote_quote (by decide) (List.forall_mem_singleton.mpr rfl)]

theorem unquotePlus_quote (s : List Char) : unquotePlus (quote [] s) = s := by
  have literal : (quote [] s).map (fun c => if c = '+' then ' ' else c) = quote [] s := by
    refine (List.map_congr_left fun c quoted => ?_).trans (List.map_id _)
    apply if_neg
    rintro rfl
    exact plus_quote List.not_mem_nil s quoted
  rw [unquotePlus, literal, unquote_quote List.not_mem_nil nofun]

/-! ### Queries -/

theorem cut_append {sep : Char} {s : List Char} (absent : sep ∉ s) (t : List Char) : cut sep (s ++ sep :: t) = (s, t) := by
  have passes : ∀ c ∈ s, decide (c ≠ sep) = true := by
    intro c found
    exact decide_eq_true fun same => absent (same ▸ found)
  rw [cut, List.takeWhile_append_of_pos passes, List.dropWhile_append_of_pos passes]
  simp

theorem cut_absent {sep : Char} {s : List Char} (absent : sep ∉ s) : cut sep s = (s, []) := by
  have passes : ∀ c ∈ s, decide (c ≠ sep) = true := by
    intro c found
    exact decide_eq_true fun same => absent (same ▸ found)
  rw [cut, List.takeWhile_eq_self_iff.mpr passes, List.dropWhile_eq_nil_iff.mpr passes]
  rfl

theorem not_mem_quotePlus {s : List Char} {c : Char} (reserved : isQuoted c = false) : c ∉ quotePlus s :=
  fun found => isQuoted_ne (mem_quotePlus found) reserved rfl

theorem not_mem_urlencodeField {c : Char} (reserved : isQuoted c = false) (equals : c ≠ '=') (field : String × String) :
    c ∉ urlencodeField field := by
  intro found
  rcases List.mem_append.mp found with name | value
  · exact not_mem_quotePlus reserved name
  · rcases List.mem_cons.mp value with same | value
    · exact equals same
    · exact not_mem_quotePlus reserved value

theorem mem_intercalate {sep c : Char} {fields : List (List Char)} (found : c ∈ [sep].intercalate fields) :
    c = sep ∨ ∃ field ∈ fields, c ∈ field := by
  induction fields with
  | nil => cases found
  | cons field fields ih =>
    cases fields with
    | nil =>
      rw [List.intercalate_singleton] at found
      exact .inr ⟨field, List.mem_cons_self, found⟩
    | cons next fields =>
      rw [List.intercalate_cons_cons, List.append_assoc] at found
      rcases List.mem_append.mp found with inside | rest
      · exact .inr ⟨field, List.mem_cons_self, inside⟩
      rcases List.mem_cons.mp rest with same | later
      · exact .inl same
      rcases ih later with same | ⟨other, listed, inside⟩
      · exact .inl same
      · exact .inr ⟨other, List.mem_cons_of_mem _ listed, inside⟩

/-- One field of a query as `parse_qsl` reads it. -/
def readField (field : List Char) : String × String :=
  (String.ofList (unquotePlus (cut '=' field).1), String.ofList (unquotePlus (cut '=' field).2))

theorem parseQsl_fields {fields : List (List Char)} (whole : ∀ field ∈ fields, '&' ∉ field) :
    parseQsl (String.ofList (['&'].intercalate fields)) = (fields.filter (· ≠ [])).map readField := by
  rw [parseQsl, String.toList_ofList, splitOn]
  cases fields with
  | nil => rfl
  | cons field fields =>
    rw [List.splitOn_intercalate _ whole (List.cons_ne_nil _ _)]
    rfl

theorem parseQsl_urlencode (fields : List (String × String)) : parseQsl (urlencode fields) = fields := by
  have read : ∀ field : String × String, readField (urlencodeField field) = field := by
    intro field
    rw [readField, urlencodeField, cut_append (not_mem_quotePlus (by decide)), unquotePlus_quotePlus,
      unquotePlus_quotePlus, String.ofList_toList, String.ofList_toList]
  have whole : ∀ field ∈ fields.map urlencodeField, '&' ∉ field ∧ field ≠ [] := by
    intro l found
    obtain ⟨field, _, rfl⟩ := List.mem_map.mp found
    exact ⟨not_mem_urlencodeField (by decide) (by decide) field, by simp [urlencodeField]⟩
  rw [urlencode, parseQsl_fields fun field found => (whole field found).1,
    List.filter_eq_self.mpr fun field found => decide_eq_true (whole field found).2, List.map_map]
  exact (List.map_congr_left fun field _ => read field).trans (List.map_id _)

theorem isQuoted_plain {c : Char} (quoted : isQuoted c = true) : c ≠ '#' ∧ isUnsafe c = false := by
  refine ⟨isQuoted_ne quoted rfl, ?_⟩
  simp [isUnsafe, isQuoted_ne quoted (d := '\t') rfl, isQuoted_ne quoted (d := '\r') rfl,
    isQuoted_ne quoted (d := '\n') rfl]

theorem urlencodeField_plain {field : String × String} {c : Char} (found : c ∈ urlencodeField field) :
    c ≠ '#' ∧ isUnsafe c = false := by
  rcases List.mem_append.mp found with name | rest
  · exact isQuoted_plain (mem_quotePlus name)
  · obtain rfl | value := List.mem_cons.mp rest
    · decide
    · exact isQuoted_plain (mem_quotePlus value)

theorem urlencode_plain {fields : List (String × String)} {c : Char} (found : c ∈ (urlencode fields).toList) :
    c ≠ '#' ∧ isUnsafe c = false := by
  rw [urlencode, String.toList_ofList] at found
  rcases mem_intercalate found with rfl | ⟨text, inside, found⟩
  · decide
  · obtain ⟨field, _, rfl⟩ := List.mem_map.mp inside
    exact urlencodeField_plain found

/-- What `parse_qs` returns: distinct names, each with a value. -/
structure IsDict (dict : List (String × List String)) : Prop where
  names : (dict.map Prod.fst).Nodup
  values : ∀ entry ∈ dict, entry.2 ≠ []

/-- The fields of a dictionary, the values of each name in a row. -/
def fieldsOf (dict : List (String × List String)) : List (String × String) :=
  dict.flatMap fun entry => entry.2.map fun value => (entry.1, value)

theorem addValue_new {dict : List (String × List String)} {name : String} (new : name ∉ dict.map Prod.fst)
    (value : String) : addValue dict (name, value) = dict ++ [(name, [value])] := by
  rw [addValue, if_neg]
  intro known
  obtain ⟨entry, found, same⟩ := List.any_eq_true.mp known
  exact new (List.mem_map.mpr ⟨entry, found, of_decide_eq_true same⟩)

theorem addValue_last {dict : List (String × List String)} {name : String} (new : name ∉ dict.map Prod.fst)
    (values : List String) (value : String) :
    addValue (dict ++ [(name, values)]) (name, value) = dict ++ [(name, values ++ [value])] := by
  have others : dict.map (fun entry => if entry.1 = name then (entry.1, entry.2 ++ [value]) else entry) = dict := by
    refine (List.map_congr_left fun entry found => if_neg fun same => ?_).trans (List.map_id dict)
    exact new (List.mem_map.mpr ⟨entry, found, same⟩)
  rw [addValue, if_pos (by simp)]
  simp [others]

theorem foldl_addValue_row {dict : List (String × List String)} {name : String} (new : name ∉ dict.map Prod.fst)
    (values more : List String) :
    (more.map fun value => (name, value)).foldl addValue (dict ++ [(name, values)]) = dict ++ [(name, values ++ more)] := by
  induction more generalizing values with
  | nil => simp
  | cons value more ih =>
    rw [List.map_cons, List.foldl_cons, addValue_last new, ih, List.append_assoc]
    rfl

theorem foldl_addValue_fieldsOf (before dict : List (String × List String)) (isDict : IsDict (before ++ dict)) :
    (fieldsOf dict).foldl addValue before = before ++ dict := by
  induction dict generalizing before with
  | nil => simp [fieldsOf]
  | cons entry dict ih =>
    obtain ⟨name, values⟩ := entry
    have new : name ∉ before.map Prod.fst := by
      have names := isDict.names
      rw [List.map_append, List.nodup_append] at names
      exact fun known => names.2.2 name known name (by simp) rfl
    cases values with
    | nil => exact absurd rfl (isDict.values (name, []) (by simp))
    | cons value values =>
      have whole : before ++ [(name, value :: values)] ++ dict = before ++ (name, value :: values) :: dict := by simp
      have rest := ih (before ++ [(name, value :: values)]) (whole ▸ isDict)
      rw [← whole, ← rest]
      simp only [fieldsOf, List.flatMap_cons, List.map_cons, List.foldl_append, List.foldl_cons]
      rw [addValue_new new, foldl_addValue_row new]
      rfl

/-- A dictionary is read back from the query that was made of it. -/
theorem parseQs_urlencode {dict : List (String × List String)} (isDict : IsDict dict) :
    parseQs (urlencode (fieldsOf dict)) = dict := by
  rw [parseQs, parseQsl_urlencode, foldl_addValue_fieldsOf [] dict isDict, List.nil_append]

theorem IsDict.change {dict : List (String × List String)} (isDict : IsDict dict) (name : String)
    {f : List String → List String} (values : ∀ old, f old ≠ []) :
    IsDict (dict.map fun entry => if entry.1 = name then (entry.1, f entry.2) else entry) where
  names := by
    have same : (Prod.fst ∘ fun entry : String × List String => if entry.1 = name then (entry.1, f entry.2) else entry) =
        Prod.fst := by
      funext entry
      rw [Function.comp_apply]
      split <;> rfl
    rw [List.map_map, same]
    exact isDict.names
  values entry changed := by
    obtain ⟨old, found, rfl⟩ := List.mem_map.mp changed
    split
    · exact values _
    · exact isDict.values old found

theorem IsDict.snoc {dict : List (String × List String)} (isDict : IsDict dict) {name : String}
    (new : dict.any (·.1 = name) = false) (value : String) : IsDict (dict ++ [(name, [value])]) where
  names := by
    rw [List.map_append, List.nodup_append]
    refine ⟨isDict.names, List.pairwise_singleton _ _, fun known found other last same => ?_⟩
    obtain rfl : other = name := List.mem_singleton.mp last
    obtain ⟨entry, found, key⟩ := List.mem_map.mp found
    simpa [key.trans same] using List.any_eq_false.mp new entry found
  values entry found := by
    obtain before | last := List.mem_append.mp found
    · exact isDict.values entry before
    · rw [List.mem_singleton.mp last]
      exact List.cons_ne_nil _ _

theorem IsDict.addValue {dict : List (String × List String)} (isDict : IsDict dict) (field : String × String) :
    IsDict (addValue dict field) := by
  unfold Python.addValue
  split
  · exact isDict.change field.1 (f := (· ++ [field.2])) fun old => by simp
  · next new => exact isDict.snoc (Bool.not_eq_true _ ▸ new) field.2

theorem isDict_parseQs (qs : String) : IsDict (parseQs qs) := by
  rw [parseQs]
  generalize parseQsl qs = fields
  suffices grows : ∀ dict, IsDict dict → IsDict (fields.foldl Python.addValue dict) from
    grows [] ⟨List.nodup_nil, nofun⟩
  induction fields with
  | nil => exact fun dict isDict => isDict
  | cons field fields ih => exact fun dict isDict => ih _ (isDict.addValue field)

/-! ### URIs -/

/-- A part of a URI behind its delimiter, left out when it is empty. -/
def part (sep : Char) (s : List Char) : List Char := if s = [] then [] else sep :: s

theorem cut_part {sep : Char} {s : List Char} (absent : sep ∉ s) (t : List Char) : cut sep (s ++ part sep t) = (s, t) := by
  unfold part
  split
  · next empty => rw [List.append_nil, cut_absent absent, empty]
  · exact cut_append absent t

/-- The parts of an absolute web address as `urlsplit` makes them. -/
structure IsSplit (checkNetloc : String → Bool) (split : SplitUri) : Prop where
  scheme : split.scheme = "http" ∨ split.scheme = "https"
  netloc : ∀ c ∈ split.netloc.toList, endsNetloc c = false
  host : split.netloc ≠ ""
  accepted : ('[' ∈ split.netloc.toList ↔ ']' ∈ split.netloc.toList) ∧ checkNetloc split.netloc = true
  path : ∀ c ∈ split.path.toList, c ≠ '#' ∧ c ≠ '?'
  rooted : ∀ c ∈ split.path.toList.head?, c = '/'
  query : '#' ∉ split.query.toList
  clean : ∀ c ∈ split.netloc.toList ++ split.path.toList ++ split.query.toList ++ split.fragment.toList, isUnsafe c = false

variable {checkNetloc : String → Bool} {split : SplitUri} {url : String}

theorem toList_ne_nil {s : String} (nonempty : s ≠ "") : s.toList ≠ [] :=
  fun empty => nonempty (String.toList_eq_nil_iff.mp empty)

theorem part_toList (sep : Char) (s : String) (url : List Char) :
    (if s ≠ "" then url ++ sep :: s.toList else url) = url ++ part sep s.toList := by
  unfold part
  by_cases empty : s = ""
  · subst empty
    simp
  · rw [if_pos empty, if_neg (toList_ne_nil empty)]

theorem IsSplit.urlunsplit (isSplit : IsSplit checkNetloc split) : (urlunsplit split).toList =
    split.scheme.toList ++ ':' :: '/' :: '/' :: (split.netloc.toList ++
      (split.path.toList ++ part '?' split.query.toList ++ part '#' split.fragment.toList)) := by
  have scheme : split.scheme ≠ "" := by
    obtain scheme | scheme := isSplit.scheme <;> rw [scheme] <;> decide
  have path : ¬ (split.path.toList ≠ [] ∧ split.path.toList.head? ≠ some '/') := by
    rintro ⟨nonempty, unrooted⟩
    obtain ⟨c, first⟩ := Option.ne_none_iff_exists'.mp (mt List.head?_eq_none_iff.mp nonempty)
    exact unrooted (first.trans (congrArg some (isSplit.rooted c first)))
  simp only [Python.urlunsplit, if_pos (Or.inl isSplit.host), if_neg path, if_pos scheme, part_toList,
    String.toList_ofList]
  simp [List.append_assoc]

theorem splitScheme_web {scheme : String} (web : scheme = "http" ∨ scheme = "https") (rest : List Char) :
    splitScheme (scheme.toList ++ ':' :: rest) = (scheme.toList, rest) := by
  obtain rfl | rfl := web <;> rfl

theorem splitNetloc_append {netloc rest : List Char} (inside : ∀ c ∈ netloc, endsNetloc c = false)
    (ends : ∀ c ∈ rest.head?, endsNetloc c = true) : splitNetloc ('/' :: '/' :: (netloc ++ rest)) = (netloc, rest) := by
  have passes : ∀ c ∈ netloc, (!endsNetloc c) = true := fun c found => by rw [inside c found]; rfl
  rw [splitNetloc, List.takeWhile_append_of_pos passes, List.dropWhile_append_of_pos passes]
  cases rest with
  | nil => simp
  | cons c rest => simp [ends c rfl]

theorem part_clean {sep : Char} {s : List Char} (sepClean : isUnsafe sep = false) (clean : ∀ c ∈ s, isUnsafe c = false) :
    ∀ c ∈ part sep s, isUnsafe c = false := by
  intro c found
  unfold part at found
  split at found
  · cases found
  · obtain rfl | found := List.mem_cons.mp found
    · exact sepClean
    · exact clean c found

theorem IsSplit.stripped (isSplit : IsSplit checkNetloc split) :
    ((Python.urlunsplit split).toList.dropWhile isC0OrSpace).filter (!isUnsafe ·) = (Python.urlunsplit split).toList := by
  have front : (Python.urlunsplit split).toList.dropWhile isC0OrSpace = (Python.urlunsplit split).toList := by
    rw [isSplit.urlunsplit]
    obtain scheme | scheme := isSplit.scheme <;> rw [scheme] <;> rfl
  have web : split.scheme.toList.all (!isUnsafe ·) = true := by
    obtain scheme | scheme := isSplit.scheme <;> rw [scheme] <;> rfl
  rw [front, List.filter_eq_self, isSplit.urlunsplit]
  have clean := isSplit.clean
  simp only [List.mem_append] at clean
  intro c found
  rcases List.mem_append.mp found with scheme | rest
  · exact List.all_eq_true.mp web c scheme
  · rw [Bool.not_eq_true']
    simp only [List.mem_cons, List.mem_append] at rest
    rcases rest with rfl | rfl | rfl | netloc | (path | query) | fragment
    · rfl
    · rfl
    · rfl
    · exact clean c (.inl (.inl (.inl netloc)))
    · exact clean c (.inl (.inl (.inr path)))
    · exact part_clean rfl (fun c found => clean c (.inl (.inr found))) c query
    · exact part_clean rfl (fun c found => clean c (.inr found)) c fragment

/-- The parts of a web address are read back from the address that was made of them. -/
theorem IsSplit.urlsplit_urlunsplit (isSplit : IsSplit checkNetloc split) :
    urlsplit checkNetloc (Python.urlunsplit split) = some split := by
  -- What follows the host starts with a delimiter, so `urlsplit` ends the host where it ended.
  have ends : ∀ c ∈ (split.path.toList ++ part '?' split.query.toList ++ part '#' split.fragment.toList).head?,
      endsNetloc c = true := by
    intro c first
    have rooted := isSplit.rooted c
    revert first
    revert rooted
    cases split.path.toList with
    | cons d path =>
      intro rooted first
      obtain rfl : d = c := Option.some_inj.mp first
      rw [rooted rfl]
      rfl
    | nil =>
      intro _
      unfold part
      split
      · split
        · exact nofun
        · rintro ⟨⟩
          rfl
      · rintro ⟨⟩
        rfl
  have fragment : '#' ∉ split.path.toList ++ part '?' split.query.toList := by
    intro found
    rcases List.mem_append.mp found with path | query
    · exact (isSplit.path _ path).1 rfl
    · unfold part at query
      split at query
      · cases query
      · rcases List.mem_cons.mp query with same | query
        · cases same
        · exact isSplit.query query
  have query : '?' ∉ split.path.toList := fun found => (isSplit.path _ found).2 rfl
  rw [urlsplit, isSplit.stripped, isSplit.urlunsplit]
  simp only [splitScheme_web isSplit.scheme, splitNetloc_append isSplit.netloc ends, cut_part fragment, cut_part query,
    String.ofList_toList]
  exact if_pos ⟨isSplit.accepted.1, .inr isSplit.accepted.2⟩

theorem mem_cut_fst {sep c : Char} {s : List Char} (found : c ∈ (cut sep s).1) : c ∈ s ∧ c ≠ sep :=
  ⟨(List.takeWhile_prefix _).subset found, by simpa using List.mem_takeWhile_imp (p := (· ≠ sep)) found⟩

theorem mem_cut_snd {sep c : Char} {s : List Char} (found : c ∈ (cut sep s).2) : c ∈ s :=
  (List.dropWhile_suffix _).subset (List.mem_of_mem_drop found)

theorem head_cut {sep c : Char} {s : List Char} (first : c ∈ (cut sep s).1.head?) : c ∈ s.head? := by
  cases s with
  | nil => cases first
  | cons d s =>
    rw [cut, List.takeWhile_cons] at first
    split at first
    · exact first
    · cases first

theorem splitScheme_subset (url : List Char) : ∀ c ∈ (splitScheme url).2, c ∈ url := by
  intro c found
  unfold splitScheme at found
  split at found
  · next rest _ after =>
    split at found
    · exact (List.dropWhile_suffix _).subset (after ▸ List.mem_cons_of_mem _ found)
    · exact found
  · exact found

theorem splitNetloc_spec (url : List Char) (host : (splitNetloc url).1 ≠ []) :
    (∀ c ∈ (splitNetloc url).1, c ∈ url ∧ endsNetloc c = false) ∧ (∀ c ∈ (splitNetloc url).2, c ∈ url) ∧
      ∀ c ∈ (splitNetloc url).2.head?, endsNetloc c = true := by
  revert host
  unfold splitNetloc
  split
  · next rest =>
    intro _
    refine ⟨fun c found => ⟨?_, ?_⟩, fun c found => ?_, fun c first => ?_⟩
    · exact List.mem_cons_of_mem _ (List.mem_cons_of_mem _ ((List.takeWhile_prefix _).subset found))
    · simpa using List.mem_takeWhile_imp found
    · exact List.mem_cons_of_mem _ (List.mem_cons_of_mem _ ((List.dropWhile_suffix _).subset found))
    · have stops := List.head?_dropWhile_not (fun c => !endsNetloc c) rest
      rw [Option.mem_def.mp first] at stops
      simpa using stops
  · exact fun host => absurd rfl host

theorem isSplit_of_urlsplit (splits : urlsplit checkNetloc url = some split)
    (web : split.scheme = "http" ∨ split.scheme = "https") (host : split.netloc ≠ "") : IsSplit checkNetloc split := by
  simp only [urlsplit] at splits
  generalize stripped : (url.toList.dropWhile isC0OrSpace).filter (!isUnsafe ·) = text at splits
  have clean : ∀ c ∈ text, isUnsafe c = false := by
    intro c found
    rw [← stripped] at found
    simpa using (List.mem_filter.mp found).2
  have inText := splitScheme_subset text
  generalize (splitScheme text).1 = scheme, (splitScheme text).2 = rest at splits inText
  split at splits
  · next accepted =>
    cases splits
    simp only [ne_eq, String.ofList_eq_empty_iff] at host
    obtain ⟨netloc, after, ends⟩ := splitNetloc_spec rest host
    refine ⟨web, ?_, ?_, ?_, ?_, ?_, ?_, ?_⟩ <;> simp only [String.toList_ofList]
    · exact fun c found => (netloc c found).2
    · simpa using host
    · exact ⟨accepted.1, accepted.2.resolve_left host⟩
    · intro c found
      obtain ⟨found, question⟩ := mem_cut_fst found
      exact ⟨(mem_cut_fst found).2, question⟩
    · intro c first
      have last := ends c (head_cut (head_cut first))
      obtain ⟨found, question⟩ := mem_cut_fst (List.mem_of_mem_head? first)
      have hash := (mem_cut_fst found).2
      simpa [endsNetloc, question, hash] using last
    · exact fun found => (mem_cut_fst (mem_cut_snd found)).2 rfl
    · intro c found
      simp only [List.mem_append] at found
      apply clean c ∘ inText c
      rcases found with ((host | path) | query) | fragment
      · exact (netloc c host).1
      · exact after c (mem_cut_fst (mem_cut_fst path).1).1
      · exact after c (mem_cut_fst (mem_cut_snd query)).1
      · exact after c (mem_cut_snd fragment)
  · cases splits

def queryOf (uri : String) : String := String.ofList (cut '?' (cut '#' uri.toList).1).2

def isDelimiter (c : Char) : Bool := c == '#' || c == '?'

theorem toLower_delimiter {c : Char} (scheme : isSchemeChar c = true) : isDelimiter c.toLower = false := by
  unfold Char.toLower
  split
  · next upper =>
    obtain ⟨low, high⟩ : 65 ≤ c.val.toNat ∧ c.val.toNat ≤ 90 := upper
    have value : (c.val + ('a'.val - 'A'.val)).toNat = c.val.toNat + 32 := by
      rw [UInt32.toNat_add, show ('a'.val - 'A'.val).toNat = 32 from rfl, Nat.mod_eq_of_lt (by omega)]
    rw [isDelimiter, Bool.or_eq_false_iff, beq_eq_false_iff_ne, beq_eq_false_iff_ne]
    constructor
    all_goals
      intro same
      have code := congrArg (fun c : Char => c.val.toNat) same
      simp only [value] at code
      have small : c.val.toNat + 32 ≤ 63 := code.trans_le (by decide)
      omega
  · rw [isDelimiter, Bool.or_eq_false_iff, beq_eq_false_iff_ne, beq_eq_false_iff_ne]
    constructor
    all_goals
      rintro rfl
      cases scheme

theorem urlsplit_front (splits : urlsplit checkNetloc url = some split) :
    ∀ c ∈ split.scheme.toList ++ split.netloc.toList ++ split.path.toList, isDelimiter c = false := by
  simp only [urlsplit] at splits
  generalize (url.toList.dropWhile isC0OrSpace).filter (!isUnsafe ·) = text at splits
  split at splits
  · cases splits
    intro c found
    simp only [String.toList_ofList, List.mem_append] at found
    rcases found with (scheme | netloc) | path
    · unfold splitScheme at scheme
      split at scheme
      · split at scheme
        · next accepted =>
          obtain ⟨d, inside, rfl⟩ := List.mem_map.mp scheme
          exact toLower_delimiter (List.all_eq_true.mp accepted.2 d inside)
        · cases scheme
      · cases scheme
    · have inside := (splitNetloc_spec _ (List.ne_nil_of_mem netloc)).1 c netloc
      simp only [endsNetloc, List.contains_eq_mem, List.mem_cons, List.not_mem_nil, or_false, decide_eq_false_iff_not,
        not_or] at inside
      simp [isDelimiter, inside.2.2.1, inside.2.2.2]
    · obtain ⟨inside, question⟩ := mem_cut_fst path
      simp [isDelimiter, question, (mem_cut_fst inside).2]
  · cases splits

theorem queryOf_urlunsplit {query : String}
    (front : ∀ c ∈ split.scheme.toList ++ split.netloc.toList ++ split.path.toList, isDelimiter c = false)
    (plain : '#' ∉ query.toList) : queryOf (urlunsplit { split with query }) = query := by
  have written : ∃ url, (∀ c ∈ url, isDelimiter c = false) ∧ (urlunsplit { split with query }).toList =
      url ++ part '?' query.toList ++ part '#' split.fragment.toList := by
    simp only [urlunsplit, part_toList, String.toList_ofList]
    refine ⟨_, fun c found => ?_, rfl⟩
    have inside := front c
    simp only [List.mem_append] at inside
    have parts : c ∈ split.scheme.toList ∨ c ∈ split.netloc.toList ∨ c ∈ split.path.toList ∨ c = ':' ∨ c = '/' := by
      split_ifs at found <;> grind
    rcases parts with scheme | netloc | path | rfl | rfl
    · exact inside (.inl (.inl scheme))
    · exact inside (.inl (.inr netloc))
    · exact inside (.inr path)
    · rfl
    · rfl
  obtain ⟨url, undelimited, whole⟩ := written
  have fragment : '#' ∉ url ++ part '?' query.toList := by
    intro found
    rcases List.mem_append.mp found with url | rest
    · cases undelimited _ url
    · unfold part at rest
      split at rest
      · cases rest
      · rcases List.mem_cons.mp rest with same | inside
        · cases same
        · exact plain inside
  have path : '?' ∉ url := fun found => by cases undelimited _ found
  rw [queryOf, whole, cut_part fragment, cut_part path, String.ofList_toList]

end OAuthClientBridge.Python
