import Mathlib.Data.Set.Card
import OAuthClientBridge.Db.Sqlite
import OAuthClientBridge.Effect.Labelled

/-! What the statements of `db.py` do to a finite map from client ids to rows. -/

namespace OAuthClientBridge
open Python Effect

/-! ### The key of a row -/

theorem digitChar_ne_dash : ∀ d < 16, Nat.digitChar d ≠ '-' := by decide

theorem digitChar_injective : ∀ d < 16, ∀ d' < 16, Nat.digitChar d = Nat.digitChar d' → d = d' := by decide

theorem eq_of_digits {n x y : Nat} (hx : x < 16 ^ n) (hy : y < 16 ^ n)
    (same : ∀ j < n, x / 16 ^ j % 16 = y / 16 ^ j % 16) : x = y := by
  induction n generalizing x y with
  | zero => omega
  | succ n ih =>
    have rest : x / 16 = y / 16 := by
      apply ih
      · rw [pow_succ] at hx
        omega
      · rw [pow_succ] at hy
        omega
      · intro j below
        have := same (j + 1) (by omega)
        rwa [pow_succ', ← Nat.div_div_eq_div_mul, ← Nat.div_div_eq_div_mul] at this
    have last := same 0 (by omega)
    rw [pow_zero, Nat.div_one, Nat.div_one] at last
    omega

theorem ClientId.str_injective : Function.Injective ClientId.str := by
  -- Without its dashes the text is the 32 hexadecimal digits of the value.
  have hex : ∀ id : ClientId, id.str.toList.filter (· ≠ '-') =
      (List.range 32).map fun i => Nat.digitChar (id.uuid.toNat / 16 ^ (31 - i) % 16) := by
    intro id
    unfold ClientId.str
    generalize digits : ((List.range 32).map fun i => Nat.digitChar (id.uuid.toNat / 16 ^ (31 - i) % 16)) = hex
    have dashless : hex.filter (· ≠ '-') = hex := by
      rw [List.filter_eq_self, ← digits]
      intro c found
      obtain ⟨i, _, rfl⟩ := List.mem_map.mp found
      exact decide_eq_true (digitChar_ne_dash _ (Nat.mod_lt _ (by decide)))
    have pieces : hex = hex.take 8 ++ (hex.drop 8).take 4 ++ (hex.drop 12).take 4 ++ (hex.drop 16).take 4 ++
        hex.drop 20 := by
      have joins : ∀ n k : Nat, (hex.drop n).take k ++ hex.drop (n + k) = hex.drop n := by
        intro n k
        rw [← List.drop_drop, List.take_append_drop]
      rw [List.append_assoc, joins 16 4, List.append_assoc, joins 12 4, List.append_assoc, joins 8 4,
        List.take_append_drop]
    rw [String.toList_ofList]
    conv_rhs => rw [← dashless, pieces]
    simp [List.filter_append]
  intro id id' same
  have digits := (hex id).symm.trans ((congrArg (fun s => s.toList.filter (· ≠ '-')) same).trans (hex id'))
  rw [List.map_inj_left] at digits
  have value : id.uuid.toNat = id'.uuid.toNat := by
    apply eq_of_digits (n := 32)
    · exact lt_of_lt_of_eq id.uuid.isLt (by norm_num)
    · exact lt_of_lt_of_eq id'.uuid.isLt (by norm_num)
    · intro j below
      have at_digit := digits (31 - j) (List.mem_range.mpr (by omega))
      rw [show 31 - (31 - j) = j by omega] at at_digit
      exact digitChar_injective _ (Nat.mod_lt _ (by decide)) _ (Nat.mod_lt _ (by decide)) at_digit
  cases id
  cases id'
  exact congrArg ClientId.mk (BitVec.eq_of_toNat_eq value)

/-! ### The map that a table represents -/

def integerCell : Option Int → Cell
  | none => .null
  | some n => .integer n

def tokenCell : Option Bytes → Cell
  | none => .null
  | some token => .text (asciiChars token)

/-- A token that is read back as it was written, and as a token. -/
def Storable (token : Bytes) : Prop := token ≠ [] ∧ isAscii token = true

def Row.stored (id : ClientId) (row : Row Bytes) : TokensRow where
  clientId := id.str
  token := tokenCell row.token
  createdAt := integerCell row.createdAt
  lastUpdatedAt := integerCell row.lastUpdatedAt

structure Represents (table : Tokens) (σ : Store Bytes) : Prop where
  found : ∀ id : ClientId, table.rows.filter (·.clientId = id.str) = ((σ id).map (Row.stored id)).toList
  known : ∀ row ∈ table.rows, ∃ id : ClientId, row.clientId = id.str
  storable : ∀ {id row token}, σ id = some row → row.token = some token → Storable token

theorem fetch_integerCell (n : Option Int) : parseDatetime (integerCell n).fetch = .ok n := by
  cases n <;> rfl

theorem fetch_tokenCell {token : Option Bytes} (storable : ∀ t ∈ token, Storable t) :
    encryptedToken (tokenCell token).fetch = .ok token := by
  cases token with
  | none => rfl
  | some token =>
    obtain ⟨nonempty, ascii⟩ := storable token rfl
    rw [tokenCell, Cell.fetch, encodeUtf8_asciiChars ascii]
    cases token with
    | nil => exact absurd rfl nonempty
    | cons _ _ => rfl

theorem prepareToken_tokenCell {token : Option Bytes} (storable : ∀ t ∈ token, Storable t) :
    prepareToken token = .ok (tokenCell token) := by
  cases token with
  | none => rfl
  | some token =>
    rw [prepareToken, decodeAscii, if_pos (storable token rfl).2]
    rfl

theorem tokenCell_eq_null {token : Option Bytes} : tokenCell token = .null ↔ token = none := by
  cases token <;> simp [tokenCell]

section
variable {table : Tokens} {σ : Store Bytes} {id : ClientId}

theorem Represents.empty : Represents {} fun _ => none where
  found _ := rfl
  known _ row := by cases row
  storable entry := by cases entry

theorem Represents.select (represents : Represents table σ) : table.select id.str = (σ id).map (Row.stored id) := by
  rw [Tokens.select, represents.found]
  cases σ id <;> rfl

theorem Represents.taken (represents : Represents table σ) :
    id.str ∈ table.rows.map TokensRow.clientId ↔ σ id ≠ none := by
  have rows := represents.found id
  constructor
  · intro taken
    obtain ⟨row, found, key⟩ := List.mem_map.mp taken
    have selected : row ∈ table.rows.filter (·.clientId = id.str) :=
      List.mem_filter.mpr ⟨found, decide_eq_true key⟩
    intro absent
    rw [rows, absent] at selected
    cases selected
  · intro present
    obtain ⟨row, entry⟩ := Option.ne_none_iff_exists'.mp present
    have selected : row.stored id ∈ table.rows.filter (·.clientId = id.str) := by
      rw [rows, entry]
      exact List.mem_singleton_self _
    exact List.mem_map.mpr ⟨row.stored id, (List.mem_filter.mp selected).1, rfl⟩

theorem Represents.updateRow_stored (other : ClientId) (token : Option Bytes) (now : Int) (row : Row Bytes) :
    Tokens.updateRow id.str (tokenCell token) (.integer now) (row.stored other) =
      Row.stored other (if other = id then { row with token, lastUpdatedAt := some now } else row) := by
  unfold Tokens.updateRow
  by_cases same : other = id
  · have key : (row.stored other).clientId = id.str := congrArg ClientId.str same
    rw [if_pos key, if_pos same]
    rfl
  · have key : (row.stored other).clientId ≠ id.str := fun key => same (ClientId.str_injective key)
    rw [if_neg key, if_neg same]

theorem Represents.rowcount (represents : Represents table σ) :
    table.rows.countP (·.clientId = id.str) = if (σ id).isSome then 1 else 0 := by
  rw [List.countP_eq_length_filter, represents.found]
  cases σ id <;> rfl

theorem Store.update_present {token : Option Bytes} {now : Int} (present : σ id ≠ none) : (σ.update id token now).1 = 1 := by
  obtain ⟨row, entry⟩ := Option.ne_none_iff_exists'.mp present
  rw [Store.update, entry]

theorem Store.update_apply (other : ClientId) (token : Option Bytes) (now : Int) :
    (σ.update id token now).2 other =
      (σ other).map fun row => if other = id then { row with token, lastUpdatedAt := some now } else row := by
  unfold Store.update
  split
  · next row entry =>
    by_cases same : other = id
    · subst same
      simp [entry]
    · simp [Store.write_other _ _ same, same]
  · next absent =>
    by_cases same : other = id
    · subst same
      simp [absent]
    · simp [same]

theorem Represents.update (represents : Represents table σ) {token : Option Bytes} (now : Int)
    (storable : ∀ t ∈ token, Storable t) :
    Represents (table.update id.str (tokenCell token) (.integer now)).2 (σ.update id token now).2 where
  found other := by
    have keys : ((fun row : TokensRow => decide (row.clientId = other.str)) ∘
        Tokens.updateRow id.str (tokenCell token) (.integer now)) = fun row => decide (row.clientId = other.str) := by
      funext row
      rw [Function.comp_apply, Tokens.updateRow_clientId]
    rw [Tokens.update, List.filter_map, keys, represents.found, Store.update_apply]
    cases σ other with
    | none => rfl
    | some row => exact congrArg (fun row => [row]) (Represents.updateRow_stored other token now row)
  known row written := by
    obtain ⟨before, was, rfl⟩ := List.mem_map.mp written
    rw [Tokens.updateRow_clientId]
    exact represents.known before was
  storable {other row t} entry stored := by
    rw [Store.update_apply] at entry
    obtain ⟨before, was, rfl⟩ := Option.map_eq_some_iff.mp entry
    split at stored
    · exact storable t stored
    · exact represents.storable was stored

theorem Represents.insert (represents : Represents table σ) {token : Bytes} (now : Int) (storable : Storable token)
    (absent : σ id = none) :
    ∃ table', table.insert ⟨id.str, tokenCell (some token), .integer now, .integer now⟩ = .ok table' ∧
      Represents table' (σ.write id ⟨some token, some now, some now⟩) := by
  have free : id.str ∉ table.rows.map TokensRow.clientId := fun taken => represents.taken.mp taken absent
  refine ⟨_, dif_neg free, ⟨fun other => ?_, fun row written => ?_, fun {other row t} entry stored => ?_⟩⟩
  · rw [List.filter_append, represents.found]
    by_cases same : other = id
    · subst same
      simp [absent, Row.stored, integerCell]
    · have key : id.str ≠ other.str := fun key => same (ClientId.str_injective key).symm
      simp [Store.write_other _ _ same, key]
  · rcases List.mem_append.mp written with before | new
    · exact represents.known row before
    · obtain rfl := List.mem_singleton.mp new
      exact ⟨id, rfl⟩
  · by_cases same : other = id
    · subst same
      rw [Store.write_self] at entry
      cases entry
      cases stored
      exact storable
    · rw [Store.write_other _ _ same] at entry
      exact represents.storable entry stored

theorem Represents.count (represents : Represents table σ) (p : TokensRow → Bool) :
    Set.encard {id | ∃ row, σ id = some row ∧ p (row.stored id) = true} = table.rows.countP p := by
  have keys : ClientId.str '' {id | ∃ row, σ id = some row ∧ p (row.stored id) = true} =
      (((table.rows.filter p).map TokensRow.clientId).toFinset : Set String) := by
    ext key
    simp only [Set.mem_image, Set.mem_ofPred_eq, List.coe_toFinset, List.mem_map, List.mem_filter]
    constructor
    · rintro ⟨id, ⟨row, entry, counted⟩, rfl⟩
      have rows := represents.found id
      rw [entry] at rows
      have selected : row.stored id ∈ table.rows.filter (·.clientId = id.str) := by
        rw [rows]
        exact List.mem_singleton_self _
      exact ⟨_, ⟨(List.mem_filter.mp selected).1, counted⟩, rfl⟩
    · rintro ⟨row, ⟨written, counted⟩, rfl⟩
      obtain ⟨id, key⟩ := represents.known row written
      have selected : row ∈ table.rows.filter (·.clientId = id.str) :=
        List.mem_filter.mpr ⟨written, decide_eq_true key⟩
      rw [represents.found id] at selected
      obtain ⟨entry, found, rfl⟩ := Option.map_eq_some_iff.mp (Option.mem_toList.mp selected)
      exact ⟨id, ⟨entry, found, counted⟩, key.symm⟩
  have distinct : ((table.rows.filter p).map TokensRow.clientId).Nodup :=
    table.primaryKey.sublist (List.filter_sublist.map _)
  rw [← ClientId.str_injective.encard_image, keys, Set.encard_coe_eq_coe_finsetCard,
    List.toFinset_card_of_nodup distinct, List.length_map, ← List.countP_eq_length_filter]

end

theorem countOf_sum (values : List Int) : countOf (Tokens.sum values) = .ok values.sum := by
  cases values <;> rfl

theorem sum_indicator {α : Type} (p : α → Bool) (l : List α) :
    (l.map fun a => if p a then (1 : Int) else 0).sum = l.countP p := by
  induction l with
  | nil => rfl
  | cons a l ih =>
    rw [List.map_cons, List.sum_cons, ih, List.countP_cons]
    split <;> omega

/-! ### The functions on the map -/

namespace Database

def Holds (db : Database) (σ : Store Bytes) : Prop := ∃ table, db.tokens = some table ∧ Represents table σ

variable {db : Database} {σ : Store Bytes} {now : ℚ} {id : ClientId}

theorem Holds.insert (holds : db.Holds σ) (now : ℚ) (id : ClientId) {token : Bytes} (storable : Storable token) :
    ((db.insert now id token).1 = .ok () ∧ σ id = none ∨ db.insert now id token = (.error .integrityError, db) ∧ σ id ≠ none) ∧
      (db.insert now id token).2.Holds (σ.insert id token (prepareTimestamp now)).2 := by
  obtain ⟨table, tokens, represents⟩ := holds
  have prepared : prepareToken (some token) = .ok (tokenCell (some token)) :=
    prepareToken_tokenCell fun t same => Option.some_inj.mp same ▸ storable
  by_cases absent : σ id = none
  · obtain ⟨table', inserted, represents'⟩ := represents.insert (prepareTimestamp now) storable absent
    have result : db.insert now id token = (.ok (), ⟨some table'⟩) := by
      simp only [Database.insert, transaction, Database.table, tokens, prepared, inserted, bind, Except.bind, pure,
        Except.pure]
    rw [result, Store.insert, absent]
    exact ⟨.inl ⟨rfl, rfl⟩, table', rfl, represents'⟩
  · have taken : table.insert ⟨id.str, tokenCell (some token), .integer (prepareTimestamp now),
        .integer (prepareTimestamp now)⟩ = .error .integrityError := dif_pos (represents.taken.mpr absent)
    have result : db.insert now id token = (.error .integrityError, db) := by
      simp only [Database.insert, transaction, Database.table, tokens, prepared, taken, bind, Except.bind]
    obtain ⟨row, entry⟩ := Option.ne_none_iff_exists'.mp absent
    rw [result, Store.insert, entry]
    exact ⟨.inr ⟨rfl, nofun⟩, table, tokens, represents⟩

theorem Holds.update (holds : db.Holds σ) (now : ℚ) (id : ClientId) {token : Option Bytes} (storable : ∀ t ∈ token, Storable t) :
    (db.update now id token).1 = .ok (σ.update id token (prepareTimestamp now)).1 ∧
      (db.update now id token).2.Holds (σ.update id token (prepareTimestamp now)).2 := by
  obtain ⟨table, tokens, represents⟩ := holds
  have result : db.update now id token = (.ok (σ.update id token (prepareTimestamp now)).1,
      ⟨some (table.update id.str (tokenCell token) (.integer (prepareTimestamp now))).2⟩) := by
    have rowcount : (σ.update id token (prepareTimestamp now)).1 = table.rows.countP (·.clientId = id.str) := by
      rw [represents.rowcount, Store.update]
      cases σ id <;> rfl
    simp only [Database.update, transaction, Database.table, tokens, prepareToken_tokenCell storable, bind, Except.bind,
      pure, Except.pure, rowcount]
    rfl
  rw [result]
  exact ⟨rfl, _, rfl, represents.update _ storable⟩

theorem Holds.update_absent (holds : db.Holds σ) {token : Option Bytes} (storable : ∀ t ∈ token, Storable t)
    (absent : σ id = none) : db.update now id token = (.ok 0, db) := by
  obtain ⟨table, tokens, represents⟩ := holds
  have same : table.update id.str (tokenCell token) (.integer (prepareTimestamp now)) = (0, table) := by
    have rows : table.rows.map (Tokens.updateRow id.str (tokenCell token) (.integer (prepareTimestamp now))) =
        table.rows := by
      refine (List.map_congr_left fun row written => if_neg fun key => ?_).trans (List.map_id table.rows)
      exact represents.taken.mp (List.mem_map.mpr ⟨row, written, key⟩) absent
    obtain ⟨_, _⟩ := table
    simp only [Tokens.update, represents.rowcount, absent, Prod.mk.injEq, Tokens.mk.injEq]
    exact ⟨rfl, rows⟩
  obtain rfl : db = ⟨some table⟩ := congrArg Database.mk tokens
  simp only [Database.update, transaction, Database.table, prepareToken_tokenCell storable, same, bind,
    Except.bind, pure, Except.pure]

theorem Holds.lookup (holds : db.Holds σ) :
    db.lookup id = match σ id with
      | some row => .ok ⟨id, row.token, row.createdAt, row.lastUpdatedAt⟩
      | none => .error (.lookupError "Client not found.") := by
  obtain ⟨table, tokens, represents⟩ := holds
  simp only [Database.lookup, Database.table, tokens, represents.select, bind, Except.bind]
  cases entry : σ id with
  | none => rfl
  | some row =>
    simp only [Option.map_some, Row.stored, fetch_integerCell, fetch_tokenCell fun t => represents.storable entry]
    rfl

theorem Holds.counts (holds : db.Holds σ) :
    ∃ present revoked : Nat, db.tokenStateCounts = .ok ⟨present, revoked⟩ ∧
      Set.encard {id | ∃ row, σ id = some row ∧ row.token ≠ none} = present ∧
      Set.encard {id | ∃ row, σ id = some row ∧ row.token = none} = revoked := by
  obtain ⟨table, tokens, represents⟩ := holds
  have present := represents.count fun row => row.token ≠ .null
  have revoked := represents.count fun row => row.token = .null
  simp only [Row.stored, decide_eq_true_eq, tokenCell_eq_null, ne_eq] at present revoked
  refine ⟨_, _, ?_, present, revoked⟩
  simp only [tokenStateCounts, Database.table, tokens, Tokens.states, countOf_sum, bind, Except.bind, pure, Except.pure]
  rw [← sum_indicator, ← sum_indicator]
  simp only [decide_eq_true_eq]

end Database

/-! ### Sequences of calls -/

/-- A call, the clock it read, and what came of it. -/
inductive DbCall where
  | insert (id : ClientId) (token : Bytes) (now : ℚ) (result : Except DbError Unit)
  | update (id : ClientId) (token : Option Bytes) (now : ℚ) (result : Except DbError Nat)
  | lookup (id : ClientId) (result : Except DbError (TokenRecord Bytes))

inductive DbStep (db : Database) : Option DbCall → Database → Prop where
  | insert {id : ClientId} {token : Bytes} {now : ℚ} (storable : Storable token) (clock : 0 ≤ now) :
      DbStep db (some (.insert id token now (db.insert now id token).1)) (db.insert now id token).2
  | update {id : ClientId} {token : Option Bytes} {now : ℚ} (storable : ∀ t ∈ token, Storable t) (clock : 0 ≤ now) :
      DbStep db (some (.update id token now (db.update now id token).1)) (db.update now id token).2
  | lookup {id : ClientId} : DbStep db (some (.lookup id (db.lookup id))) db

namespace DbCall

/-- The reading of the clock at which the call created a row for the client. -/
def creates (id : ClientId) : DbCall → Option ℚ
  | insert id' _ now (.ok ()) => if id' = id then some now else none
  | _ => none

/-- What the call wrote to the row of the client, and when. -/
def writes (id : ClientId) : DbCall → Option (Option Bytes × ℚ)
  | insert id' token now (.ok ()) => if id' = id then some (some token, now) else none
  | update id' token now (.ok (_ + 1)) => if id' = id then some (token, now) else none
  | _ => none

end DbCall

def created (t : List DbCall) (id : ClientId) : Option ℚ := t.findSome? (DbCall.creates id)

def lastWrite (t : List DbCall) (id : ClientId) : Option (Option Bytes × ℚ) := t.reverse.findSome? (DbCall.writes id)

/-- The map that a sequence of calls makes of the empty one. -/
def written (t : List DbCall) : Store Bytes := fun id =>
  match created t id, lastWrite t id with
  | some first, some (token, last) => some ⟨token, some ⌊first⌋, some ⌊last⌋⟩
  | _, _ => none

theorem written_eq_some {t : List DbCall} {id : ClientId} {row : Row Bytes} (entry : written t id = some row) :
    ∃ first token last, created t id = some first ∧ lastWrite t id = some (token, last) ∧
      row = ⟨token, some ⌊first⌋, some ⌊last⌋⟩ := by
  unfold written at entry
  split at entry
  · next first token last createdAt writtenAt => exact ⟨first, token, last, createdAt, writtenAt, by simpa using entry.symm⟩
  · cases entry

theorem created_append (t : List DbCall) (c : DbCall) (id : ClientId) :
    created (t ++ [c]) id = (created t id).or (c.creates id) := by
  rw [created, List.findSome?_append, List.findSome?_singleton]
  rfl

theorem lastWrite_append (t : List DbCall) (c : DbCall) (id : ClientId) :
    lastWrite (t ++ [c]) id = (c.writes id).or (lastWrite t id) := by
  rw [lastWrite, List.reverse_append, List.reverse_singleton, List.findSome?_append, List.findSome?_singleton]
  rfl

theorem prepareTimestamp_eq_floor {now : ℚ} (clock : 0 ≤ now) : prepareTimestamp now = ⌊now⌋ := by
  rw [prepareTimestamp, Int.tdiv_eq_ediv_of_nonneg (Rat.num_nonneg.mpr clock), Rat.floor_def']

/-- The calls so far are what the database holds. -/
structure Recorded (db : Database) (t : List DbCall) : Prop where
  holds : db.Holds (written t)
  both : ∀ id, created t id = none ↔ lastWrite t id = none

theorem Recorded.absent {db : Database} {t : List DbCall} (recorded : Recorded db t) {id : ClientId} :
    written t id = none ↔ created t id = none := by
  have both := recorded.both id
  unfold written
  cases first : created t id with
  | none => simp
  | some now =>
    cases last : lastWrite t id with
    | none => rw [first, last] at both; simp at both
    | some w => simp

theorem Recorded.unchanged {db : Database} {t : List DbCall} (recorded : Recorded db t) {c : DbCall}
    (creates : ∀ id, c.creates id = none) (writes : ∀ id, c.writes id = none) : Recorded db (t ++ [c]) := by
  have firsts : created (t ++ [c]) = created t := funext fun id => by rw [created_append, creates, Option.or_none]
  have lasts : lastWrite (t ++ [c]) = lastWrite t := funext fun id => by
    rw [lastWrite_append, writes, Option.none_or]
  refine ⟨?_, fun id => ?_⟩
  · unfold written
    rw [firsts, lasts]
    exact recorded.holds
  · rw [firsts, lasts]
    exact recorded.both id

theorem Recorded.inserted {db db' : Database} {t : List DbCall} (recorded : Recorded db t) {id : ClientId}
    {token : Bytes} {now : ℚ} (clock : 0 ≤ now) (absent : written t id = none)
    (holds : db'.Holds ((written t).insert id token (prepareTimestamp now)).2) :
    Recorded db' (t ++ [.insert id token now (.ok ())]) := by
  have first := recorded.absent.mp absent
  constructor
  · have entry : ((written t).insert id token (prepareTimestamp now)).2 =
        (written t).write id ⟨some token, some ⌊now⌋, some ⌊now⌋⟩ := by
      rw [Store.insert, absent, prepareTimestamp_eq_floor clock]
    rw [entry] at holds
    convert holds using 1
    funext other
    by_cases same : other = id
    · subst same
      rw [Store.write_self, written, created_append, lastWrite_append, first]
      simp [DbCall.creates, DbCall.writes]
    · rw [Store.write_other _ _ same, written, created_append, lastWrite_append]
      simp [DbCall.creates, DbCall.writes, Ne.symm same, written]
  · intro other
    rw [created_append, lastWrite_append]
    by_cases same : id = other
    · simp [DbCall.creates, DbCall.writes, same]
    · simpa [DbCall.creates, DbCall.writes, same] using recorded.both other

theorem Recorded.updated {db db' : Database} {t : List DbCall} (recorded : Recorded db t) {id : ClientId}
    {token : Option Bytes} {now : ℚ} (clock : 0 ≤ now) (present : written t id ≠ none)
    (holds : db'.Holds ((written t).update id token (prepareTimestamp now)).2) :
    Recorded db' (t ++ [.update id token now (.ok 1)]) := by
  constructor
  · convert holds using 1
    funext other
    rw [Store.update_apply, written, created_append, lastWrite_append, prepareTimestamp_eq_floor clock]
    by_cases same : other = id
    · subst same
      obtain ⟨row, entry⟩ := Option.ne_none_iff_exists'.mp present
      obtain ⟨first, _, _, createdAt, _, rfl⟩ := written_eq_some entry
      simp [DbCall.creates, DbCall.writes, entry, createdAt]
    · simp [DbCall.creates, DbCall.writes, Ne.symm same, written, same]
  · intro other
    rw [created_append, lastWrite_append]
    by_cases same : id = other
    · subst same
      simpa [DbCall.creates, DbCall.writes] using (not_congr recorded.absent).mp present
    · simpa [DbCall.creates, DbCall.writes, same] using recorded.both other

theorem Recorded.step {db db' : Database} {t : List DbCall} {c : Option DbCall} (recorded : Recorded db t)
    (step : DbStep db c db') : Recorded db' (t ++ c.toList) := by
  cases step with
  | @insert id token now storable clock =>
    obtain ⟨⟨result, absent⟩ | ⟨result, _⟩, holds⟩ := recorded.holds.insert now id storable
    · rw [result]
      exact recorded.inserted clock absent holds
    · rw [result]
      exact recorded.unchanged (fun _ => rfl) fun _ => rfl
  | @update id token now storable clock =>
    by_cases absent : written t id = none
    · rw [recorded.holds.update_absent storable absent]
      exact recorded.unchanged (fun _ => rfl) fun _ => rfl
    · obtain ⟨result, holds⟩ := recorded.holds.update now id storable
      rw [result, Store.update_present absent]
      exact recorded.updated clock absent holds
  | lookup => exact recorded.unchanged (fun _ => rfl) fun _ => rfl

/-- After every sequence of calls the database is the map of what they wrote. -/
theorem db_refines_map {db : Database} {t : List DbCall}
    (run : Labelled.Run DbStep (Database.initializeTable {}) t db) :
    (∀ id, db.lookup id = match created t id, lastWrite t id with
      | some first, some (token, last) => .ok ⟨id, token, some ⌊first⌋, some ⌊last⌋⟩
      | _, _ => .error (.lookupError "Client not found.")) ∧
    (∀ id, created t id = none ↔ lastWrite t id = none) ∧
    (∀ id token now, created t id ≠ none → Storable token →
      db.insert now id token = (.error .integrityError, db)) ∧
    (∀ id token now, created t id = none → Storable token → (db.insert now id token).1 = .ok ()) ∧
    (∀ id token now, created t id = none → (∀ s ∈ token, Storable s) → db.update now id token = (.ok 0, db)) ∧
    (∀ id token now, created t id ≠ none → (∀ s ∈ token, Storable s) → (db.update now id token).1 = .ok 1) ∧
    ∃ present revoked : Nat, db.tokenStateCounts = .ok ⟨present, revoked⟩ ∧
      Set.encard {id | ∃ record, db.lookup id = .ok record ∧ record.encryptedToken ≠ none} = present ∧
      Set.encard {id | ∃ record, db.lookup id = .ok record ∧ record.encryptedToken = none} = revoked := by
  have recorded : Recorded db t := by
    refine Labelled.Run.invariant (I := Recorded) ⟨⟨{}, rfl, .empty⟩, fun _ => ⟨fun _ => rfl, fun _ => rfl⟩⟩ ?_ run
    exact fun _ _ _ _ recorded step => recorded.step step
  have states : ∀ p : Option Bytes → Prop, {id | ∃ record, db.lookup id = .ok record ∧ p record.encryptedToken} =
      {id | ∃ row, written t id = some row ∧ p row.token} := by
    intro p
    ext id
    rw [Set.mem_ofPred_eq, Set.mem_ofPred_eq, recorded.holds.lookup]
    cases written t id with
    | none => exact ⟨nofun, nofun⟩
    | some row => simp
  refine ⟨fun id => ?_, recorded.both, fun id token now present storable => ?_, fun id token now absent storable => ?_,
    fun id token now absent storable => ?_, fun id token now present storable => ?_, ?_⟩
  · rw [recorded.holds.lookup]
    unfold written
    cases created t id <;> cases lastWrite t id <;> rfl
  · obtain ⟨⟨_, absent⟩ | ⟨result, _⟩, _⟩ := recorded.holds.insert now id storable
    · exact absurd (recorded.absent.mp absent) present
    · exact result
  · obtain ⟨⟨result, _⟩ | ⟨_, present⟩, _⟩ := recorded.holds.insert now id storable
    · exact result
    · exact absurd (recorded.absent.mpr absent) present
  · exact recorded.holds.update_absent storable (recorded.absent.mpr absent)
  · obtain ⟨result, _⟩ := recorded.holds.update now id storable
    rw [result, Store.update_present (mt recorded.absent.mp present)]
  · obtain ⟨present, revoked, counts, withToken, withoutToken⟩ := recorded.holds.counts
    exact ⟨present, revoked, counts, (congrArg Set.encard (states (· ≠ none))).trans withToken,
      (congrArg Set.encard (states (· = none))).trans withoutToken⟩

/-- A token that is stored and then revoked. -/
theorem db_refines_map_revoked :
    ∃ db, Labelled.Run DbStep (Database.initializeTable {}) [.insert ⟨1⟩ [65] 1 (.ok ()), .update ⟨1⟩ none 2 (.ok 1)] db ∧
      db.lookup ⟨1⟩ = .ok ⟨⟨1⟩, none, some 1, some 2⟩ := by
  have storable : Storable [65] := ⟨nofun, rfl⟩
  have start : Labelled.Run DbStep (Database.initializeTable {}) [] (Database.initializeTable {}) := .refl
  have run := (start.tail (@DbStep.insert _ ⟨1⟩ _ 1 storable (by decide))).tail
    (@DbStep.update _ ⟨1⟩ none 2 nofun (by decide))
  exact ⟨_, run, (db_refines_map run).1 _⟩

end OAuthClientBridge
