import OAuthClientBridge.Db.Connection
import OAuthClientBridge.Db.Refinement
import OAuthClientBridge.Effect.Machine

/-!
`initdb`, `upgradedb` and `cleandb`: the commands that work on the schema of `tokens`, which an older
version has created with fewer columns. Each has a connection of its own, outside any transaction.
-/

namespace OAuthClientBridge
open Python Effect Program

/-! ### A table of any version -/

/-- The columns that `upgrade()` adds. -/
def lateColumns : List String := ["created_at", "last_updated_at"]

/-- SQLite compares the names of columns without case. -/
structure LegacyTokens where
  columns : List String
  rows : List (List Cell)
  width : ∀ row ∈ rows, row.length = columns.length
  base : columns.any (sameIgnoringCase "client_id") = true ∧ columns.any (sameIgnoringCase "token") = true

namespace LegacyTokens

def has (table : LegacyTokens) (name : String) : Bool := table.columns.any (sameIgnoringCase name)

/-- The value under a name, `NULL` where there is no such column. -/
def cell (columns : List String) (row : List Cell) (name : String) : Cell :=
  (((columns.zip row).find? fun entry => sameIgnoringCase name entry.1).map Prod.snd).getD .null

/-- A row by the columns of `schema.sql`. -/
def entry (columns : List String) (row : List Cell) : Cell × Cell × Cell × Cell :=
  (cell columns row "client_id", cell columns row "token", cell columns row "created_at",
    cell columns row "last_updated_at")

/-- With more columns, under which the rows have nothing. -/
def extended (table : LegacyTokens) (added : List String) : LegacyTokens where
  columns := table.columns ++ added
  rows := table.rows.map fun row => row ++ List.replicate added.length .null
  width := by
    intro longer found
    obtain ⟨row, known, rfl⟩ := List.mem_map.mp found
    rw [List.length_append, List.length_append, List.length_replicate, table.width row known]
  base := by
    rw [List.any_append, List.any_append, table.base.1, table.base.2]
    exact ⟨rfl, rfl⟩

/-- `ALTER TABLE tokens ADD COLUMN name INTEGER`. -/
def addColumn (name : String) (table : LegacyTokens) : Except DbError LegacyTokens :=
  if table.has name then .error (.operationalError ("duplicate column name: " ++ name))
  else .ok (table.extended [name])

/-- The table of `schema.sql`. -/
def fresh : LegacyTokens where
  columns := ["client_id", "token", "created_at", "last_updated_at"]
  rows := []
  width := by
    intro row found
    cases found
  base := by decide

/-- `SELECT token, created_at, last_updated_at FROM tokens WHERE client_id = ?` and `fetchone()`. -/
def select (clientId : String) (table : LegacyTokens) : Except DbError (Option (Cell × Cell × Cell)) :=
  match ["token", "created_at", "last_updated_at"].find? fun name => !table.has name with
  | some name => .error (.operationalError ("no such column: " ++ name))
  | none => .ok (((table.rows.map (entry table.columns)).find? fun row => row.1 = .text clientId.toList).map Prod.snd)

end LegacyTokens

def TokensRow.entry (row : TokensRow) : Cell × Cell × Cell × Cell :=
  (.text row.clientId.toList, row.token, row.createdAt, row.lastUpdatedAt)

structure SqliteFile where
  tokens : Option LegacyTokens := none

namespace SqliteFile

/-- The rows are those of a database of `schema.sql`, if what is missing is read as `NULL`. -/
def Stands (file : SqliteFile) (db : Database) : Prop :=
  file.tokens.map (fun table => table.rows.map (LegacyTokens.entry table.columns)) =
    db.tokens.map fun table => table.rows.map TokensRow.entry

def table (file : SqliteFile) : Except DbError LegacyTokens :=
  match file.tokens with
  | some table => .ok table
  | none => .error (.operationalError "no such table: tokens")

def Has (file : SqliteFile) (name : String) : Prop := ∃ table, file.tokens = some table ∧ table.has name = true

/-- `lookup(client_id)` on a file of any version. -/
def lookup (id : ClientId) (file : SqliteFile) : Except DbError (TokenRecord Bytes) := do
  let some (token, createdAt, lastUpdatedAt) ← (← file.table).select id.str
    | .error (.lookupError "Client not found.")
  return {
    clientId := id
    encryptedToken := ← encryptedToken token.fetch
    createdAt := ← parseDatetime createdAt.fetch
    lastUpdatedAt := ← parseDatetime lastUpdatedAt.fetch }

end SqliteFile

/-! ### The commands -/

inductive SchemaStatement where
  /-- `PRAGMA table_info(tokens)`, of which the names are read. -/
  | tableInfo
  | addColumn (name : String)
  | journalMode
  /-- `create table if not exists tokens`. -/
  | createTable
  | vacuum

def SchemaStatement.exec (statement : SchemaStatement) (file : SqliteFile) : Except DbException (List Bytes × SqliteFile) :=
  match statement with
  | tableInfo => .ok (((file.tokens.map LegacyTokens.columns).getD []).map fun name => encodeUtf8 name.toList, file)
  | addColumn name =>
    match file.table >>= LegacyTokens.addColumn name with
    | .ok table => .ok ([], ⟨some table⟩)
    | .error e => .error (.db e)
  | createTable => .ok ([], ⟨some (file.tokens.getD .fresh)⟩)
  | journalMode | vacuum => .ok ([], file)

abbrev SchemaAction := DbAction SchemaStatement (List Bytes) DbException

/-- `{row[1].decode("ascii") for row in ...}`. -/
def columnNames (info : List Bytes) : Except DbException (List String) :=
  info.mapM fun name =>
    match decodeAscii name with
    | some s => .ok (String.ofList s)
    | none => .error (.db .unicodeDecodeError)

def addMissing (columns : List String) (name : String) : SchemaAction Unit :=
  if name ∈ columns then .pure ()
  else do
    let _ ← Connection.execute (.addColumn name)
    return ()

def upgrade : SchemaAction Unit := Connection.within do
  let info ← Connection.execute .tableInfo
  let columns ← ofExcept (columnNames info)
  addMissing columns "created_at"
  addMissing columns "last_updated_at"

/-- `initialize()`, the statements of `schema.sql`. -/
def initializeFile : SchemaAction Unit := Connection.within do
  let _ ← Connection.execute .journalMode
  let _ ← Connection.execute .createTable
  return ()

def vacuum : SchemaAction Unit := Connection.within do
  let _ ← Connection.execute .vacuum
  return ()

inductive SchemaCommand where
  | initdb
  | upgradedb
  | cleandb

def SchemaCommand.run : SchemaCommand → SchemaAction Unit
  | initdb => initializeFile
  | upgradedb => upgrade
  | cleandb => vacuum

/-! ### What a column more changes -/

namespace LegacyTokens
variable {table : LegacyTokens} {added : List String} {name : String}

theorem cell_append {columns : List String} {row : List Cell} (width : row.length = columns.length) :
    cell (columns ++ added) (row ++ List.replicate added.length .null) name = cell columns row name := by
  unfold cell
  rw [List.zip_append width.symm, List.find?_append]
  cases found : (columns.zip row).find? fun entry => sameIgnoringCase name entry.1 with
  | some entry => rfl
  | none =>
    rw [Option.none_or]
    cases later : (added.zip (List.replicate added.length Cell.null)).find? fun entry => sameIgnoringCase name entry.1 with
    | none => rfl
    | some entry =>
      have missing := (List.of_mem_zip (List.mem_of_find?_eq_some later)).2
      exact List.eq_of_mem_replicate missing

theorem entry_append {columns : List String} {row : List Cell} (width : row.length = columns.length) :
    entry (columns ++ added) (row ++ List.replicate added.length .null) = entry columns row := by
  simp only [entry, cell_append width]

theorem entries_extended : (table.extended added).rows.map (entry (table.extended added).columns) =
    table.rows.map (entry table.columns) := by
  refine (List.map_map ..).trans (List.map_congr_left fun row found => ?_)
  exact entry_append (table.width row found)

theorem extended_nil : table.extended [] = table := by
  obtain ⟨columns, rows, width, base⟩ := table
  simp [extended]

theorem extended_extended (more : List String) :
    (table.extended added).extended more = table.extended (added ++ more) := by
  simp [extended]

theorem has_extended : (table.extended added).has name = (table.has name || added.any (sameIgnoringCase name)) :=
  List.any_append

theorem addColumn_ok {table' : LegacyTokens} (now : table.addColumn name = .ok table') :
    table' = table.extended [name] := by
  unfold addColumn at now
  split at now
  · cases now
  · exact (Except.ok.inj now).symm

theorem select_complete (complete : ∀ name ∈ ["token", "created_at", "last_updated_at"], table.has name = true)
    (clientId : String) : table.select clientId =
      .ok (((table.rows.map (entry table.columns)).find? fun row => row.1 = .text clientId.toList).map Prod.snd) := by
  have present : (["token", "created_at", "last_updated_at"].find? fun name => !table.has name) = none := by
    apply List.find?_eq_none.mpr
    intro name known
    rw [complete name known]
    decide
  rw [select, present]

end LegacyTokens

namespace SqliteFile
variable {file : SqliteFile} {db : Database} {name : String}

theorem stands_select {legacy : LegacyTokens} {table : Tokens}
    (stands : legacy.rows.map (LegacyTokens.entry legacy.columns) = table.rows.map TokensRow.entry)
    (complete : ∀ name ∈ ["token", "created_at", "last_updated_at"], legacy.has name = true) (clientId : String) :
    legacy.select clientId = .ok ((table.select clientId).map fun row => row.entry.2) := by
  have key : ((fun row : Cell × Cell × Cell × Cell => decide (row.1 = .text clientId.toList)) ∘ TokensRow.entry) =
      fun row => decide (row.clientId = clientId) := by
    funext row
    exact decide_eq_decide.mpr ⟨fun same => String.toList_inj.mp (Cell.text.inj same), fun same => same ▸ rfl⟩
  rw [LegacyTokens.select_complete complete, stands, List.find?_map, key, Option.map_map, Tokens.select,
    List.head?_filter]
  rfl

/-- Once no column is missing, the file is read as the database that it stands for. -/
theorem Stands.lookup (stands : file.Stands db) (complete : ∀ name ∈ "token" :: lateColumns, file.Has name)
    (id : ClientId) : file.lookup id = db.lookup id := by
  obtain ⟨legacy, here, _⟩ := complete "token" (by decide)
  unfold Stands at stands
  rw [here, Option.map_some] at stands
  obtain ⟨table, there, rows⟩ := Option.map_eq_some_iff.mp stands.symm
  have selected := stands_select rows.symm (fun name known => by
    obtain ⟨legacy', same, has⟩ := complete name known
    rw [here] at same
    rw [Option.some.inj same]
    exact has) id.str
  have fileTable : file.table = .ok legacy := by rw [SqliteFile.table, here]
  have dbTable : db.table = .ok table := by rw [Database.table, there]
  rw [SqliteFile.lookup, Database.lookup, fileTable, dbTable]
  dsimp only [Bind.bind, Except.bind]
  rw [selected]
  cases table.select id.str <;> rfl

end SqliteFile

/-! ### What the commands leave of a file -/

section
variable {file file' : SqliteFile} {answer : List Bytes}

theorem exec_addColumn {name : String} (now : (SchemaStatement.addColumn name).exec file = .ok (answer, file')) :
    ∃ table, file.tokens = some table ∧ file' = ⟨some (table.extended [name])⟩ := by
  dsimp only [SchemaStatement.exec, SqliteFile.table] at now
  cases here : file.tokens with
  | none =>
    rw [here] at now
    cases now
  | some table =>
    rw [here] at now
    dsimp only [Bind.bind, Except.bind] at now
    split at now
    · rename_i longer added
      cases now
      exact ⟨table, rfl, by rw [LegacyTokens.addColumn_ok added]⟩
    · cases now

/-- What a statement does where it does not fail. -/
theorem SchemaStatement.exec_cases {statement : SchemaStatement} (now : statement.exec file = .ok (answer, file')) :
    (∃ name table, statement = .addColumn name ∧ file.tokens = some table ∧ file' = ⟨some (table.extended [name])⟩) ∨
      (statement = .createTable ∧ file' = ⟨some (file.tokens.getD .fresh)⟩) ∨ file' = file := by
  cases statement with
  | tableInfo | journalMode | vacuum =>
    cases now
    exact .inr (.inr rfl)
  | createTable =>
    cases now
    exact .inr (.inl ⟨rfl, rfl⟩)
  | addColumn name =>
    obtain ⟨table, here, added⟩ := exec_addColumn now
    exact .inl ⟨name, table, rfl, here, added⟩

end

/-- What becomes of a file: its table, or the one of `schema.sql` where it has none, with late columns more. -/
inductive Grown (file : SqliteFile) : SqliteFile → Prop where
  | uncreated (absent : file.tokens = none) : Grown file file
  | grown (added : List String) (late : added ⊆ lateColumns) :
      Grown file ⟨some ((file.tokens.getD .fresh).extended added)⟩

namespace Grown
variable {file w w' : SqliteFile} {db : Database} {statement : SchemaStatement} {answer : List Bytes}

theorem created (file : SqliteFile) : Grown file ⟨some (file.tokens.getD .fresh)⟩ := by
  have nothing : Grown file ⟨some ((file.tokens.getD .fresh).extended [])⟩ := .grown [] (List.nil_subset _)
  rwa [LegacyTokens.extended_nil] at nothing

theorem refl (file : SqliteFile) : Grown file file := by
  cases present : file.tokens with
  | none => exact .uncreated present
  | some table =>
    have unchanged := created file
    rwa [present, Option.getD_some, ← present] at unchanged

theorem exec (grown : Grown file w) (late : ∀ name, statement = .addColumn name → name ∈ lateColumns)
    (now : statement.exec w = .ok (answer, w')) : Grown file w' := by
  rcases statement.exec_cases now with ⟨name, table, adds, here, rfl⟩ | ⟨_, rfl⟩ | rfl
  · rcases grown with absent | ⟨added, known⟩
    · rw [absent] at here
      cases here
    · rw [← Option.some.inj here, LegacyTokens.extended_extended]
      apply Grown.grown
      apply List.append_subset.mpr
      refine ⟨known, fun other found => ?_⟩
      rw [List.mem_singleton.mp found]
      exact late name adds
  · rcases grown with absent | ⟨added, known⟩
    · exact created file
    · exact .grown added known
  · exact grown

theorem stands (grown : Grown file w) (stands : file.Stands db) : w.Stands db ∨ w.Stands db.initializeTable := by
  rcases grown with absent | ⟨added, known⟩
  · exact .inl stands
  · refine .inr ?_
    unfold SqliteFile.Stands at *
    dsimp only
    rw [Option.map_some, LegacyTokens.entries_extended]
    cases present : file.tokens with
    | none =>
      rw [present, Option.map_none, eq_comm, Option.map_eq_none_iff] at stands
      rw [Database.initializeTable, stands]
      rfl
    | some table =>
      rw [present, Option.map_some, eq_comm] at stands
      obtain ⟨table', there, rows⟩ := Option.map_eq_some_iff.mp stands
      rw [Database.initializeTable, there]
      exact congrArg some rows.symm

/-- A file with a table stands for a database with one. -/
theorem stands_created {table : LegacyTokens} (grown : Grown file w) (stands : file.Stands db)
    (created : w.tokens = some table) : w.Stands db.initializeTable := by
  rcases grown.stands stands with same | initialized
  · have there := same
    unfold SqliteFile.Stands at there
    rw [created, Option.map_some, eq_comm] at there
    obtain ⟨table', there, _⟩ := Option.map_eq_some_iff.mp there
    have unchanged : db.initializeTable = db := by
      obtain ⟨tokens⟩ := db
      cases there
      rfl
    rwa [unchanged]
  · exact initialized

end Grown

theorem SqliteFile.Has.exec {w w' : SqliteFile} {statement : SchemaStatement} {answer : List Bytes} {name : String}
    (has : w.Has name) (now : statement.exec w = .ok (answer, w')) : w'.Has name := by
  obtain ⟨table, here, known⟩ := has
  rcases statement.exec_cases now with ⟨added, table', _, there, rfl⟩ | ⟨_, rfl⟩ | rfl
  · rw [here] at there
    refine ⟨_, rfl, ?_⟩
    rw [LegacyTokens.has_extended, ← Option.some.inj there, known]
    rfl
  · exact ⟨table, by rw [here]; rfl, known⟩
  · exact ⟨table, here, known⟩

/-! ### What a command has seen -/

theorem decodeAscii_encodeUtf8 {text decoded : List Char} (ascii : decodeAscii (encodeUtf8 text) = some decoded) :
    decoded = text := by
  unfold decodeAscii at ascii
  split at ascii
  · rename_i plain
    have encoded := encodeUtf8_asciiChars plain
    rw [Option.some.inj ascii] at encoded
    rw [← decodeUtf8_encodeUtf8 decoded, encoded, decodeUtf8_encodeUtf8]
  · cases ascii

theorem columnNames_encoded {columns names : List String}
    (decoded : columnNames (columns.map fun name => encodeUtf8 name.toList) = .ok names) : names = columns := by
  induction columns generalizing names with
  | nil =>
    cases decoded
    rfl
  | cons column columns ih =>
    rw [List.map_cons, columnNames, List.mapM_cons, ← columnNames] at decoded
    cases first : decodeAscii (encodeUtf8 column.toList) with
    | none =>
      rw [first] at decoded
      cases decoded
    | some text =>
      rw [first, decodeAscii_encodeUtf8 first] at decoded
      cases rest : columnNames (columns.map fun name => encodeUtf8 name.toList) with
      | error e =>
        rw [rest] at decoded
        cases decoded
      | ok others =>
        rw [rest] at decoded
        cases decoded
        rw [ih rest, String.ofList_toList]

/-- The names that a command knows of, by the answers it got. -/
def enterColumn (known : List String) : Event (connection SchemaStatement (List Bytes) DbException) → List String
  | ⟨.execute .tableInfo, .ok info⟩ =>
    match columnNames info with
    | .ok names => names ++ known
    | .error _ => known
  | ⟨.execute (.addColumn name), .ok _⟩ => name :: known
  | ⟨.execute .createTable, .ok _⟩ => "client_id" :: known
  | _ => known

/-- Only the late columns are added. -/
def AddsLate (_ : List String) : (connection SchemaStatement (List Bytes) DbException).Op → Prop
  | ConnectionOp.execute (.addColumn name) => name ∈ lateColumns
  | _ => True

section
variable {α : Type} {body : SchemaAction α} {Q : α → List String → Prop} {known : List String}

theorem within_known (safe : body.Safe (tally enterColumn) AddsLate (fun r known => ∀ a, r = .ok a → Q a known) known) :
    (Connection.within body).Safe (tally enterColumn) AddsLate (fun r known => ∀ a, r = .ok a → Q a known) known := by
  have undone : ∀ {β : Type} {R : β → List String → Prop} (e : DbException) (g : List String),
      (Connection.rollback >>= fun _ => (.throw e : SchemaAction β)).Safe (tally enterColumn) AddsLate
        (fun r known => ∀ b, r = .ok b → R b known) g := by
    intro β R e g
    refine ⟨trivial, fun answer g' now b ended => ?_⟩
    cases ended
  unfold Connection.within
  apply Safe.bind (Q := fun r known => ∀ a, r = .ok a → Q a known)
  · apply safe_tryCatch.mpr
    refine safe.mono (fun _ _ allowed => allowed) fun r g ended => ?_
    cases r with
    | ok a => exact ended
    | error e => exact undone e g
  · intro e g _ a ended
    cases ended
  · intro a g ended
    apply Safe.bind (Q := fun r known => ∀ u, r = .ok u → Q a known)
    · apply safe_tryCatch.mpr
      refine ⟨trivial, fun answer g' now => ?_⟩
      have unchanged : g' = g := now
      rw [unchanged]
      cases answer with
      | ok u => exact fun _ _ => ended a rfl
      | error e => exact undone e g
    · intro e g' _ a' ended'
      cases ended'
    · intro u g' known' a' ended'
      cases ended'
      exact known' u rfl

end

theorem addMissing_known {names known : List String} {name : String} (late : name ∈ lateColumns)
    (seen : names ⊆ known) : (addMissing names name).Safe (tally enterColumn) AddsLate
      (fun r after => ∀ u, r = .ok u → names ⊆ after ∧ name ∈ after ∧ known ⊆ after) known := by
  unfold addMissing
  split
  · rename_i present
    exact fun _ _ => ⟨seen, seen present, List.Subset.refl _⟩
  · refine ⟨late, fun answer after now => ?_⟩
    cases answer with
    | error e =>
      intro u ended
      cases ended
    | ok answer =>
      have entered : after = name :: known := now
      rw [entered]
      intro u _
      exact ⟨fun x found => List.mem_cons_of_mem _ (seen found), List.mem_cons_self, List.subset_cons_self _ _⟩

/-- What is known when a command is done. -/
def SchemaCommand.Knows : SchemaCommand → List String → Prop
  | initdb, known => "client_id" ∈ known
  | upgradedb, known => "created_at" ∈ known ∧ "last_updated_at" ∈ known
  | cleandb, _ => True

theorem SchemaCommand.run_known (command : SchemaCommand) :
    command.run.Safe (tally enterColumn) AddsLate (fun r known => ∀ u, r = .ok u → command.Knows known) [] := by
  cases command with
  | cleandb =>
    apply within_known
    refine ⟨trivial, fun answer g now => ?_⟩
    cases answer with
    | ok answer => exact fun _ _ => trivial
    | error e => exact fun _ ended => by cases ended
  | initdb =>
    apply within_known
    refine ⟨trivial, fun answer g now => ?_⟩
    cases answer with
    | error e => exact fun _ ended => by cases ended
    | ok answer =>
      refine ⟨trivial, fun created g' now' => ?_⟩
      cases created with
      | error e => exact fun _ ended => by cases ended
      | ok created =>
        have entered : g' = "client_id" :: g := now'
        rw [entered]
        exact fun _ _ => List.mem_cons_self
  | upgradedb =>
    apply within_known
    apply Safe.bind (Q := fun r known => ∀ info, r = .ok info → ∀ names, columnNames info = .ok names → names ⊆ known)
    · refine ⟨trivial, fun answer g now => (safe_ofExcept answer).mpr ?_⟩
      intro info read names decoded
      have entered : g = names ++ [] := by
        rw [show g = enterColumn [] ⟨.execute .tableInfo, answer⟩ from now, read, enterColumn, decoded]
      rw [entered, List.append_nil]
      exact List.Subset.refl _
    · intro e g _ u ended
      cases ended
    · intro info g read
      cases decoded : columnNames info with
      | error e => exact fun _ ended => by cases ended
      | ok names =>
        refine (addMissing_known (by decide) (read info rfl names decoded)).bind ?_ ?_
        · intro e _ _ u ended
          cases ended
        · intro u g₁ first
          obtain ⟨seen, created, _⟩ := first u rfl
          refine (addMissing_known (by decide) seen).mono (fun _ _ allowed => allowed) fun r g₂ second u' ended => ?_
          obtain ⟨_, updated, kept⟩ := second u' ended
          exact ⟨kept created, updated⟩

/-! ### Runs of the commands -/

/-- Any number of connections to one file, none of them in a transaction: a statement is committed at once,
or fails for whatever reason and changes nothing. -/
def Autocommit {Q R E D : Type} (exec : Q → D → Except E (R × D)) : Environment (connection Q R E) D
  | d, ⟨.execute statement, .ok answer⟩, d' => exec statement d = .ok (answer, d')
  | d, _, d' => d' = d

section
variable {file w w' : SqliteFile} {known : List String}

/-- A step keeps the table and its columns, and there is what the command has seen. -/
theorem autocommit_step {e : Event (connection SchemaStatement (List Bytes) DbException)}
    (now : Autocommit SchemaStatement.exec w e w') (late : AddsLate known e.op) (grown : Grown file w)
    (seen : ∀ name ∈ known, w.Has name) :
    Grown file w' ∧ (∀ name, w.Has name → w'.Has name) ∧ ∀ name ∈ enterColumn known e, w'.Has name := by
  obtain ⟨o, answer⟩ := e
  cases o with
  | execute statement =>
    cases answer with
    | error e =>
      have unchanged : w' = w := now
      rw [unchanged]
      refine ⟨grown, fun _ has => has, ?_⟩
      cases statement <;> exact seen
    | ok answer =>
      have done : statement.exec w = .ok (answer, w') := now
      refine ⟨grown.exec (fun name adds => by subst adds; exact late) done, fun name has => has.exec done, ?_⟩
      have kept : ∀ name ∈ known, w'.Has name := fun name found => (seen name found).exec done
      cases statement with
      | journalMode | vacuum => exact kept
      | createTable =>
        intro name found
        rcases List.mem_cons.mp found with rfl | earlier
        · cases done
          exact ⟨_, rfl, (w.tokens.getD .fresh).base.1⟩
        · exact kept name earlier
      | addColumn added =>
        intro name found
        rcases List.mem_cons.mp found with rfl | earlier
        · obtain ⟨table, _, rfl⟩ := exec_addColumn done
          exact ⟨_, rfl, by simp [LegacyTokens.has_extended, sameIgnoringCase]⟩
        · exact kept name earlier
      | tableInfo =>
        intro name found
        cases done
        unfold enterColumn at found
        dsimp only at found
        split at found
        · rename_i names decoded
          rcases List.mem_append.mp found with read | earlier
          · rw [columnNames_encoded decoded] at read
            cases here : w.tokens with
            | none =>
              rw [here] at read
              cases read
            | some table =>
              rw [here] at read
              exact ⟨table, here, List.any_eq_true.mpr ⟨name, read, decide_eq_true rfl⟩⟩
          · exact kept name earlier
        · exact kept name found
  | _ =>
    have unchanged : w' = w := now
    rw [unchanged]
    exact ⟨grown, fun _ has => has, seen⟩

end

/-- Whatever commands run on a file, at whatever times, and wherever they fail or are cut off: the table keeps its
columns and rows, and stands for the same database. Once an `upgradedb` is done, it is read as that database. -/
theorem schema_commands_preserve {ι : Type} [DecidableEq ι] {commands : ι → SchemaCommand} {file : SqliteFile} {db : Database}
    {c : Pool.Config (connection SchemaStatement (List Bytes) DbException) DbException Unit SqliteFile ι}
    (stands : file.Stands db)
    (h : Pool.Reachable (Autocommit SchemaStatement.exec) (Pool.start file fun i => (commands i).run) c) :
    Grown file c.world ∧ (c.world.Stands db ∨ c.world.Stands db.initializeTable) ∧
      ∀ i, (c.thread i).rest = .pure () →
        (commands i = .initdb → c.world.Stands db.initializeTable) ∧
        (commands i = .upgradedb → ∀ id, c.world.lookup id = db.initializeTable.lookup id) := by
  have safe : ∀ i, (commands i).run.Safe (tally enterColumn) AddsLate (fun _ _ => True) [] := by
    intro i
    exact (commands i).run_known.mono (fun _ _ allowed => allowed) fun _ _ _ => trivial
  obtain ⟨grown, seen⟩ := Pool.invariant_tally (I := fun w known => Grown file w ∧ ∀ i, ∀ name ∈ known i, w.Has name) safe
    ⟨.refl file, fun i name found => by cases found⟩ (by
      intro w known i o answer w' ⟨grown, seen⟩ late now
      obtain ⟨grown', kept, entered⟩ := autocommit_step now late grown (seen i)
      refine ⟨grown', fun j name found => ?_⟩
      by_cases same : j = i
      · rw [same, Function.update_self] at found
        exact entered name found
      · rw [Function.update_of_ne same] at found
        exact kept name (seen j name found)) h
  refine ⟨grown, grown.stands stands, fun i finished => ?_⟩
  have knows := (commands i).run_known.tallied (Pool.runs (r := .ok ()) h finished) () rfl
  constructor
  · intro initdb
    rw [initdb] at knows
    obtain ⟨table, created, _⟩ := seen i "client_id" knows
    exact grown.stands_created stands created
  · intro upgradedb id
    rw [upgradedb] at knows
    obtain ⟨created, updated⟩ := knows
    obtain ⟨table, here, _⟩ := seen i "created_at" created
    refine (grown.stands_created stands here).lookup ?_ id
    intro name column
    rcases List.mem_cons.mp column with rfl | late
    · exact ⟨table, here, table.base.2⟩
    · rcases List.mem_cons.mp late with rfl | last
      · exact seen i _ created
      · rw [List.mem_singleton.mp last]
        exact seen i _ updated

namespace Sample

def legacyRow : TokensRow := ⟨"6ba7b810-9dad-11d1-80b4-00c04fd430c8", .text "dG9r".toList, .null, .null⟩

/-- A file without the late columns. -/
def legacyFile : SqliteFile where
  tokens := some {
    columns := ["client_id", "token"]
    rows := [[.text legacyRow.clientId.toList, legacyRow.token]]
    width := by
      intro row found
      rw [List.mem_singleton.mp found]
      rfl
    base := by decide }

def legacyDatabase : Database := ⟨some { rows := [legacyRow] }⟩

/-- A connection that only fails where its statement does. -/
def autocommit : Machine (connection SchemaStatement (List Bytes) DbException) SqliteFile
  | .execute statement, file =>
    match statement.exec file with
    | .ok (answer, file') => (.ok answer, file')
    | .error e => (.error e, file)
  | .begin, file | .commit, file => (.ok (), file)
  | .rollback, file | .recordException _, file | .recordDatabaseError _ _, file | .recordCursor _ _ _, file => ((), file)

theorem autocommit_allowed (o : ConnectionOp SchemaStatement DbException) (file : SqliteFile) :
    Autocommit SchemaStatement.exec file ⟨o, (autocommit o file).1⟩ (autocommit o file).2 := by
  cases o with
  | execute statement =>
    cases done : statement.exec file with
    | ok answered => simp [autocommit, done, Autocommit]
    | error e => simp [autocommit, done, Autocommit]
  | _ => rfl

/-- Of two `upgradedb`, one is done and the other one has not begun. -/
def upgraded : Pool.Config (connection SchemaStatement (List Bytes) DbException) DbException Unit SqliteFile Bool :=
  let run := upgrade.eval autocommit legacyFile
  (Pool.start legacyFile fun _ => SchemaCommand.upgradedb.run).advance false run.world run.trace (ofExcept run.result)

theorem upgraded_reachable : Pool.Reachable (Autocommit SchemaStatement.exec)
    (Pool.start legacyFile fun _ => SchemaCommand.upgradedb.run) upgraded :=
  Pool.reachable_run (c := Pool.start legacyFile fun _ => SchemaCommand.upgradedb.run) (i := false)
    (eval_runs autocommit upgrade legacyFile) (eval_follows id autocommit_allowed upgrade legacyFile)

theorem upgraded_done : (upgraded.thread false).rest = .pure () := by
  have ended : (upgrade.eval autocommit legacyFile).result.toOption = some () := by decide +kernel
  show ofExcept (upgrade.eval autocommit legacyFile).result = .pure ()
  cases result : (upgrade.eval autocommit legacyFile).result with
  | ok u => rfl
  | error e =>
    rw [result] at ended
    cases ended

theorem legacy_stands : legacyFile.Stands legacyDatabase := by
  unfold SqliteFile.Stands
  decide +kernel

end Sample

theorem schema_commands_preserve_upgraded :
    Sample.upgraded.world.lookup ⟨0x6ba7b8109dad11d180b400c04fd430c8⟩ =
      Sample.legacyDatabase.lookup ⟨0x6ba7b8109dad11d180b400c04fd430c8⟩ :=
  ((schema_commands_preserve Sample.legacy_stands Sample.upgraded_reachable).2.2 false Sample.upgraded_done).2 rfl _

end OAuthClientBridge
