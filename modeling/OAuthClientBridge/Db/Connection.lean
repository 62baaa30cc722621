import OAuthClientBridge.Db.Sqlite
import OAuthClientBridge.Effect.Safe

/-!
`cursor` of `db.py`, and the functions that write through it, on a connection of `sqlite3` that was
opened with `isolation_level=None`.
-/

namespace OAuthClientBridge
open Effect Program

/-! ### Connections -/

/-- A class below `sqlite3.Error` by its name, another one below `Exception`, or neither. -/
inductive ExceptionClass where
  | sqlite (name : String)
  | exception
  | baseException

/-- What `except Exception` catches. -/
def ExceptionClass.caught : ExceptionClass → Bool
  | baseException => false
  | _ => true

inductive ConnectionOp (Q E : Type) where
  | begin
  | execute (statement : Q)
  | commit
  | rollback
  | recordException (e : E)
  | recordDatabaseError (query error : String)
  /-- The metrics of a cursor, with its `error.type`. -/
  | recordCursor (operation : String) (transaction : Bool) (errorType : Option String)

def ConnectionOp.records {Q E : Type} : ConnectionOp Q E → Bool
  | recordException _ | recordDatabaseError _ _ | recordCursor _ _ _ => true
  | _ => false

/-- `BEGIN`, a statement and `COMMIT` may raise; a rollback does not. -/
def connection (Q R E : Type) : Signature where
  Op := ConnectionOp Q E
  Answer
    | .begin | .commit => Except E Unit
    | .execute _ => Except E R
    | _ => Unit

section
variable {Q R E α : Type}

abbrev DbAction (Q R E α : Type) := Program (connection Q R E) E α

namespace Connection

def begin : DbAction Q R E Unit := .op (S := connection Q R E) .begin fun answer => ofExcept answer

def execute (statement : Q) : DbAction Q R E R :=
  .op (S := connection Q R E) (.execute statement) fun answer => ofExcept answer

def commit : DbAction Q R E Unit := .op (S := connection Q R E) .commit fun answer => ofExcept answer

def rollback : DbAction Q R E Unit := .op (S := connection Q R E) .rollback .pure

def record (o : ConnectionOp Q E) : DbAction Q R E Unit :=
  .op (S := connection Q R E) o fun _ => .pure ()

/-- `with connection:`, which commits at its end, and rolls back where the body or that commit raises. -/
def within (body : DbAction Q R E α) : DbAction Q R E α := do
  let a ← body.tryCatch fun e => do
    rollback
    .throw e
  commit.tryCatch fun e => do
    rollback
    .throw e
  return a

end Connection

/-- `re.sub(r"(?!^)([A-Z])", r"_\1", name).lower()`. -/
def databaseError (name : String) : String :=
  String.ofList (Python.lowerAscii (match name.toList with
    | [] => []
    | c :: rest => c :: rest.flatMap fun d => if d.isUpper then ['_', d] else [d]))

example : databaseError "OperationalError" = "operational_error" := by decide

/-- `cursor(name, transaction)` around the block of a `with` statement. -/
def cursor (classOf : E → ExceptionClass) (name : String) (transaction : Bool) (block : DbAction Q R E α) : DbAction Q R E α := do
  let guarded : DbAction Q R E α := do
    if transaction then Connection.begin else .pure ()
    block
  let a ← (Connection.within do
    let a ← guarded.tryCatch fun e => do
      if (classOf e).caught then do
        Connection.record (.recordException e)
        if transaction then Connection.rollback else .pure ()
      else .pure ()
      .throw e
    if transaction then Connection.commit else .pure ()
    return a).tryCatch fun e => do
      match classOf e with
      | .sqlite className => do
        Connection.record (.recordDatabaseError name (databaseError className))
        Connection.record (.recordCursor name transaction (some className))
      | _ => Connection.record (.recordCursor name transaction none)
      .throw e
  Connection.record (.recordCursor name transaction none)
  return a

/-- A block that executes one statement after the other, each chosen by the answers so far, until it ends or raises. -/
inductive Block (Q R E α : Type) where
  | done (a : α)
  | raises (e : E)
  | execute (statement : Q) (next : R → Block Q R E α)

def Block.action : Block Q R E α → DbAction Q R E α
  | .done a => .pure a
  | .raises e => .throw e
  | .execute statement next => do
    let answer ← Connection.execute statement
    (next answer).action

end

/-! ### What a connection does -/

/-- What is committed, and what the open transaction has made of it. -/
structure Connection (D : Type) where
  committed : D
  pending : Option D := none

namespace Connection
variable {D Q R E : Type}

def view (c : Connection D) : D := c.pending.getD c.committed

/-- Outside a transaction a statement is committed at once. -/
def write (c : Connection D) (d : D) : Connection D :=
  match c.pending with
  | none => ⟨d, none⟩
  | some _ => { c with pending := some d }

/-- The answers of `sqlite3`. Whatever fails may end the transaction or change what is pending,
but commits nothing; and `COMMIT` is only executed in a transaction. -/
def Step (exec : Q → D → Except E (R × D)) : Environment (connection Q R E) (Connection D)
  | c, ⟨.begin, .ok ()⟩, c' => c.pending = none ∧ c' = { c with pending := some c.committed }
  | c, ⟨.begin, .error _⟩, c' => c'.committed = c.committed
  | c, ⟨.execute statement, .ok answer⟩, c' => ∃ d, exec statement c.view = .ok (answer, d) ∧ c' = c.write d
  | c, ⟨.execute _, .error _⟩, c' => c'.committed = c.committed
  | c, ⟨.commit, .ok ()⟩, c' => c' = ⟨c.view, none⟩
  | c, ⟨.commit, .error _⟩, c' => c.pending ≠ none ∧ c'.committed = c.committed
  | c, ⟨.rollback, ()⟩, c' => c' = ⟨c.committed, none⟩
  | c, _, c' => c' = c

end Connection

/-! ### The functions that write -/

inductive TokensStatement where
  | insert (row : TokensRow)
  | update (clientId : String) (token lastUpdatedAt : Cell)

/-- An exception of `db.py`, or any other one. -/
inductive DbException where
  | db (e : DbError)
  | other (c : ExceptionClass)

def DbException.classOf : DbException → ExceptionClass
  | db .integrityError => .sqlite "IntegrityError"
  | db (.operationalError _) => .sqlite "OperationalError"
  | db _ => .exception
  | other c => c

/-- The effect of a statement, with its `rowcount`. -/
def TokensStatement.exec (statement : TokensStatement) (db : Database) : Except DbException (Nat × Database) :=
  match db.table with
  | .error e => .error (.db e)
  | .ok table =>
    match statement with
    | insert row =>
      match table.insert row with
      | .ok table => .ok (1, ⟨some table⟩)
      | .error e => .error (.db e)
    | update clientId token lastUpdatedAt =>
      .ok ((table.update clientId token lastUpdatedAt).1, ⟨some (table.update clientId token lastUpdatedAt).2⟩)

abbrev TokensAction := DbAction TokensStatement Nat DbException

def insertBlock (now : ℚ) (id : ClientId) (token : Python.Bytes) : Block TokensStatement Nat DbException Unit :=
  match prepareToken (some token) with
  | .error e => .raises (.db e)
  | .ok cell =>
    .execute (.insert ⟨id.str, cell, .integer (prepareTimestamp now), .integer (prepareTimestamp now)⟩) fun _ => .done ()

def updateBlock (now : ℚ) (id : ClientId) (token : Option Python.Bytes) : Block TokensStatement Nat DbException Nat :=
  match prepareToken token with
  | .error e => .raises (.db e)
  | .ok cell => .execute (.update id.str cell (.integer (prepareTimestamp now))) fun rowcount => .done rowcount

def insertToken (now : ℚ) (id : ClientId) (token : Python.Bytes) : TokensAction Unit :=
  cursor DbException.classOf "insert_token" true (insertBlock now id token).action

def updateToken (now : ℚ) (id : ClientId) (token : Option Python.Bytes) : TokensAction Nat :=
  cursor DbException.classOf "update_token" true (updateBlock now id token).action

end OAuthClientBridge
