import Mathlib.Data.Rat.Floor
import OAuthClientBridge.Db
import OAuthClientBridge.Python.Bytes

/-! `db.py` over the table of `schema.sql`: its statements, and how values go in and come out. -/

namespace OAuthClientBridge
open Python

inductive DbError where
  | integrityError
  | operationalError (message : String)
  | lookupError (message : String)
  | unicodeDecodeError
  | valueError
  deriving DecidableEq

inductive Cell where
  | null
  | integer (n : Int)
  | text (s : List Char)
  deriving DecidableEq

/-- A value as a cursor returns it; `text_factory` leaves a text as its bytes. -/
inductive Fetched where
  | none
  | int (n : Int)
  | bytes (b : Bytes)

def Cell.fetch : Cell → Fetched
  | null => .none
  | integer n => .int n
  | text s => .bytes (encodeUtf8 s)

structure TokensRow where
  clientId : String
  token : Cell
  createdAt : Cell
  lastUpdatedAt : Cell

structure Tokens where
  rows : List TokensRow := []
  primaryKey : (rows.map TokensRow.clientId).Nodup := by simp

structure TokenStateCounts where
  present : Int
  revoked : Int

/-! ### Statements -/

namespace Tokens

/-- `INSERT INTO tokens`. -/
def insert (row : TokensRow) (table : Tokens) : Except DbError Tokens :=
  if taken : row.clientId ∈ table.rows.map TokensRow.clientId then .error .integrityError
  else .ok {
    rows := table.rows ++ [row]
    primaryKey := by
      rw [List.map_append, List.map_singleton, List.nodup_append]
      refine ⟨table.primaryKey, List.pairwise_singleton _ _, fun key known key' new same => ?_⟩
      rw [same, List.mem_singleton.mp new] at known
      exact taken known }

/-- `SELECT token, created_at, last_updated_at FROM tokens WHERE client_id = ?` and `fetchone()`. -/
def select (clientId : String) (table : Tokens) : Option TokensRow :=
  (table.rows.filter (·.clientId = clientId)).head?

def updateRow (clientId : String) (token lastUpdatedAt : Cell) (row : TokensRow) : TokensRow :=
  if row.clientId = clientId then { row with token, lastUpdatedAt } else row

theorem updateRow_clientId (clientId : String) (token lastUpdatedAt : Cell) (row : TokensRow) :
    (updateRow clientId token lastUpdatedAt row).clientId = row.clientId := by
  unfold updateRow
  split <;> rfl

/-- `UPDATE tokens SET token = ?, last_updated_at = ? WHERE client_id = ?`, with its `rowcount`. -/
def update (clientId : String) (token lastUpdatedAt : Cell) (table : Tokens) : Nat × Tokens :=
  (table.rows.countP (·.clientId = clientId), {
    rows := table.rows.map (updateRow clientId token lastUpdatedAt)
    primaryKey := by
      have keys : TokensRow.clientId ∘ updateRow clientId token lastUpdatedAt = TokensRow.clientId :=
        funext (updateRow_clientId clientId token lastUpdatedAt)
      rw [List.map_map, keys]
      exact table.primaryKey })

/-- `SUM`, which is `NULL` over no rows. -/
def sum : List Int → Fetched
  | [] => .none
  | values => .int values.sum

/-- The two sums of `_token_state_counts`. -/
def states (table : Tokens) : Fetched × Fetched :=
  (sum (table.rows.map fun row => if row.token ≠ .null then 1 else 0),
    sum (table.rows.map fun row => if row.token = .null then 1 else 0))

end Tokens

/-! ### The functions of `db.py` -/

/-- The database, `none` before its table is created. -/
structure Database where
  tokens : Option Tokens := none

def prepareToken : Option Bytes → Except DbError Cell
  | none => .ok .null
  | some token => match decodeAscii token with
    | some s => .ok (.text s)
    | none => .error .unicodeDecodeError

/-- `_parse_datetime(value)`, in seconds. -/
def parseDatetime : Fetched → Except DbError (Option Int)
  | .none => .ok none
  | .bytes b => match decodeAscii b with
    | none => .error .unicodeDecodeError
    | some s => match int? s with
      | some n => .ok (some n)
      | none => .error .valueError
  | .int n => .ok (some n)

/-- `bytes(token_value) if token_value else None`. -/
def encryptedToken : Fetched → Except DbError (Option Bytes)
  | .none | .bytes [] | .int 0 => .ok none
  | .bytes token => .ok (some token)
  | .int (.ofNat n) => .ok (some (List.replicate n 0))
  | .int (.negSucc _) => .error .valueError

/-- `int(value or 0)`. -/
def countOf : Fetched → Except DbError Int
  | .none | .bytes [] => .ok 0
  | .int n => .ok n
  | .bytes b => match int? (asciiChars b) with
    | some n => .ok n
    | none => .error .valueError

namespace Database

def table (db : Database) : Except DbError Tokens :=
  match db.tokens with
  | some table => .ok table
  | none => .error (.operationalError "no such table: tokens")

/-- `cursor(name, transaction=True)`: what the body did is rolled back when it raises. -/
def transaction {α : Type} (body : Database → Except DbError (α × Database)) (db : Database) :
    Except DbError α × Database :=
  match body db with
  | .ok (a, db') => (.ok a, db')
  | .error e => (.error e, db)

/-- `initialize()`. -/
def initializeTable (db : Database) : Database := ⟨some (db.tokens.getD {})⟩

/-- `insert(client_id, token)` at a reading of the clock. -/
def insert (now : ℚ) (id : ClientId) (token : Bytes) : Database → Except DbError Unit × Database :=
  transaction fun db => do
    let token ← prepareToken (some token)
    let now := Cell.integer (prepareTimestamp now)
    let table ← (← db.table).insert ⟨id.str, token, now, now⟩
    return ((), ⟨some table⟩)

def lookup (id : ClientId) (db : Database) : Except DbError (TokenRecord Bytes) := do
  let some row := (← db.table).select id.str | .error (.lookupError "Client not found.")
  return {
    clientId := id
    encryptedToken := ← OAuthClientBridge.encryptedToken row.token.fetch
    createdAt := ← parseDatetime row.createdAt.fetch
    lastUpdatedAt := ← parseDatetime row.lastUpdatedAt.fetch }

/-- `update(client_id, token)` at a reading of the clock. -/
def update (now : ℚ) (id : ClientId) (token : Option Bytes) : Database → Except DbError Nat × Database :=
  transaction fun db => do
    let token ← prepareToken token
    let (rowcount, table) := (← db.table).update id.str token (.integer (prepareTimestamp now))
    return (rowcount, ⟨some table⟩)

def tokenStateCounts (db : Database) : Except DbError TokenStateCounts := do
  match db.table with
  | .ok table => return ⟨← countOf table.states.1, ← countOf table.states.2⟩
  | .error (.operationalError "no such table: tokens") => return ⟨0, 0⟩
  | .error e => throw e

end Database
end OAuthClientBridge
