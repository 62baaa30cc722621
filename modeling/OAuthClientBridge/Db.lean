import OAuthClientBridge.Operations

/-! `db.py` and `crypto.py` as the views call them, one operation of the table at a time. -/

namespace OAuthClientBridge
open Python

structure TokenRecord (τ : Type) where
  clientId : ClientId
  encryptedToken : Option τ
  createdAt : Option Int
  lastUpdatedAt : Option Int

/-- `int(value.astimezone(UTC).timestamp())`. -/
def prepareTimestamp (value : ℚ) : Int := value.num.tdiv value.den

/-- The record that `lookup` makes of a row; an empty token counts as none. -/
def Row.record {τ : Type} (F : Fernet τ) (id : ClientId) (row : Row τ) : TokenRecord τ where
  clientId := id
  encryptedToken := row.token.filter fun token => !F.isEmpty token
  createdAt := row.createdAt
  lastUpdatedAt := row.lastUpdatedAt

section
variable {τ : Type} {F : Fernet τ}

def generateKey : Action F (ClientSecret F) := perform .generateKey

def dumps (key : ClientSecret F) (data : Payload) : Action F τ := do
  return F.encrypt key.key (← perform .nonce) data

namespace Db

def generateId : Action F ClientId := perform .generateId

/-- `lookup(client_id)`, `none` where it raises `LookupError`. -/
def lookup (id : ClientId) : Action F (Option (TokenRecord τ)) := do
  let row ← perform (.select id)
  return row.map (Row.record F id)

def insert (id : ClientId) (token : τ) : Action F InsertResult := do
  let now ← perform .utcnow
  match ← perform (.insert id token (prepareTimestamp now)) with
  | .inserted => do
    emit .requestRefresh
    return .inserted
  | .integrityError => return .integrityError

/-- `update(client_id, token)`, the number of rows it changed. -/
def update (id : ClientId) (token : Option τ) : Action F Nat := do
  let now ← perform .utcnow
  let rowcount ← perform (.update id token (prepareTimestamp now))
  emit (.spanEvent "Update result" [("rows", .int rowcount)])
  if rowcount ≠ 0 then emit .requestRefresh else .pure ()
  return rowcount

end Db
end

/-! ### The table -/

/-- The `tokens` table: at most one row for a client id, its primary key. -/
abbrev Store (τ : Type) := ClientId → Option (Row τ)

namespace Store
variable {τ : Type}

def write (σ : Store τ) (id : ClientId) (row : Row τ) : Store τ :=
  fun other => if other = id then some row else σ other

def insert (σ : Store τ) (id : ClientId) (token : τ) (now : Int) : InsertResult × Store τ :=
  match σ id with
  | some _ => (.integrityError, σ)
  | none => (.inserted, σ.write id ⟨some token, some now, some now⟩)

/-- `UPDATE tokens SET token, last_updated_at`. -/
def update (σ : Store τ) (id : ClientId) (token : Option τ) (now : Int) : Nat × Store τ :=
  match σ id with
  | some row => (1, σ.write id { row with token, lastUpdatedAt := some now })
  | none => (0, σ)

/-- What one event may do to the table. Each statement is atomic; other operations leave it alone. -/
def Step {F : Fernet τ} (σ : Store τ) (e : Effect.Event (bridge F)) (σ' : Store τ) : Prop :=
  match e with
  | ⟨.select id, row⟩ => row = σ id ∧ σ' = σ
  | ⟨.insert id token now, result⟩ => (result, σ') = σ.insert id token now
  | ⟨.update id token now, rowcount⟩ => (rowcount, σ') = σ.update id token now
  | _ => σ' = σ

@[simp] theorem write_self (σ : Store τ) (id : ClientId) (row : Row τ) : σ.write id row id = some row := by
  simp [write]

theorem write_other (σ : Store τ) {id other : ClientId} (row : Row τ) (h : other ≠ id) :
    σ.write id row other = σ other := by
  simp [write, h]

end Store
end OAuthClientBridge
