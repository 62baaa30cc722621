import Mathlib.Data.Rat.Encodable
import Mathlib.Logic.Equiv.List
import Mathlib.Tactic.DeriveEncodable
import OAuthClientBridge.Custody
import OAuthClientBridge.Db.Refinement
import OAuthClientBridge.Effect.Simulation

/-!
The service over the table of `schema.sql`, statement by statement, and over the map that the table stands
for: whatever the requests and their interleaving, they do and answer the same.
-/

namespace OAuthClientBridge
open Python Effect Program

/-- A call of `db.py` that ends the way the views can take. -/
def Database.Step {F : Fernet Bytes} (db : Database) (e : Event (bridge F)) (db' : Database) : Prop :=
  match e with
  | ⟨.select id, some row⟩ => db.lookup id = .ok ⟨id, row.token, row.createdAt, row.lastUpdatedAt⟩ ∧ db' = db
  | ⟨.select id, none⟩ => db.lookup id = .error (.lookupError "Client not found.") ∧ db' = db
  | ⟨.insert id token now, .inserted⟩ => db.insert now id token = (.ok (), db')
  | ⟨.insert id token now, .integrityError⟩ => db.insert now id token = (.error .integrityError, db')
  | ⟨.update id token now, rowcount⟩ => db.update now id token = (.ok rowcount, db')
  | _ => db' = db

/-- The tokens that an operation writes are read back as they were written. -/
def Op.Stores : Op Bytes → Prop
  | .insert _ token _ => Storable token
  | .update _ token _ => ∀ t ∈ token, Storable t
  | _ => True

theorem prepareTimestamp_intCast (n : Int) : prepareTimestamp n = n := by
  simp [prepareTimestamp]

section
variable {F : Fernet Bytes}

theorem database_simulates : Simulates (Database.Step (F := F)) Store.Step Database.Holds Op.Stores := by
  intro db σ e db' holds stores step
  obtain ⟨o, answer⟩ := e
  cases o with
  | select id =>
    have read := @Database.Holds.lookup db _ id holds
    cases answer with
    | none =>
      obtain ⟨missing, rfl⟩ := step
      rw [missing] at read
      cases found : σ id with
      | none => exact ⟨σ, ⟨found.symm, rfl⟩, holds⟩
      | some row => simp [found] at read
    | some row =>
      obtain ⟨found, rfl⟩ := step
      refine ⟨σ, ⟨?_, rfl⟩, holds⟩
      cases entry : σ id with
      | none =>
        rw [entry, found] at read
        cases read
      | some row' =>
        rw [entry, found] at read
        obtain ⟨token, created, updated⟩ := row
        obtain ⟨token', created', updated'⟩ := row'
        obtain ⟨_, rfl, rfl, rfl⟩ := TokenRecord.mk.inj (Except.ok.inj read)
        rfl
  | insert id token now =>
    obtain ⟨ends, kept⟩ := holds.insert (now : ℚ) id (show Storable token from stores)
    rw [prepareTimestamp_intCast] at kept
    cases answer with
    | inserted =>
      have step : db.insert now id token = (.ok (), db') := step
      rw [step] at ends kept
      rcases ends with ⟨_, missing⟩ | ⟨taken, _⟩
      · refine ⟨_, ?_, kept⟩
        show (InsertResult.inserted, _) = σ.insert id token now
        simp [Store.insert, missing]
      · cases congrArg Prod.fst taken
    | integrityError =>
      have step : db.insert now id token = (.error .integrityError, db') := step
      rw [step] at ends kept
      rcases ends with ⟨inserted, _⟩ | ⟨_, present⟩
      · cases inserted
      · obtain ⟨row, found⟩ := Option.ne_none_iff_exists'.mp present
        refine ⟨_, ?_, kept⟩
        show (InsertResult.integrityError, _) = σ.insert id token now
        simp [Store.insert, found]
  | update id token now =>
    obtain ⟨count, kept⟩ := holds.update (now : ℚ) id (show ∀ t ∈ token, Storable t from stores)
    rw [prepareTimestamp_intCast] at count kept
    have step : db.update now id token = (.ok answer, db') := step
    rw [step] at count kept
    obtain rfl : answer = (σ.update id token now).1 := Except.ok.inj count
    exact ⟨_, rfl, kept⟩
  | _ =>
    obtain rfl := step
    exact ⟨σ, rfl, holds⟩

/-- Whatever the map can answer, the table answers too. -/
theorem store_simulates : Simulates (Store.Step (F := F)) Database.Step (fun σ db => Database.Holds db σ) Op.Stores := by
  intro σ db e σ' holds stores step
  obtain ⟨o, answer⟩ := e
  cases o with
  | select id =>
    obtain ⟨rfl, rfl⟩ := step
    have read := @Database.Holds.lookup db _ id holds
    refine ⟨db, ?_, holds⟩
    cases found : σ' id with
    | none =>
      rw [found] at read
      exact ⟨read, rfl⟩
    | some row =>
      rw [found] at read
      exact ⟨read, rfl⟩
  | insert id token now =>
    obtain ⟨ends, kept⟩ := holds.insert (now : ℚ) id (show Storable token from stores)
    rw [prepareTimestamp_intCast] at kept
    have step : (answer, σ') = σ.insert id token now := step
    rw [← step] at kept
    refine ⟨_, ?_, kept⟩
    rcases ends with ⟨inserted, missing⟩ | ⟨taken, present⟩
    · obtain rfl : answer = .inserted := by
        simp only [Store.insert, missing] at step
        exact congrArg Prod.fst step
      show db.insert now id token = _
      rw [← inserted]
    · obtain ⟨row, found⟩ := Option.ne_none_iff_exists'.mp present
      obtain rfl : answer = .integrityError := by
        simp only [Store.insert, found] at step
        exact congrArg Prod.fst step
      show db.insert now id token = _
      rw [taken]
  | update id token now =>
    obtain ⟨count, kept⟩ := holds.update (now : ℚ) id (show ∀ t ∈ token, Storable t from stores)
    rw [prepareTimestamp_intCast] at count kept
    have step : (answer, σ') = σ.update id token now := step
    rw [← step] at count kept
    refine ⟨_, ?_, kept⟩
    show db.update now id token = _
    rw [← count]
  | _ =>
    obtain rfl := step
    exact ⟨db, rfl, holds⟩

end

section Service
variable {ι : Type} [DecidableEq ι] {P : Platform Bytes} {s : Settings} {requests : ι → Request}

theorem ServiceOp.stores {req : Request} {t : Trace (bridge P.fernet)} {o : Op Bytes} (h : ServiceOp P s req t o)
    (storable : ∀ key nonce payload, Storable (P.fernet.encrypt key nonce payload)) : o.Stores := by
  cases o with
  | insert id token now =>
    obtain ⟨_, _, _, _, _, _, _, rfl, _⟩ := h.insert
    exact storable _ _ _
  | update id token now =>
    obtain ⟨_, _, _, _, _, _, _, _, _, _, _, _, _, write⟩ := h.update
    intro t held
    rcases write with rfl | ⟨_, nonce, rfl⟩
    · cases held
    · obtain rfl := Option.some.inj held
      exact storable _ _ _
  | _ => trivial

theorem service_stores {W : Type} {env : Environment (bridge P.fernet) W} {w : W}
    (storable : ∀ key nonce payload, Storable (P.fernet.encrypt key nonce payload))
    (c : Pool.Config (bridge P.fernet) Exc Response W ι) (h : Pool.Reachable env (service P s w requests) c) (i : ι) (o : Op Bytes)
    (next : Answer P.fernet o → Action P.fernet Response) (ready : (c.thread i).rest = .op o next) : o.Stores := by
  cases loud : o.silent with
  | true => cases o <;> trivial
  | false => exact (acts_next h ready loud).stores storable

/-- The service cannot tell the table of the database from the map that it stands for: over the one it reaches exactly
what it reaches over the other, with the same operations done, the same answers given, and the table standing for the map. -/
theorem service_refines (storable : ∀ key nonce payload, Storable (P.fernet.encrypt key nonce payload)) {db : Database}
    {σ : Store Bytes} (holds : db.Holds σ) :
    (∀ c, Pool.Reachable Database.Step (service P s db requests) c →
        ∃ d, Pool.Reachable Store.Step (service P s σ requests) d ∧ c.world.Holds d.world ∧ d.thread = c.thread) ∧
      ∀ d, Pool.Reachable Store.Step (service P s σ requests) d →
        ∃ c, Pool.Reachable Database.Step (service P s db requests) c ∧ c.world.Holds d.world ∧ c.thread = d.thread := by
  constructor
  · intro c h
    exact Pool.simulate database_simulates holds (service_stores storable) h
  · intro d h
    exact Pool.simulate store_simulates holds (service_stores storable) h

end Service
namespace Sample

/-! A cipher whose tokens are ASCII texts: it counts the pairs of a key and a payload. -/

deriving instance Encodable for PyFloat

def codePoints (s : String) : List Nat := s.toList.map Char.toNat

theorem toNat_injective : Function.Injective Char.toNat := fun _ _ same => Char.toNat_inj.mp same

theorem codePoints_injective : Function.Injective codePoints := by
  intro s s' same
  exact String.toList_injective (List.map_injective_iff.mpr toNat_injective same)

theorem loneText_ext {t t' : LoneText} (before : codePoints t.before = codePoints t'.before) (surrogate : t.surrogate = t'.surrogate)
    (after : t.after.map (Sum.map Char.toNat id) = t'.after.map (Sum.map Char.toNat id)) : t = t' := by
  have letters : Function.Injective (Sum.map Char.toNat (id : Surrogate → Surrogate)) :=
    toNat_injective.sumMap Function.injective_id
  cases t
  cases t'
  obtain rfl := codePoints_injective before
  obtain rfl : _ = _ := surrogate
  obtain rfl := List.map_injective_iff.mpr letters after
  rfl

/-- A JSON value, with its lists as values. -/
inductive JsonTree where
  | null
  | bool (b : Bool)
  | int (n : Int)
  | float (x : PyFloat)
  | str (s : List Nat)
  | lone (before : List Nat) (surrogate : Surrogate) (after : List (Nat ⊕ Surrogate))
  | arr (items : JsonTree)
  | obj (members : JsonTree)
  | nil
  | cons (item items : JsonTree)
  | member (key : List Nat) (value members : JsonTree)
  deriving Encodable

mutual
def jsonTree : Json → JsonTree
  | .null => .null
  | .bool b => .bool b
  | .int n => .int n
  | .float x => .float x
  | .str s => .str (codePoints s)
  | .lone t => .lone (codePoints t.before) t.surrogate (t.after.map (Sum.map Char.toNat id))
  | .arr items => .arr (itemsTree items)
  | .obj members => .obj (membersTree members)

def itemsTree : List Json → JsonTree
  | [] => .nil
  | item :: items => .cons (jsonTree item) (itemsTree items)

def membersTree : List (String × Json) → JsonTree
  | [] => .nil
  | (key, value) :: members => .member (codePoints key) (jsonTree value) (membersTree members)
end

mutual
theorem jsonTree_injective (v w : Json) (h : jsonTree v = jsonTree w) : v = w := by
  cases v <;> cases w <;> simp only [jsonTree, reduceCtorEq, JsonTree.bool.injEq, JsonTree.int.injEq, JsonTree.float.injEq,
    JsonTree.str.injEq, JsonTree.lone.injEq, JsonTree.arr.injEq, JsonTree.obj.injEq] at h
  · rfl
  · rw [h]
  · rw [h]
  · rw [h]
  · rw [codePoints_injective h]
  · rw [loneText_ext h.1 h.2.1 h.2.2]
  · rw [itemsTree_injective _ _ h]
  · rw [membersTree_injective _ _ h]

theorem itemsTree_injective (xs ys : List Json) (h : itemsTree xs = itemsTree ys) : xs = ys := by
  cases xs <;> cases ys <;> simp only [itemsTree, reduceCtorEq, JsonTree.cons.injEq] at h
  · rfl
  · rw [jsonTree_injective _ _ h.1, itemsTree_injective _ _ h.2]

theorem membersTree_injective (xs ys : List (String × Json)) (h : membersTree xs = membersTree ys) : xs = ys := by
  rcases xs with _ | ⟨⟨k, v⟩, xs⟩ <;> rcases ys with _ | ⟨⟨k', v'⟩, ys⟩ <;>
    simp only [membersTree, reduceCtorEq, JsonTree.member.injEq] at h
  · rfl
  · rw [codePoints_injective h.1, jsonTree_injective _ _ h.2.1, membersTree_injective _ _ h.2.2]
end
theorem membersTree_toList_injective : Function.Injective fun payload : Payload => membersTree payload.toList :=
  fun _ _ same => Std.ExtTreeMap.toList_inj.mp (membersTree_injective _ _ same)

def sealed (key : String) (payload : Payload) : Bytes :=
  List.replicate (Encodable.encode (codePoints key, membersTree payload.toList) + 1) 65

theorem sealed_injective {key key' : String} {payload payload' : Payload} (same : sealed key payload = sealed key' payload') :
    key = key' ∧ payload = payload' := by
  have lengths := congrArg List.length same
  simp only [sealed, List.length_replicate, Nat.add_right_cancel_iff] at lengths
  obtain ⟨keys, payloads⟩ := Prod.mk.inj (Encodable.encode_injective lengths)
  exact ⟨codePoints_injective keys, membersTree_toList_injective payloads⟩

theorem sealed_storable (key : String) (payload : Payload) : Storable (sealed key payload) := by
  refine ⟨?_, ?_⟩
  · simp [sealed]
  · simp [sealed, isAscii]

open Classical in
noncomputable def textFernet : Fernet Bytes where
  Key := String
  key text := if text.length = 44 then some text else none
  encrypt key _ payload := sealed key payload
  decrypt key token := if opens : ∃ payload, token = sealed key payload then some (.object opens.choose) else none
  isEmpty token := token.isEmpty
  decrypt_encrypt key _ payload := by
    have opens : ∃ payload', sealed key payload = sealed key payload' := ⟨payload, rfl⟩
    rw [dif_pos opens, ← (sealed_injective opens.choose_spec).2]
  authentic h := by
    split at h
    · rename_i opens
      obtain ⟨payload, same⟩ := opens
      exact (sealed_injective same).1.symm
    · cases h
  encrypt_nonempty key _ payload := by
    simp [sealed]

noncomputable def textPlatform : Platform Bytes where
  fernet := textFernet
  uuid := platform.uuid
  search := platform.search
  repr := platform.repr
  urlsplit := platform.urlsplit
  urlunsplit := platform.urlunsplit
  parseQs := platform.parseQs
  urlencode := platform.urlencode
  metered := platform.metered

def textSecret : ClientSecret textFernet where
  text := secret.text
  normalized := secret.normalized
  key := secret.text
  decodes := rfl

noncomputable def textWorld : World textFernet where
  store _ := none
  session key := if key = "state" then some "state" else none
  upstream _ := response 200 accessToken
  keys _ := textSecret
  ids _ := clientId

/-- A callback over the map. -/
noncomputable def textGranted : Pool.Config (bridge textPlatform.fernet) Exc Response (Store Bytes) Bool :=
  let run := (respond textPlatform settings (.callback arguments)).eval World.answer textWorld
  (service textPlatform settings (fun _ => none) requests).advance false run.world.store run.trace (Program.ofExcept run.result)

theorem textGranted_reachable :
    Pool.Reachable Store.Step (service textPlatform settings (fun _ => none) requests) textGranted := by
  have asked := Program.eval_runs World.answer (respond textPlatform settings (.callback arguments)) textWorld
  have stored := World.eval_follows_store (respond textPlatform settings (.callback arguments)) textWorld
  exact Pool.reachable_run (c := service textPlatform settings (fun _ => none) requests) (i := false) asked stored

theorem textGranted_answered : ∃ response, (textGranted.thread false).rest = .pure response := by
  obtain ⟨response, ended⟩ := respond_answers (P := textPlatform) (s := settings)
    (Program.eval_runs World.answer (respond textPlatform settings (.callback arguments)) textWorld)
  refine ⟨response, ?_⟩
  show Program.ofExcept _ = _
  rw [ended]
  rfl

end Sample

/-- The callback is answered over the table as it is over the map. -/
theorem service_refines_granted :
    ∃ c response, Pool.Reachable Database.Step
        (service Sample.textPlatform Sample.settings (Database.initializeTable {}) Sample.requests) c ∧
      (c.thread false).rest = .pure response ∧ c.world.Holds Sample.textGranted.world := by
  obtain ⟨response, answered⟩ := Sample.textGranted_answered
  have empty : (Database.initializeTable {}).Holds fun _ => none := ⟨{}, rfl, Represents.empty⟩
  obtain ⟨c, reached, holds, same⟩ := (service_refines (P := Sample.textPlatform)
    (fun key _ payload => Sample.sealed_storable key payload) empty).2 _ Sample.textGranted_reachable
  exact ⟨c, response, reached, by rw [same, answered], holds⟩

end OAuthClientBridge
