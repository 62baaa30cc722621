import OAuthClientBridge.Db.Connection
import OAuthClientBridge.Effect.Machine
import Mathlib.Logic.Relation

/-! `cursor(transaction=True)` leaves nothing half done, whatever fails in it. -/

namespace OAuthClientBridge
open Effect Program

variable {D Q R E α : Type} {exec : Q → D → Except E (R × D)} {classOf : E → ExceptionClass}

/-- What the block makes of the data when nothing fails but what has to. -/
def Block.run (exec : Q → D → Except E (R × D)) : Block Q R E α → D → Except E α × D
  | .done a, d => (.ok a, d)
  | .raises e, d => (.error e, d)
  | .execute statement next, d =>
    match exec statement d with
    | .ok (answer, d') => (next answer).run exec d'
    | .error e => (.error e, d)

def failure? : Event (connection Q R E) → Option E
  | ⟨.begin, .error e⟩ | ⟨.execute _, .error e⟩ | ⟨.commit, .error e⟩ => some e
  | _ => none

def failures (t : Trace (connection Q R E)) : List E := t.filterMap failure?

def enterFailure (l : List E) (e : Event (connection Q R E)) : List E := l ++ (failure? e).toList

theorem foldl_enterFailure (t : Trace (connection Q R E)) (l : List E) : t.foldl enterFailure l = l ++ failures t := by
  induction t generalizing l with
  | nil => exact (List.append_nil l).symm
  | cons e t ih =>
    rw [List.foldl_cons, ih, enterFailure, List.append_assoc, failures, failures, List.filterMap_cons]
    cases failure? e <;> rfl

abbrev Watched (D E : Type) := Connection D × List E

abbrev watched (exec : Q → D → Except E (R × D)) : Environment (connection Q R E) (Watched D E) :=
  audited (Connection.Step exec) enterFailure

/-- The block has raised `e` on data `d`: one operation failed, or none did and its own code raised. -/
def RaisedBy (exec : Q → D → Except E (R × D)) (block : Block Q R E α) (d : D) (e : E) (failed : List E) : Prop :=
  failed = [e] ∨ failed = [] ∧ (block.run exec d).1 = .error e

/-- A connection in a transaction, after a block that ended with `r`. -/
def Ran (exec : Q → D → Except E (R × D)) (block : Block Q R E α) (d₀ d : D) (r : Except E α) (w : Watched D E) : Prop :=
  match r with
  | .ok a => ∃ d', block.run exec d = (.ok a, d') ∧ w = (⟨d₀, some d'⟩, [])
  | .error e => w.1.committed = d₀ ∧ RaisedBy exec block d e w.2

theorem block_ran (block : Block Q R E α) (d₀ d : D) :
    block.action.Safe (watched exec) (fun _ _ => True) (Ran exec block d₀ d) (⟨d₀, some d⟩, []) := by
  induction block generalizing d with
  | done a => exact ⟨d, rfl, rfl⟩
  | raises e => exact ⟨rfl, .inr ⟨rfl, rfl⟩⟩
  | execute statement next ih =>
    refine ⟨trivial, ?_⟩
    rintro (e | answer) ⟨c, failed⟩ ⟨now, rfl⟩
    · exact ⟨now, .inl rfl⟩
    · obtain ⟨d', effect, rfl⟩ := now
      have same : (Block.execute statement next).run exec d = (next answer).run exec d' := by
        rw [Block.run, show exec statement d = _ from effect]
      refine (ih answer d').mono (fun _ _ allowed => allowed) ?_
      rintro (e | a) w ended
      · obtain ⟨kept, raised⟩ := ended
        refine ⟨kept, raised.imp_right fun own => ⟨own.1, ?_⟩⟩
        rw [same]
        exact own.2
      · obtain ⟨last, ran, rfl⟩ := ended
        exact ⟨last, same.trans ran, rfl⟩

/-- The block and the commit of its transaction. -/
def Committed (exec : Q → D → Except E (R × D)) (block : Block Q R E α) (d₀ : D) (r : Except E α) (w : Watched D E) : Prop :=
  match r with
  | .ok a => ∃ d, block.run exec d₀ = (.ok a, d) ∧ w = (⟨d, none⟩, [])
  | .error e => w.1.committed = d₀ ∧ RaisedBy exec block d₀ e w.2

def Left (exec : Q → D → Except E (R × D)) (block : Block Q R E α) (d₀ : D) (r : Except E α) (w : Watched D E) : Prop :=
  w.1.pending = none ∧
    match r with
    | .ok a => block.run exec d₀ = (.ok a, w.1.committed) ∧ w.2 = []
    | .error e => w.1.committed = d₀ ∧ RaisedBy exec block d₀ e w.2

section Rules
variable {β : Type} {f : Unit → DbAction Q R E β} {post : Except E β → Watched D E → Prop} {w : Watched D E}

theorem rollback_bind_safe (next : (f ()).Safe (watched exec) (fun _ _ => True) post (⟨w.1.committed, none⟩, w.2)) :
    (Connection.rollback >>= f).Safe (watched exec) (fun _ _ => True) post w := by
  refine ⟨trivial, ?_⟩
  rintro _ ⟨c, failed⟩ ⟨now, rfl⟩
  obtain rfl : c = ⟨w.1.committed, none⟩ := now
  rw [enterFailure, show (failure? _).toList = ([] : List E) from rfl, List.append_nil]
  exact next

theorem record_bind_safe {o : ConnectionOp Q E} (records : o.records = true)
    (next : (f ()).Safe (watched exec) (fun _ _ => True) post w) :
    (Connection.record o >>= f).Safe (watched exec) (fun _ _ => True) post w := by
  have quiet : ∀ (answer : (connection Q R E).Answer o) (w' : Watched D E), watched exec w ⟨o, answer⟩ w' → w' = w := by
    rintro answer ⟨c, failed⟩ ⟨now, rfl⟩
    cases o with
    | recordException _ | recordDatabaseError _ _ | recordCursor _ _ _ => exact Prod.ext now (List.append_nil _)
    | _ => cases records
  refine ⟨trivial, fun answer w' now => ?_⟩
  rw [quiet answer w' now]
  exact next

end Rules

theorem begin_ran (block : Block Q R E α) (d₀ : D) :
    (Connection.begin >>= fun _ => block.action).Safe (watched exec) (fun _ _ => True) (Ran exec block d₀ d₀)
      (⟨d₀, none⟩, []) := by
  refine ⟨trivial, ?_⟩
  rintro (e | _) ⟨c, failed⟩ ⟨now, rfl⟩
  · exact ⟨now, .inl rfl⟩
  · obtain ⟨_, rfl⟩ := now
    exact block_ran block d₀ d₀

theorem commit_committed (block : Block Q R E α) {d₀ d : D} {a : α} (ran : block.run exec d₀ = (.ok a, d)) :
    (Connection.commit >>= fun _ => (.pure a : DbAction Q R E α)).Safe (watched exec) (fun _ _ => True)
      (Committed exec block d₀) (⟨d₀, some d⟩, []) := by
  refine ⟨trivial, ?_⟩
  rintro (e | _) ⟨c, failed⟩ ⟨now, rfl⟩
  · exact ⟨now.2, .inl rfl⟩
  · obtain rfl : c = ⟨d, none⟩ := now
    exact ⟨d, ran, rfl⟩

theorem within_left (block : Block Q R E α) (d₀ : D) {body : DbAction Q R E α} {w : Watched D E}
    (h : body.Safe (watched exec) (fun _ _ => True) (Committed exec block d₀) w) :
    (Connection.within body).Safe (watched exec) (fun _ _ => True) (Left exec block d₀) w := by
  unfold Connection.within
  refine safe_bind.mpr (safe_tryCatch.mpr (h.mono (fun _ _ allowed => allowed) ?_))
  rintro (e | a) w ended
  · obtain ⟨kept, raised⟩ := ended
    exact rollback_bind_safe ⟨rfl, kept, raised⟩
  · obtain ⟨d, ran, rfl⟩ := ended
    refine safe_bind.mpr (safe_tryCatch.mpr ⟨trivial, ?_⟩)
    rintro (e | _) ⟨c, failed⟩ ⟨now, rfl⟩
    · exact absurd rfl now.1
    · obtain rfl : c = ⟨d, none⟩ := now
      exact ⟨rfl, ran, rfl⟩

theorem cursor_left (exec : Q → D → Except E (R × D)) (classOf : E → ExceptionClass) (name : String) (block : Block Q R E α) (d₀ : D) :
    (cursor classOf name true block.action).Safe (watched exec) (fun _ _ => True) (Left exec block d₀) (⟨d₀, none⟩, []) := by
  unfold cursor
  simp only [if_true]
  refine safe_bind.mpr (safe_tryCatch.mpr ((within_left block d₀ ?_).mono (fun _ _ allowed => allowed) ?_))
  · refine safe_bind.mpr (safe_tryCatch.mpr ((begin_ran block d₀).mono (fun _ _ allowed => allowed) ?_))
    rintro (e | a) w ended
    · obtain ⟨kept, raised⟩ := ended
      cases caught : (classOf e).caught with
      | true =>
        simp only [orElse, caught, if_true]
        apply record_bind_safe
        · rfl
        · exact rollback_bind_safe ⟨kept, raised⟩
      | false =>
        simp only [orElse, caught, Bool.false_eq_true, if_false]
        exact ⟨kept, raised⟩
    · obtain ⟨d, ran, rfl⟩ := ended
      exact commit_committed block ran
  · rintro (e | a) w ended
    · cases class' : classOf e with
      | sqlite className =>
        simp only [orElse, class']
        apply record_bind_safe
        · rfl
        · exact record_bind_safe rfl ended
      | exception | baseException =>
        simp only [orElse, class']
        exact record_bind_safe rfl ended
    · exact record_bind_safe rfl ended

/-- What is promised of a cursor with a transaction: it leaves none open, has committed all that the
block did, or has changed nothing and raises what failed. -/
structure AllOrNothing (exec : Q → D → Except E (R × D)) (block : Block Q R E α) (c : Connection D)
    (t : Trace (connection Q R E)) (r : Except E α) (c' : Connection D) : Prop where
  closed : c'.pending = none
  committed : ∀ a, r = .ok a → block.run exec c.committed = (.ok a, c'.committed) ∧ failures t = []
  unchanged : ∀ e, r = .error e → c'.committed = c.committed ∧ RaisedBy exec block c.committed e (failures t)

theorem cursor_allOrNothing {name : String} {block : Block Q R E α} {c c' : Connection D} {t : Trace (connection Q R E)}
    {r : Except E α} (idle : c.pending = none) (run : Runs (cursor classOf name true block.action) t r)
    (follows : Follows (Connection.Step exec) c t c') : AllOrNothing exec block c t r c' := by
  obtain ⟨d₀, pending⟩ := c
  obtain rfl : pending = none := idle
  have left := (cursor_left exec classOf name block d₀).runs run (follows_audited enterFailure [] follows)
  rw [foldl_enterFailure, List.nil_append] at left
  obtain ⟨closed, ended⟩ := left
  refine ⟨closed, ?_, ?_⟩
  · rintro a rfl
    exact ended
  · rintro e rfl
    exact ended

/-! ### Calls on one connection -/

/-- A call of `insert` or `update` on a connection, whatever fails in it. -/
inductive TokensCall (c c' : Connection Database) : Prop where
  | insert {now : ℚ} {id : ClientId} {token : Python.Bytes} {t : Trace (connection TokensStatement Nat DbException)}
      {r : Except DbException Unit} (run : Runs (insertToken now id token) t r)
      (follows : Follows (Connection.Step TokensStatement.exec) c t c')
  | update {now : ℚ} {id : ClientId} {token : Option Python.Bytes} {t : Trace (connection TokensStatement Nat DbException)}
      {r : Except DbException Nat} (run : Runs (updateToken now id token) t r)
      (follows : Follows (Connection.Step TokensStatement.exec) c t c')

def Database.Writes (db db' : Database) : Prop :=
  (∃ now id token, db.insert now id token = (.ok (), db')) ∨ ∃ now id token rowcount, db.update now id token = (.ok rowcount, db')

theorem insertBlock_run {now : ℚ} {id : ClientId} {token : Python.Bytes} {db db' : Database}
    (ran : (insertBlock now id token).run TokensStatement.exec db = (.ok (), db')) : db.insert now id token = (.ok (), db') := by
  unfold insertBlock at ran
  unfold Database.insert Database.transaction
  cases prepared : prepareToken (some token) with
  | error e =>
    rw [prepared] at ran
    cases ran
  | ok cell =>
    simp only [prepared, Block.run, TokensStatement.exec] at ran
    cases found : db.table with
    | error e =>
      rw [found] at ran
      cases ran
    | ok table =>
      simp only [found] at ran
      cases inserted : table.insert ⟨id.str, cell, .integer (prepareTimestamp now), .integer (prepareTimestamp now)⟩ with
      | error e =>
        rw [inserted] at ran
        cases ran
      | ok table' =>
        simp only [inserted] at ran
        obtain rfl : (⟨some table'⟩ : Database) = db' := (Prod.ext_iff.mp ran).2
        simp only [found, inserted, Bind.bind, Except.bind, Pure.pure, Except.pure]

theorem updateBlock_run {now : ℚ} {id : ClientId} {token : Option Python.Bytes} {db db' : Database} {n : Nat}
    (ran : (updateBlock now id token).run TokensStatement.exec db = (.ok n, db')) : db.update now id token = (.ok n, db') := by
  unfold updateBlock at ran
  unfold Database.update Database.transaction
  cases prepared : prepareToken token with
  | error e =>
    rw [prepared] at ran
    cases ran
  | ok cell =>
    simp only [prepared, Block.run, TokensStatement.exec] at ran
    cases found : db.table with
    | error e =>
      rw [found] at ran
      cases ran
    | ok table =>
      simp only [found] at ran
      obtain ⟨rowcount, rfl⟩ := Prod.ext_iff.mp ran
      cases rowcount
      simp only [found, Bind.bind, Except.bind, Pure.pure, Except.pure]

theorem TokensCall.whole {c c' : Connection Database} (idle : c.pending = none) (call : TokensCall c c') :
    c'.pending = none ∧ (c'.committed = c.committed ∨ c.committed.Writes c'.committed) := by
  cases call with
  | @insert now id token t r run follows =>
    have left := cursor_allOrNothing idle run follows
    refine ⟨left.closed, ?_⟩
    cases r with
    | error e => exact .inl (left.unchanged e rfl).1
    | ok _ => exact .inr (.inl ⟨now, id, token, insertBlock_run (left.committed _ rfl).1⟩)
  | @update now id token t r run follows =>
    have left := cursor_allOrNothing idle run follows
    refine ⟨left.closed, ?_⟩
    cases r with
    | error e => exact .inl (left.unchanged e rfl).1
    | ok rowcount => exact .inr (.inr ⟨now, id, token, rowcount, updateBlock_run (left.committed _ rfl).1⟩)

/-- A cursor with a transaction is all or nothing; so after any calls of `insert` and `update` on one connection no
transaction is open, and the database is what whole writes made of it. -/
theorem cursor_atomic :
    (∀ {D Q R E α : Type} (exec : Q → D → Except E (R × D)) (classOf : E → ExceptionClass) (name : String)
      (block : Block Q R E α) (c c' : Connection D) (t : Trace (connection Q R E)) (r : Except E α), c.pending = none →
      Runs (cursor classOf name true block.action) t r → Follows (Connection.Step exec) c t c' →
      AllOrNothing exec block c t r c') ∧
    ∀ c c' : Connection Database, c.pending = none → Relation.ReflTransGen TokensCall c c' →
      c'.pending = none ∧ Relation.ReflTransGen Database.Writes c.committed c'.committed := by
  constructor
  · intro D Q R E α exec classOf name block c c' t r idle run follows
    exact cursor_allOrNothing idle run follows
  · intro c c' idle calls
    induction calls with
    | refl => exact ⟨idle, .refl⟩
    | tail _ call ih =>
      obtain ⟨idle', writes⟩ := ih
      obtain ⟨closed, kept | whole⟩ := call.whole idle'
      · exact ⟨closed, kept ▸ writes⟩
      · exact ⟨closed, writes.tail whole⟩

namespace Sample

def lockedError : DbException := .other (.sqlite "OperationalError")

/-- A connection to a database that another one keeps locked, so that no commit succeeds. -/
def locked : Machine (connection TokensStatement Nat DbException) (Connection Database)
  | .begin, c => if c.pending = none then (.ok (), { c with pending := some c.committed }) else (.error lockedError, c)
  | .execute statement, c =>
    match statement.exec c.view with
    | .ok (rowcount, db) => (.ok rowcount, c.write db)
    | .error e => (.error e, c)
  | .commit, c => if c.pending = none then (.ok (), c) else (.error lockedError, c)
  | .rollback, c => ((), ⟨c.committed, none⟩)
  | .recordException _, c | .recordDatabaseError _ _, c | .recordCursor _ _ _, c => ((), c)

theorem locked_step (o : ConnectionOp TokensStatement DbException) (c : Connection Database) :
    Connection.Step TokensStatement.exec c ⟨o, (locked o c).1⟩ (locked o c).2 := by
  cases o with
  | begin =>
    by_cases idle : c.pending = none
    · simp only [locked, if_pos idle]
      exact ⟨idle, rfl⟩
    · simp only [locked, if_neg idle]
      exact rfl
  | execute statement =>
    cases effect : statement.exec c.view with
    | error e =>
      simp only [locked, effect]
      exact rfl
    | ok answer =>
      simp only [locked, effect]
      exact ⟨_, effect, rfl⟩
  | commit =>
    by_cases idle : c.pending = none
    · simp only [locked, if_pos idle]
      obtain ⟨committed, pending⟩ := c
      obtain rfl : pending = none := idle
      exact rfl
    · simp only [locked, if_neg idle]
      exact ⟨idle, rfl⟩
  | _ => exact rfl

def initialized : Connection Database := ⟨Database.initializeTable {}, none⟩

def lockedInsert : Outcome (connection TokensStatement Nat DbException) DbException Unit (Connection Database) :=
  (insertToken 0 ⟨1⟩ [65]).eval locked initialized

end Sample

theorem cursor_atomic_locked :
    Sample.lockedInsert.result = .error Sample.lockedError ∧ Sample.lockedInsert.world.pending = none ∧
      Sample.lockedInsert.world.committed = Database.initializeTable {} ∧
      failures Sample.lockedInsert.trace = [Sample.lockedError] ∧
      Relation.ReflTransGen Database.Writes (Database.initializeTable {}) Sample.lockedInsert.world.committed := by
  have run : Runs (insertToken 0 ⟨1⟩ [65]) Sample.lockedInsert.trace Sample.lockedInsert.result :=
    eval_runs Sample.locked _ _
  have follows : Follows (Connection.Step TokensStatement.exec) Sample.initialized Sample.lockedInsert.trace
      Sample.lockedInsert.world := eval_follows id Sample.locked_step _ Sample.initialized
  have failed : Sample.lockedInsert.result = .error Sample.lockedError := rfl
  have left := cursor_atomic.1 _ _ _ _ _ _ _ _ rfl run follows
  obtain ⟨unchanged, _⟩ := left.unchanged _ failed
  have once : failures Sample.lockedInsert.trace = [Sample.lockedError] := rfl
  exact ⟨failed, left.closed, unchanged, once,
    (cursor_atomic.2 Sample.initialized _ rfl (.single (.insert run follows))).2⟩

end OAuthClientBridge
