import BulkDml.Proofs.Session.Savepoint
import BulkDml.Store.Engine

namespace BulkDml.Store

namespace Savepoint

def named (s : Savepoint) : String × List Table := (s.name, s.tables)

end Savepoint

namespace Database

def view (db : Database) : Visible (List Table) :=
  ⟨db.tables, db.began, db.savepoints.map Savepoint.named⟩

theorem autocommit_iff (db : Database) :
    db.autocommit = true ↔ db.view.transaction = .closed := by
  simp [autocommit, view, Transaction.closed]

theorem change_transaction (result : Except Failure (List Table × Nat)) (db : Database) :
    (change result db).2.view.transaction = db.view.transaction := by
  cases result with
  | ok _ => rfl
  | error f =>
    simp only [change]
    split <;> rfl

theorem change_failed {result : Except Failure (List Table × Nat)} {db after : Database}
    {f : Failure} (failed : change result db = (.error f, after)) : after.view = db.view := by
  cases result with
  | ok _ => cases failed
  | error g =>
    cases failed
    split <;> rfl

theorem run_transaction {c : Command} (written : c.isRaw = false) (db : Database) :
    (run c db).2.view.transaction = db.view.transaction := by
  cases c with
  | delete => exact change_transaction _ db
  | update => exact change_transaction _ db
  | insert => exact change_transaction _ db
  | selectKeys => rfl
  | raw => cases written

theorem run_failed {c : Command} (written : c.isRaw = false) {db after : Database} {f : Failure}
    (failed : run c db = (.error f, after)) : after.view = db.view := by
  cases c with
  | delete => exact change_failed failed
  | update => exact change_failed failed
  | insert => exact change_failed failed
  | selectKeys =>
    obtain ⟨_, rfl⟩ := Prod.mk.inj failed
    rfl
  | raw => cases written

/-- Only a select gives rows. -/
theorem run_rows {c : Command} (written : c.isRaw = false) {db after : Database}
    {row : List Value} {rows : List (List Value)}
    (gave : run c db = (.ok (row :: rows), after)) : after.view = db.view := by
  have noRows {result : Except Failure (List Table × Nat)} :
      change result db ≠ (.ok (row :: rows), after) := by
    cases result <;> simp [change]
  cases c with
  | delete => exact absurd gave noRows
  | update => exact absurd gave noRows
  | insert => exact absurd gave noRows
  | selectKeys =>
    obtain ⟨_, rfl⟩ := Prod.mk.inj gave
    rfl
  | raw => cases written

theorem execute_transaction {c : Command} (written : c.isRaw = false) (db : Database) :
    (execute c db).2.view.transaction = db.view.transaction := by
  rw [← run_transaction written db]
  unfold execute
  split <;> next ran => rw [ran]

theorem execute_failed {c : Command} (written : c.isRaw = false) {db after : Database}
    {f : Failure} (failed : execute c db = (.error f, after)) : after.view = db.view := by
  unfold execute at failed
  split at failed
  · cases failed
  · next answer _ notEmpty ran =>
    cases failed
    cases answer with
    | nil => exact (notEmpty rfl).elim
    | cons row rows => exact run_rows written ran
  · next ran =>
    cases failed
    exact run_failed written ran

theorem savepointsFrom_newest {db : Database} {s : Savepoint} {older : List Savepoint}
    (newest : db.savepoints = s :: older) : db.savepointsFrom s.name = s :: older := by
  simp [savepointsFrom, newest]

theorem release_newest {db : Database} {s : Savepoint} {older : List Savepoint}
    (newest : db.savepoints = s :: older) :
    release s.name db = (.ok (), { db with savepoints := older }) := by
  simp [release, savepointsFrom_newest newest]

theorem rollbackTo_newest {db : Database} {s : Savepoint} {older : List Savepoint}
    (newest : db.savepoints = s :: older) :
    rollbackTo s.name db = (.ok (), { db with tables := s.tables, savepoints := s :: older }) := by
  simp [rollbackTo, savepointsFrom_newest newest]

theorem newest_of_view {db : Database} {began : Option (List Table)} {name : String}
    {saved : List Table} {older : List (String × List Table)}
    (transaction : db.view.transaction = ⟨began, (name, saved) :: older⟩) :
    db.began = began ∧ ∃ rest, db.savepoints = ⟨name, saved⟩ :: rest ∧
      rest.map Savepoint.named = older := by
  obtain ⟨same, savepoints⟩ := Transaction.mk.inj transaction
  obtain ⟨s, rest, newest, named, others⟩ := List.map_eq_cons_iff.mp savepoints
  cases named
  exact ⟨same, rest, newest, others⟩

theorem rollback_open {db : Database} {start : List Table}
    (opened : db.view.transaction.start? = some start) :
    rollback db = (.ok (), { db with tables := start, began := none, savepoints := [] }) := by
  obtain ⟨tables, began, savepoints, changes, busyTimeout⟩ := db
  cases began with
  | some tables =>
    cases opened
    rfl
  | none =>
    rcases savepoints.eq_nil_or_concat with rfl | ⟨newer, oldest, rfl⟩
    · cases opened
    · have start_eq : oldest.tables = start := by
        simpa [view, Transaction.start?, Savepoint.named] using opened
      simp [rollback, autocommit, atStart, start_eq]

end Database

theorem reported_ok {α : Type} {action : Action α} {db after : Database} {a : α}
    (gave : reported action db = (.ok a, after)) : action db = (.ok a, after) := by
  unfold reported at gave
  generalize action db = acted at gave ⊢
  obtain ⟨f | _, _⟩ := acted <;> cases gave
  rfl

theorem reported_failed {α : Type} {action : Action α} {db after : Database} {e : Error}
    (failed : reported action db = (.error e, after)) : ∃ f, action db = (.error f, after) := by
  unfold reported at failed
  generalize action db = acted at failed ⊢
  obtain ⟨f | _, _⟩ := acted <;> cases failed
  exact ⟨f, rfl⟩

theorem reported_of_ok {α : Type} {action : Action α} {db after : Database} {a : α}
    (gave : action db = (.ok a, after)) : reported action db = (.ok a, after) := by
  rw [reported, gave]
  rfl

theorem savepointLaws : SavepointLaws engine Database.view where
  autocommit_iff := Database.autocommit_iff
  execute_transaction r db written := Database.execute_transaction written db
  execute_failed r db after f written failed := by
    change reported (Database.execute r.command) db = _ at failed
    obtain ⟨_, ran⟩ := reported_failed failed
    exact Database.execute_failed written ran
  query_view d columns table condition limit db := rfl
  savepoint_made name db after made := by
    cases made
    rfl
  savepoint_failed name db after f failed := by cases failed
  released name db after began saved older newest gave := by
    obtain ⟨same, rest, stack, others⟩ := Database.newest_of_view newest
    change reported (Database.release name) db = _ at gave
    have released := reported_ok gave
    rw [Database.release_newest stack] at released
    cases released
    simp [Database.view, same, others]
  release_failed name db after f failed := by
    change reported (Database.release name) db = _ at failed
    obtain ⟨g, released⟩ := reported_failed failed
    unfold Database.release at released
    split at released
    · cases released
      rfl
    · cases released
  release_inner name db began saved older newest _ := by
    obtain ⟨_, rest, stack, _⟩ := Database.newest_of_view newest
    exact congrArg Prod.fst (reported_of_ok (Database.release_newest stack))
  rolledBackTo name db began saved older newest := by
    obtain ⟨same, rest, stack, others⟩ := Database.newest_of_view newest
    have undone := reported_of_ok (Database.rollbackTo_newest stack)
    change (reported (Database.rollbackTo name) db).1 = _ ∧
      Database.view (reported (Database.rollbackTo name) db).2 = _
    rw [undone]
    simp [Database.view, stack]
  rolledBack db start opened := by
    have undone := reported_of_ok (Database.rollback_open opened)
    change (reported Database.rollback db).1 = _ ∧
      Database.view (reported Database.rollback db).2 = _
    rw [undone]
    exact ⟨rfl, rfl⟩

def keyedTable : Mapping :=
  ⟨⟨none, "t", [⟨"k", "k", .integer, true⟩, ⟨"v", "v", .text, false⟩]⟩, by decide⟩

def oneKeyAtATime : Session (Handle Database) :=
  ⟨engine.connection, Config.default.withMaxKeysPerStatement 1, rfl⟩

end BulkDml.Store
