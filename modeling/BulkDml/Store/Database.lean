import BulkDml.Store.Table

namespace BulkDml.Store

structure Savepoint where
  name : String
  tables : List Table
deriving DecidableEq

/-- An embedded database. A transaction is opened explicitly or by the first of a stack of
savepoints, each of which keeps the tables as they were when it was made. -/
structure Database where
  tables : List Table
  began : Option (List Table)
  savepoints : List Savepoint
  /-- Rows touched by the last insert, update or delete; none if it failed at work. -/
  changes : Nat
  busyTimeout : UInt64
deriving DecidableEq

abbrev Action (α : Type) := Database → Except Failure α × Database

namespace Database

def new : Database := ⟨[], none, [], 0, 5000⟩

def open? (path : String) : Except Failure Database :=
  if path = ":memory:" then .ok new else .error (.cannotOpen path)

def createTable (db : Database) (name : String) : Database :=
  { db with tables := db.tables ++ [⟨name, []⟩] }

def autocommit (db : Database) : Bool := db.began.isNone && db.savepoints.isEmpty

def begin : Action Unit := fun db =>
  if db.autocommit then (.ok (), { db with began := some db.tables })
  else (.error .nestedTransaction, db)

def commit : Action Unit := fun db =>
  if db.autocommit then (.error .nothingToCommit, db)
  else (.ok (), { db with began := none, savepoints := [] })

def atStart (db : Database) : List Table :=
  match db.began, db.savepoints.getLast? with
  | some tables, _ => tables
  | none, some oldest => oldest.tables
  | none, none => db.tables

def rollback : Action Unit := fun db =>
  if db.autocommit then (.error .nothingToRollBack, db)
  else (.ok (), { db with tables := db.atStart, began := none, savepoints := [] })

def savepoint (name : String) : Action Unit := fun db =>
  (.ok (), { db with savepoints := ⟨name, db.tables⟩ :: db.savepoints })

def savepointsFrom (db : Database) (name : String) : List Savepoint :=
  db.savepoints.dropWhile (·.name != name)

def release (name : String) : Action Unit := fun db =>
  match db.savepointsFrom name with
  | [] => (.error (.noSuchSavepoint name), db)
  | _ :: older => (.ok (), { db with savepoints := older })

def rollbackTo (name : String) : Action Unit := fun db =>
  match db.savepointsFrom name with
  | [] => (.error (.noSuchSavepoint name), db)
  | s :: older => (.ok (), { db with tables := s.tables, savepoints := s :: older })

def table (db : Database) (ref : TableRef) : Except Failure Table :=
  let missing := Failure.noSuchTable (ref.schema.elim ref.name (· ++ "." ++ ref.name))
  if ref.schema.all (sameName "main") then
    (db.tables.find? (sameName ref.name ·.name)).elim (.error missing) .ok
  else .error missing

def replaced (db : Database) (t : Table) : List Table :=
  db.tables.map fun old => if old.name = t.name then t else old

def lackingColumn? (set : AssignmentSet) : Option String := set.columns.find? (!isColumn ·)

def deleteRows (db : Database) (ref : TableRef) (condition : Option Condition)
    (limit : Option RowLimit) : Except Failure (List Table × Nat) := do
  let t ← db.table ref
  let rows ← t.selected condition limit
  return (db.replaced (t.delete rows), rows.length)

def updateRows (db : Database) (ref : TableRef) (set : AssignmentSet)
    (condition : Option Condition) (limit : Option RowLimit) :
    Except Failure (List Table × Nat) := do
  let t ← db.table ref
  if let some column := lackingColumn? set then throw (.noSuchColumn column)
  let rows ← t.selected condition limit
  return (db.replaced (← t.update set rows), rows.length)

def insertRows (db : Database) (target : TableRef) (set : AssignmentSet) (source : TableRef)
    (condition : Option Condition) (limit : Option RowLimit) :
    Except Failure (List Table × Nat) := do
  let t ← db.table target
  if let some column := lackingColumn? set then throw (.tableLacksColumn t.name column)
  let origin ← db.table source
  let rows ← origin.selected condition limit
  return (db.replaced (← t.insert set rows), rows.length)

/-- Installs the result of a change and its count. A change that fails leaves the tables alone, and
counts as none if it failed at work. -/
def change (result : Except Failure (List Table × Nat)) : Action (List (List Value)) := fun db =>
  match result with
  | .ok (tables, count) => (.ok [], { db with tables, changes := count })
  | .error f => (.error f, if f.isRuntime then { db with changes := 0 } else db)

def selectColumns (db : Database) (columns : List String) (ref : TableRef)
    (condition : Option Condition) (limit : Option RowLimit) :
    Except Failure (List (List Value)) := do
  let t ← db.table ref
  let rows ← t.selected condition limit
  return rows.map fun row => columns.map row.get

end Database

end BulkDml.Store
