import BulkDml.Store.Database

namespace BulkDml.Store

/-- Of statements that a caller wrote as text, the embedded database knows these. -/
inductive KnownStatement where
  | selectParams (count : Nat)
  | selectNothing
  | castText
  | countRows (table : String)
  | busyTimeout
  | insertRow (table : String)
  | begin
  | commit
  | rollback
deriving DecidableEq

namespace KnownStatement

def ofText? (sql : String) : Option KnownStatement :=
  [("SELECT ?1", selectParams 1), ("SELECT ?1, ?2", selectParams 2),
    ("SELECT ?1 WHERE 0", selectNothing), ("SELECT CAST(?1 AS TEXT)", castText),
    ("SELECT COUNT(*) FROM t", countRows "t"), ("PRAGMA busy_timeout", busyTimeout),
    ("INSERT INTO t VALUES (?1, ?2)", insertRow "t"), ("BEGIN", begin), ("COMMIT", commit),
    ("ROLLBACK", rollback)].lookup sql

def paramCount : KnownStatement → Nat
  | selectParams count => count
  | selectNothing => 1
  | castText => 1
  | insertRow _ => 2
  | _ => 0

end KnownStatement

namespace Database

def silently (action : Action Unit) : Action (List (List Value)) := fun db =>
  let (answer, db) := action db
  (answer.map fun _ => [], db)

def insertValues (db : Database) (name : String) (key value : Value) :
    Except Failure (List Table × Nat) := do
  let t ← db.table ⟨none, name⟩
  let row ← t.checked (if key.isNull then .integer t.nextKey else key) value
  return (db.replaced (t.put row), 1)

def runKnown (s : KnownStatement) (params : List Value) : Action (List (List Value)) :=
  match s with
  | .selectParams _ => fun db => (.ok [params], db)
  | .selectNothing => fun db => (.ok [], db)
  | .castText => fun db =>
    (.ok [params.map fun v => if v.isNull then .null else .text (textOf v)], db)
  | .countRows name => fun db =>
    ((db.table ⟨none, name⟩).map fun t => [[.integer (Int64.ofNat t.rows.length)]], db)
  | .busyTimeout => fun db => (.ok [[.integer (Int64.ofNat db.busyTimeout.toNat)]], db)
  | .insertRow name => fun db =>
    change (db.insertValues name (params.getD 0 .null) (params.getD 1 .null)) db
  | .begin => silently begin
  | .commit => silently commit
  | .rollback => silently rollback

def runRaw (s : Statement) : Action (List (List Value)) :=
  match KnownStatement.ofText? s.sql with
  | none => fun db => (.error (.unrecognized s.sql), db)
  | some known =>
    if s.params.length = known.paramCount then runKnown known (s.params.map stored)
    else fun db => (.error (.parameterCount s.params.length known.paramCount), db)

def run (c : Command) : Action (List (List Value)) := fun db =>
  match c with
  | .delete table condition limit => change (db.deleteRows table condition limit) db
  | .update table set condition limit => change (db.updateRows table set condition limit) db
  | .insert target set source condition limit =>
    change (db.insertRows target set source condition limit) db
  | .selectKeys columns table condition limit =>
    (db.selectColumns columns table condition limit, db)
  | .raw statement => runRaw statement db

def execute (c : Command) : Action UInt64 := fun db =>
  match run c db with
  | (.ok [], db) => (.ok db.changes.toUInt64, db)
  | (.ok _, db) => (.error .returnedRows, db)
  | (.error f, db) => (.error f, db)

end Database

end BulkDml.Store
