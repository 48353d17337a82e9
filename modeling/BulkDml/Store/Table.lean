import BulkDml.Store.Cell
import BulkDml.Store.Failure
import BulkDml.Command
import BulkDml.Condition.Truth

namespace BulkDml.Store

structure Row where
  key : Int64
  value : Value
deriving DecidableEq

/-- A table with a unique integer key `k` and a column `v` of any type, neither of them null. Rows
are kept by ascending key. -/
structure Table where
  name : String
  rows : List Row
deriving DecidableEq

def sameName (a b : String) : Bool := a.map Char.toLower == b.map Char.toLower

def keyName : String := "k"

def valueName : String := "v"

def isColumn (name : String) : Bool := sameName name keyName || sameName name valueName

def collation : Collation := fun columns v w =>
  if columns.any (sameName keyName) then compareCells (numeric v) (numeric w)
  else compareCells v w

namespace Row

/-- The value of a column. A quoted name that is no column stands for its own text. -/
def get (r : Row) (column : String) : Value :=
  if sameName column keyName then .integer r.key
  else if sameName column valueName then r.value
  else .text column

def eval (r : Row) (own : String) : AssignedValue → Value
  | .literal v => stored v
  | .param v => stored v
  | .column name => r.get name
  | .derived op operand => combine op (r.get own) (r.eval own operand)
  | .binary left op right => combine op (r.eval own left) (r.eval own right)

def assigned? (r : Row) (set : AssignmentSet) (column : String) : Option Value :=
  (set.assignments.find? (sameName column ·.column)).map fun a => r.eval a.column a.value

def truth (r : Row) (c : Condition) : Truth := (c.mapValues stored).truth collation r.get

end Row

namespace Table

def has (t : Table) (key : Int64) : Bool := t.rows.any (·.key == key)

def erase (t : Table) (key : Int64) : Table := { t with rows := t.rows.filter (·.key != key) }

def put (t : Table) (row : Row) : Table :=
  { t with rows := t.rows.takeWhile (·.key < row.key) ++ row :: t.rows.dropWhile (·.key < row.key) }

def nextKey (t : Table) : Int64 :=
  match t.rows.getLast? with
  | some row => row.key + 1
  | none => 1

def checked (t : Table) (key value : Value) : Except Failure Row :=
  match keyOf? key with
  | none => .error .datatypeMismatch
  | some key =>
    if value.isNull then .error (.notNull t.name valueName)
    else if t.has key then .error (.unique t.name keyName)
    else .ok ⟨key, value⟩

/-- Rows that a statement works on. A limit beyond the integers is refused. -/
def selected (t : Table) (condition : Option Condition) (limit : Option RowLimit) :
    Except Failure (List Row) :=
  let matching := t.rows.filter fun r => condition.all fun c => (r.truth c).holds
  match limit with
  | none => .ok matching
  | some l => if l.count.toNat < 0x8000000000000000 then .ok (matching.take l.count.toNat)
    else .error .datatypeMismatch

def updateRow (set : AssignmentSet) (t : Table) (old : Row) : Except Failure Table := do
  let rest := t.erase old.key
  let row ← rest.checked ((old.assigned? set keyName).getD (.integer old.key))
    ((old.assigned? set valueName).getD old.value)
  return rest.put row

def insertRow (set : AssignmentSet) (t : Table) (source : Row) : Except Failure Table := do
  let key := (source.assigned? set keyName).getD .null
  let row ← t.checked (if key.isNull then .integer t.nextKey else key)
    ((source.assigned? set valueName).getD .null)
  return t.put row

/-- Each row is changed by its old values, against the table as changed so far; the first row that
fails ends the change. -/
def update (t : Table) (set : AssignmentSet) (rows : List Row) : Except Failure Table :=
  rows.foldlM (updateRow set) t

def insert (t : Table) (set : AssignmentSet) (rows : List Row) : Except Failure Table :=
  rows.foldlM (insertRow set) t

def delete (t : Table) (rows : List Row) : Table :=
  rows.foldl (fun t row => t.erase row.key) t

end Table

end BulkDml.Store
