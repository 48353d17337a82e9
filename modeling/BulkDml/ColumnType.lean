import BulkDml.Value.Basic

namespace BulkDml

inductive ColumnType where
  | integer
  | real
  | text
  | bool
  | blob
  | timestamp
deriving DecidableEq, Inhabited

namespace ColumnType

def all : List ColumnType := [integer, real, text, bool, blob, timestamp]

def name : ColumnType → String
  | integer => "Integer"
  | real => "Real"
  | text => "Text"
  | bool => "Bool"
  | blob => "Blob"
  | timestamp => "Timestamp"

def default : ColumnType → Value
  | integer => .integer 0
  | real => .real .zero
  | bool => .bool false
  | text => .null
  | blob => .null
  | timestamp => .null

/-- Whether a value can be stored in a column of this type. Every column takes null; integers also
pass for reals, booleans and timestamps, and booleans for integers. -/
def accepts : ColumnType → Value → Bool
  | _, .null => true
  | integer, .integer _ => true
  | integer, .bool _ => true
  | real, .real _ => true
  | real, .integer _ => true
  | text, .text _ => true
  | bool, .bool _ => true
  | bool, .integer _ => true
  | blob, .blob _ => true
  | timestamp, .timestamp _ => true
  | timestamp, .integer _ => true
  | _, _ => false

/-- Whether a value says that the column was left unset: null, or a zero of the column's type. -/
def isUnset (t : ColumnType) (v : Value) : Bool :=
  v.isNull || match t with
    | integer => v.asInteger? == some 0
    | real => v.asReal?.any (·.numEq .zero)
    | bool => v == .bool false || v == .integer 0
    | text => false
    | blob => false
    | timestamp => false

def isNumeric : ColumnType → Bool
  | integer => true
  | real => true
  | _ => false

def ofValue? : Value → Option ColumnType
  | .null => none
  | .integer _ => some integer
  | .real _ => some real
  | .text _ => some text
  | .bool _ => some bool
  | .blob _ => some blob
  | .timestamp _ => some timestamp

end ColumnType

end BulkDml
