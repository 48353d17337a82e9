import BulkDml.Clause.Basic

namespace BulkDml

inductive Truth where
  | false
  | unknown
  | true
deriving DecidableEq, Inhabited

namespace Truth

def ofBool (b : Bool) : Truth := if b then .true else .false

def not : Truth → Truth
  | .false => .true
  | .unknown => .unknown
  | .true => .false

def and : Truth → Truth → Truth
  | .false, _ => .false
  | _, .false => .false
  | .true, .true => .true
  | _, _ => .unknown

def or : Truth → Truth → Truth
  | .true, _ => .true
  | _, .true => .true
  | .false, .false => .false
  | _, _ => .unknown

def holds (t : Truth) : Bool := t == .true

end Truth

namespace CompareOp

def admits (op : CompareOp) (order : Ordering) : Bool :=
  match op, order with
  | eq, .eq => true
  | ne, .lt => true
  | ne, .gt => true
  | lt, .lt => true
  | le, .lt => true
  | le, .eq => true
  | gt, .gt => true
  | ge, .gt => true
  | ge, .eq => true
  | _, _ => false

end CompareOp

/-- How a database orders two values that are not null, given the columns that are compared. -/
abbrev Collation := List String → Value → Value → Ordering

namespace Clause

def mapValues (f : Value → Value) : Clause → Clause
  | compare column op value => compare column op (f value)
  | member column values orNull => member column (values.map f) orNull
  | and left right => and (left.mapValues f) (right.mapValues f)
  | or left right => or (left.mapValues f) (right.mapValues f)
  | not inner => not (inner.mapValues f)
  | c => c

def compareTruth (order : Collation) (columns : List String) (op : CompareOp)
    (left right : Value) : Truth :=
  if left.isNull || right.isNull then .unknown
  else .ofBool (op.admits (order columns left right))

def truth (order : Collation) (row : String → Value) : Clause → Truth
  | compare column op value => compareTruth order [column] op (row column) value
  | compareColumns left op right => compareTruth order [left, right] op (row left) (row right)
  | isNull column => .ofBool (row column).isNull
  | isNotNull column => .ofBool (!(row column).isNull)
  | member column values orNull =>
    let among := (values.map (compareTruth order [column] .eq (row column))).foldr Truth.or .false
    if orNull then among.or (.ofBool (row column).isNull) else among
  | never => .false
  | and left right => (left.truth order row).and (right.truth order row)
  | or left right => (left.truth order row).or (right.truth order row)
  | not inner => (inner.truth order row).not

end Clause

end BulkDml
