import BulkDml.Dialect.Basic
import BulkDml.Filter

namespace BulkDml

inductive Clause where
  | compare (column : String) (op : CompareOp) (value : Value)
  | compareColumns (left : String) (op : CompareOp) (right : String)
  | isNull (column : String)
  | isNotNull (column : String)
  /-- The column is one of the values, or null if `orNull` is set. -/
  | member (column : String) (values : List Value) (orNull : Bool)
  | never
  | and (left right : Clause)
  | or (left right : Clause)
  | not (inner : Clause)
deriving DecidableEq, Inhabited

namespace Clause

def membership (column : String) (values : List Value) : Clause :=
  let hasNull := values.any Value.isNull
  match values.filter (!·.isNull) with
  | [] => if hasNull then isNull column else never
  | present => member column present hasNull

/-- The condition that a filter states of the rows of a table. Fields are resolved left to right,
also where the condition does not depend on them. -/
def ofFilter (m : Mapping) : Filter → Except Error Clause
  | .compare field op operand => do
    let column ← m.resolveColumn field
    match operand with
    | .field other => return compareColumns column.name op (← m.resolveColumn other).name
    | .value v => comparison field column.name op v
    | .param v => comparison field column.name op v
  | .and left right => return and (← ofFilter m left) (← ofFilter m right)
  | .or left right => return or (← ofFilter m left) (← ofFilter m right)
  | .not inner => return not (← ofFilter m inner)
  | .isIn field values => return membership (← m.resolveColumn field).name values
  | .any values field => return membership (← m.resolveColumn field).name values
  | .isNull field => return isNull (← m.resolveColumn field).name
  | .isNotNull field => return isNotNull (← m.resolveColumn field).name
  | .local field label _ => .error (.localFilter label field)
where
  /-- Equality with null is a test for null, and no value is ordered against null. -/
  comparison (field column : String) (op : CompareOp) : Value → Except Error Clause
    | .null => match op with
      | .eq => .ok (isNull column)
      | .ne => .ok (isNotNull column)
      | _ => .error (.nullOrdering op.sql field)
    | v => .ok (compare column op v)

def inList (column : String) (values : List Value) : Fragment :=
  Fragment.sql (column ++ " IN ") ++ (Fragment.join ", " (values.map Fragment.param)).parenthesized

def toFragment (d : Dialect) : Clause → Fragment
  | compare column op value =>
    (Fragment.sql (d.quote column ++ " " ++ op.sql ++ " ")).pushParam value
  | compareColumns left op right =>
    Fragment.sql (d.quote left ++ " " ++ op.sql ++ " " ++ d.quote right)
  | isNull column => Fragment.sql (d.quote column ++ " IS NULL")
  | isNotNull column => Fragment.sql (d.quote column ++ " IS NOT NULL")
  | member column values orNull =>
    let list := inList (d.quote column) values
    if orNull then (list.pushSql (" OR " ++ d.quote column ++ " IS NULL")).parenthesized else list
  | never => Fragment.sql d.falsePredicate
  | and left right =>
    (left.toFragment d).parenthesized.pushSql " AND " ++ (right.toFragment d).parenthesized
  | or left right =>
    (left.toFragment d).parenthesized.pushSql " OR " ++ (right.toFragment d).parenthesized
  | not inner => Fragment.sql "NOT " ++ (inner.toFragment d).parenthesized

end Clause

end BulkDml
