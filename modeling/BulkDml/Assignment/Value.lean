import BulkDml.Dialect.Basic
import BulkDml.Assignment.Expr

namespace BulkDml

inductive AssignedValue where
  | literal (v : Value)
  | param (v : Value)
  | column (name : String)
  /-- The old value of the assigned column itself, combined with an operand. -/
  | derived (op : ArithmeticOp) (operand : AssignedValue)
  | binary (left : AssignedValue) (op : ArithmeticOp) (right : AssignedValue)
deriving DecidableEq, Inhabited

namespace AssignedValue

def isDerived : AssignedValue → Bool
  | derived .. => true
  | _ => false

def isCompound : AssignedValue → Bool
  | derived .. => true
  | binary .. => true
  | _ => false

def ofExpr (m : Mapping) : Expr → Except Error AssignedValue
  | .literal v => .ok (literal v)
  | .param v => .ok (param v)
  | .field name => return column (← m.resolveColumn name).name
  | .binary left op right => do
    let op ← Expr.resolveOp m op left right
    return binary (← ofExpr m left) op (← ofExpr m right)

/-- The value assigned to a field of the same table. An operation on the field's own old value is
marked as derived. -/
def ofOwnExpr (m : Mapping) (field : String) : Expr → Except Error AssignedValue
  | .binary (.field name) op right =>
    if name = field then do
      let op ← Expr.resolveOp m op (.field name) right
      return derived op (← ofExpr m right)
    else ofExpr m (.binary (.field name) op right)
  | e => ofExpr m e

def literalFragment (d : Dialect) : Value → Fragment
  | .null => Fragment.sql "NULL"
  | .integer n => Fragment.sql (toString n.toInt)
  | .bool b => Fragment.sql (d.boolLiteral b)
  | v => Fragment.param v

def operatorFragment (d : Dialect) (op : ArithmeticOp) (left right : Fragment) : Fragment :=
  if op = .concat then d.concat left right
  else Fragment.join (" " ++ op.sql ++ " ") [left, right]

/-- Every compound operand is written in parentheses, so that precedence never regroups. -/
def toFragment (d : Dialect) (own : String) : AssignedValue → Fragment
  | literal v => literalFragment d v
  | param v => Fragment.param v
  | column name => Fragment.sql (d.quote name)
  | derived op operand =>
    operatorFragment d op (Fragment.sql own) (wrap operand (operand.toFragment d own))
  | binary left op right =>
    operatorFragment d op (wrap left (left.toFragment d own)) (wrap right (right.toFragment d own))
where
  wrap (v : AssignedValue) (f : Fragment) : Fragment := if v.isCompound then f.parenthesized else f

end AssignedValue

end BulkDml
