import BulkDml.Mapping.Basic

namespace BulkDml

inductive ArithmeticOp where
  | add
  | sub
  | mul
  | div
  | concat
deriving DecidableEq, Inhabited

namespace ArithmeticOp

def sql : ArithmeticOp → String
  | add => "+"
  | sub => "-"
  | mul => "*"
  | div => "/"
  | concat => "||"

def onOperands (textual : Bool) : ArithmeticOp → Except Error ArithmeticOp
  | concat => .ok concat
  | add => .ok (if textual then concat else add)
  | op => if textual then .error (.textArithmetic op.sql) else .ok op

end ArithmeticOp

inductive Expr where
  /-- A constant; null, integers and booleans stand in the text, and all else is bound. -/
  | literal (v : Value)
  /-- A value from the caller's scope, always bound. -/
  | param (v : Value)
  | field (name : String)
  | binary (left : Expr) (op : ArithmeticOp) (right : Expr)
deriving DecidableEq, Inhabited

class ToExpr (α : Type) where
  toExpr : α → Expr

export ToExpr (toExpr)

instance : ToExpr Expr := ⟨id⟩

instance {α : Type} [ToValue α] : ToExpr α := ⟨fun v => .param (toValue v)⟩

namespace Expr

variable {α : Type} [ToExpr α]

instance : HAdd Expr α Expr := ⟨fun e r => .binary e .add (toExpr r)⟩
instance : HSub Expr α Expr := ⟨fun e r => .binary e .sub (toExpr r)⟩
instance : HMul Expr α Expr := ⟨fun e r => .binary e .mul (toExpr r)⟩
instance : HDiv Expr α Expr := ⟨fun e r => .binary e .div (toExpr r)⟩

def concat (e : Expr) (r : α) : Expr := .binary e .concat (toExpr r)

/-- The type of an expression, as far as it is known: that of its first operand of known type, and
text for a concatenation. A text operand on the left decides the operation before the right one is
looked at. -/
def type? (m : Mapping) : Expr → Except Error (Option ColumnType)
  | literal v => .ok (ColumnType.ofValue? v)
  | param v => .ok (ColumnType.ofValue? v)
  | field name => do return some (← m.resolveColumn name).type
  | binary left op right => do
    let leftType ← left.type? m
    if leftType = some .text then
      let _ ← op.onOperands true
      return some .text
    else
      let rightType ← right.type? m
      let resolved ← op.onOperands (rightType = some .text)
      return if resolved = .concat then some .text else leftType.or rightType

def eitherText (m : Mapping) (left right : Expr) : Except Error Bool := do
  if (← left.type? m) = some .text then return true
  else return (← right.type? m) = some .text

def resolveOp (m : Mapping) (op : ArithmeticOp) (left right : Expr) :
    Except Error ArithmeticOp := do
  op.onOperands (← eitherText m left right)

end Expr

end BulkDml
