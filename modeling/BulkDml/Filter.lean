import BulkDml.Value.Basic

namespace BulkDml

inductive CompareOp where
  | eq
  | ne
  | lt
  | le
  | gt
  | ge
deriving DecidableEq, Inhabited

namespace CompareOp

def sql : CompareOp → String
  | eq => "="
  | ne => "<>"
  | lt => "<"
  | le => "<="
  | gt => ">"
  | ge => ">="

def all : List CompareOp := [eq, ne, lt, le, gt, ge]

end CompareOp

inductive Operand where
  | value (v : Value)
  /-- A value from the caller's scope. -/
  | param (v : Value)
  | field (name : String)
deriving DecidableEq

/-- A test that exists only in the caller's process. Two of them are the same if they come from the
same registration. -/
structure LocalPredicate where
  identity : Nat
  test : Value → Bool

namespace LocalPredicate

def same (p q : LocalPredicate) : Bool := p.identity == q.identity

def logged (_ : LocalPredicate) : String := "LocalPredicate(..)"

end LocalPredicate

inductive Filter where
  | compare (field : String) (op : CompareOp) (operand : Operand)
  | and (left right : Filter)
  | or (left right : Filter)
  | not (inner : Filter)
  | isIn (field : String) (values : List Value)
  | any (values : List Value) (field : String)
  | isNull (field : String)
  | isNotNull (field : String)
  | local (field label : String) (predicate : LocalPredicate)

structure FieldRef where
  name : String
deriving DecidableEq

def Operand.same : Operand → Operand → Bool
  | .value v, .value w => v.same w
  | .param v, .param w => v.same w
  | .field f, .field g => f == g
  | _, _ => false

namespace Filter

def field (name : String) : FieldRef := ⟨name⟩

def isTranslatable : Filter → Bool
  | and left right => left.isTranslatable && right.isTranslatable
  | or left right => left.isTranslatable && right.isTranslatable
  | not inner => inner.isTranslatable
  | «local» .. => false
  | _ => true

def same : Filter → Filter → Bool
  | compare f op x, compare g op' y => f == g && op == op' && x.same y
  | and l r, and l' r' => l.same l' && r.same r'
  | or l r, or l' r' => l.same l' && r.same r'
  | not x, not y => x.same y
  | isIn f vs, isIn g ws => f == g && Value.sameAll vs ws
  | any vs f, any ws g => f == g && Value.sameAll vs ws
  | isNull f, isNull g => f == g
  | isNotNull f, isNotNull g => f == g
  | «local» f a p, «local» g b q => f == g && a == b && p.same q
  | _, _ => false

end Filter

namespace FieldRef

variable {α : Type} [ToValue α]

def eq (f : FieldRef) (v : α) : Filter := .compare f.name .eq (.value (toValue v))
def ne (f : FieldRef) (v : α) : Filter := .compare f.name .ne (.value (toValue v))
def lt (f : FieldRef) (v : α) : Filter := .compare f.name .lt (.value (toValue v))
def le (f : FieldRef) (v : α) : Filter := .compare f.name .le (.value (toValue v))
def gt (f : FieldRef) (v : α) : Filter := .compare f.name .gt (.value (toValue v))
def ge (f : FieldRef) (v : α) : Filter := .compare f.name .ge (.value (toValue v))

def compareParam (f : FieldRef) (op : CompareOp) (v : α) : Filter :=
  .compare f.name op (.param (toValue v))

def compareField (f : FieldRef) (op : CompareOp) (other : String) : Filter :=
  .compare f.name op (.field other)

def isIn (f : FieldRef) (values : List α) : Filter := .isIn f.name (values.map toValue)

def isNull (f : FieldRef) : Filter := .isNull f.name

def isNotNull (f : FieldRef) : Filter := .isNotNull f.name

def satisfies (f : FieldRef) (label : String) (predicate : LocalPredicate) : Filter :=
  .local f.name label predicate

end FieldRef

end BulkDml
