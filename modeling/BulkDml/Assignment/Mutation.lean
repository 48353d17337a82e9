import BulkDml.Assignment.Expr

namespace BulkDml

structure TemplateEntry where
  field : String
  value : Value
  /-- Set by the caller one by one, and not as part of a whole row. -/
  explicit : Bool
deriving DecidableEq

structure Template where
  entries : List TemplateEntry
  /-- Fields to assign even where they hold the unset value of their type. -/
  included : List String
deriving DecidableEq

namespace Template

def empty : Template := ⟨[], []⟩

/-- A template from a whole row, whose unset fields and key fields stay unassigned. -/
def ofRow (row : List (String × Value)) : Template :=
  ⟨row.map fun (field, value) => ⟨field, value, false⟩, []⟩

def set {α : Type} [ToValue α] (t : Template) (field : String) (value : α) : Template :=
  { t with entries := t.entries ++ [⟨field, toValue value, true⟩] }

def including (t : Template) (field : String) : Template :=
  { t with included := t.included ++ [field] }

end Template

structure Projection where
  assignments : List (String × Expr)
deriving DecidableEq

namespace Projection

def empty : Projection := ⟨[]⟩

def set {α : Type} [ToExpr α] (p : Projection) (field : String) (value : α) : Projection :=
  ⟨p.assignments ++ [(field, toExpr value)]⟩

def isEmpty (p : Projection) : Bool := p.assignments.isEmpty

end Projection

inductive Mutation where
  | template (t : Template)
  | projection (p : Projection)
deriving DecidableEq

instance : Coe Template Mutation := ⟨.template⟩
instance : Coe Projection Mutation := ⟨.projection⟩

end BulkDml
