import BulkDml.Assignment.Mutation
import BulkDml.Assignment.Value

namespace BulkDml

structure Assignment where
  field : String
  column : String
  value : AssignedValue
deriving DecidableEq, Inhabited

abbrev FieldWrite := String × AssignedValue

namespace Assignment

def lastWrite? (writes : List FieldWrite) (field : String) : Option AssignedValue :=
  (writes.reverse.find? (·.1 == field)).map Prod.snd

def collect (target : Mapping) (writes : List FieldWrite) : Except Error (List Assignment) :=
  let assignments := target.columns.filterMap fun c =>
    (lastWrite? writes c.field).map fun value => ⟨c.field, c.name, value⟩
  if assignments.isEmpty then .error (.noAssignments target.table) else .ok assignments

/-- Whether a template's entry assigns its column. A key field of a row never does; any other does
if it is included or set. -/
def entryAssigns (t : Template) (c : Column) (e : TemplateEntry) : Bool :=
  e.explicit || (!c.isKey && (t.included.contains e.field || !c.type.isUnset e.value))

def entryWrite (m : Mapping) (t : Template) (e : TemplateEntry) :
    Except Error (Option FieldWrite) := do
  let c ← m.resolveColumn e.field
  if c.type.accepts e.value then
    return if entryAssigns t c e then some (e.field, .param e.value) else none
  else .error (.valueRejected e.value.typeName c.type.name e.field)

def includeWrite (m : Mapping) (field : String) : Except Error FieldWrite := do
  return (field, .param (← m.resolveColumn field).type.default)

def templateWrites (m : Mapping) (t : Template) : Except Error (List FieldWrite) := do
  let entries ← t.entries.mapM (entryWrite m t)
  let missing := t.included.filter fun field => !(t.entries.any (·.field == field))
  return entries.filterMap id ++ (← missing.mapM (includeWrite m))

def projectionWrites (m : Mapping) (p : Projection) : Except Error (List FieldWrite) :=
  p.assignments.mapM fun (field, e) => do
    let _ ← m.resolveColumn field
    return (field, ← AssignedValue.ofOwnExpr m field e)

def transferWrites (source target : Mapping) (p : Projection) : Except Error (List FieldWrite) :=
  p.assignments.mapM fun (field, e) => do
    let _ ← target.resolveColumn field
    return (field, ← AssignedValue.ofExpr source e)

def ofMutation (m : Mapping) : Mutation → Except Error (List Assignment)
  | .template t => do collect m (← templateWrites m t)
  | .projection p => do collect m (← projectionWrites m p)

def ofTransfer (source target : Mapping) (p : Projection) : Except Error (List Assignment) := do
  collect target (← transferWrites source target p)

def quotedColumn (d : Dialect) (a : Assignment) : String := d.quote a.column

def valueFragment (d : Dialect) (a : Assignment) : Fragment :=
  a.value.toFragment d (a.quotedColumn d)

end Assignment

structure AssignmentSet where
  dialect : Dialect
  assignments : List Assignment
deriving DecidableEq

namespace AssignmentSet

def length (s : AssignmentSet) : Nat := s.assignments.length

def isEmpty (s : AssignmentSet) : Bool := s.assignments.isEmpty

def get? (s : AssignmentSet) (field : String) : Option Assignment :=
  s.assignments.find? (·.field == field)

def columns (s : AssignmentSet) : List String := s.assignments.map (·.column)

def setClause (s : AssignmentSet) : Fragment :=
  Fragment.join ", " (s.assignments.map fun a =>
    Fragment.sql (a.quotedColumn s.dialect ++ " = ") ++ a.valueFragment s.dialect)

def columnList (s : AssignmentSet) : String :=
  ", ".intercalate (s.assignments.map (·.quotedColumn s.dialect))

def selectList (s : AssignmentSet) : Fragment :=
  Fragment.join ", " (s.assignments.map (·.valueFragment s.dialect))

end AssignmentSet

end BulkDml
