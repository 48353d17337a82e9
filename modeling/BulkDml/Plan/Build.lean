import BulkDml.Plan.Basic

namespace BulkDml.Plan

def requireAssignments (d : Dialect) (kind : StatementKind) :
    Option AssignmentSet → Except Error AssignmentSet
  | none => .error (.assignmentsRequired kind.name)
  | some set =>
    if set.dialect.backend = d.backend then .ok set
    else .error (.assignmentDialect set.dialect.backend.name d.backend.name)

def mutationCommand (action : KeyedAction) (table : TableRef) (condition : Option Condition)
    (limit : Option RowLimit) : Command :=
  match action with
  | .delete => .delete table condition limit
  | .update set => .update table set condition limit

def mutation (d : Dialect) (action : KeyedAction) (kind : StatementKind) (m : Mapping)
    (condition : Option Condition) (limit : Option UInt64) : Except Error Plan :=
  match limit with
  | none => .ok (single ⟨d, mutationCommand action m.tableRef condition none⟩)
  | some n =>
    match RowLimit.ofStyle? d.mutationLimit n with
    | some clause => .ok (single ⟨d, mutationCommand action m.tableRef condition (some clause)⟩)
    | none =>
      if m.hasKey then
        .ok (keyed ⟨d, action, m.tableRef, m.keyColumns.map (·.name), condition, n⟩)
      else .error (.noKeyForLimit d.backend.name kind.name m.table)

def transfer (d : Dialect) (source target : Mapping) (condition : Option Condition)
    (set : AssignmentSet) (limit : Option UInt64) : Except Error Plan :=
  match limit with
  | none => .ok (single ⟨d, .insert target.tableRef set source.tableRef condition none⟩)
  | some n =>
    match RowLimit.ofStyle? d.selectLimit n with
    | some clause =>
      .ok (single ⟨d, .insert target.tableRef set source.tableRef condition (some clause)⟩)
    | none => .error (.noSelectLimit d.backend.name)

def build (d : Dialect) (kind : StatementKind) (m : Mapping) (condition : Option Condition)
    (set : Option AssignmentSet) (limit : Option UInt64) : Except Error Plan := do
  let limit := limit.filter (· > 0)
  match kind with
  | .delete => mutation d .delete kind m condition limit
  | .update => mutation d (.update (← requireAssignments d kind set)) kind m condition limit
  | .insert target => transfer d m target condition (← requireAssignments d kind set) limit

def delete (d : Dialect) (m : Mapping) (condition : Option Condition) (limit : Option UInt64) :
    Except Error Plan :=
  build d .delete m condition none limit

def update (d : Dialect) (m : Mapping) (condition : Option Condition) (set : AssignmentSet)
    (limit : Option UInt64) : Except Error Plan :=
  build d .update m condition (some set) limit

def insert (d : Dialect) (source target : Mapping) (condition : Option Condition)
    (set : AssignmentSet) (limit : Option UInt64) : Except Error Plan :=
  build d (.insert target) source condition (some set) limit

end BulkDml.Plan
