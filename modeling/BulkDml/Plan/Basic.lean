import BulkDml.Command

namespace BulkDml

inductive StatementKind where
  | delete
  | update
  | insert (target : Mapping)

namespace StatementKind

def name : StatementKind → String
  | delete => "DELETE"
  | update => "UPDATE"
  | insert _ => "INSERT"

end StatementKind

inductive KeyedAction where
  | delete
  | update (set : AssignmentSet)
deriving DecidableEq

/-- Where the dialect cannot limit a mutation, the keys of the rows in question are selected first,
and then the rows with these keys are mutated. -/
structure KeyedPlan where
  dialect : Dialect
  action : KeyedAction
  table : TableRef
  keyColumns : List String
  condition : Option Condition
  limit : UInt64
deriving DecidableEq

namespace KeyedPlan

def statementName (p : KeyedPlan) : String :=
  match p.action with
  | .delete => "DELETE"
  | .update _ => "UPDATE"

def selectKeys (p : KeyedPlan) : Request :=
  ⟨p.dialect, .selectKeys p.keyColumns p.table p.condition
    (RowLimit.ofStyle? p.dialect.selectLimit p.limit)⟩

def quotedKeyColumns (p : KeyedPlan) : List String := p.keyColumns.map p.dialect.quote

/-- What the plan quotes it quotes by its own dialect, and the mutations mark their parameters as
the backend does. -/
def mutationDialect (p : KeyedPlan) : Dialect := p.dialect.withNativeMarkers

/-- The mutation of the rows with the given keys, which must be as wide as the table's key. With no
keys it touches nothing. -/
def mutationFor (p : KeyedPlan) (keys : List (List Value)) : Except Error Request :=
  match keys.find? (·.length != p.keyColumns.length) with
  | some tuple => .error (.keyWidth tuple.length p.keyColumns.length)
  | none =>
    let condition := some (Condition.keys p.keyColumns keys)
    .ok ⟨p.mutationDialect, match p.action with
      | .delete => .delete p.table condition none
      | .update set => .update p.table set condition none⟩

end KeyedPlan

inductive Plan where
  | single (request : Request)
  | keyed (plan : KeyedPlan)
deriving DecidableEq

namespace Plan

def isKeyed : Plan → Bool
  | keyed _ => true
  | single _ => false

def single? : Plan → Option Request
  | single request => some request
  | keyed _ => none

end Plan

end BulkDml
