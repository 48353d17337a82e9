import BulkDml.Filter
import BulkDml.Plan.Build

namespace BulkDml

structure Query where
  mapping : Mapping
  filter : Option Filter
  /-- The row limit as the caller gave it. -/
  taken : Option UInt64

namespace Query

def all (m : Mapping) : Query := ⟨m, none, none⟩

def restrict (q : Query) (f : Filter) : Query :=
  { q with filter := some (match q.filter with
      | some g => .and g f
      | none => f) }

/-- At most `n` rows, of which zero means all. -/
def take (q : Query) (n : UInt64) : Query := { q with taken := some n }

def limit? (q : Query) : Option UInt64 := q.taken.filter (· > 0)

def condition (q : Query) : Except Error (Option Condition) :=
  match q.filter with
  | none => .ok none
  | some f => return some (.clause (← Clause.ofFilter q.mapping f))

def deletePlan (d : Dialect) (q : Query) : Except Error Plan := do
  let condition ← q.condition
  Plan.delete d q.mapping condition q.limit?

def updatePlan (d : Dialect) (q : Query) (change : Mutation) : Except Error Plan := do
  let condition ← q.condition
  let assignments ← Assignment.ofMutation q.mapping change
  Plan.update d q.mapping condition ⟨d, assignments⟩ q.limit?

def insertPlan (d : Dialect) (q : Query) (target : Mapping) (p : Projection) :
    Except Error Plan := do
  let condition ← q.condition
  let assignments ← Assignment.ofTransfer q.mapping target p
  Plan.insert d q.mapping target condition ⟨d, assignments⟩ q.limit?

end Query

end BulkDml
