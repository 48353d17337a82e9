import BulkDml.Config
import BulkDml.Query
import BulkDml.Session.Chunks
import BulkDml.Session.Run

namespace BulkDml

structure Session (σ : Type) where
  connection : Connection σ
  config : Config
  valid : config.fault? = none

namespace Session

variable {σ : Type}

/-- A session over a connection, if the configuration is valid and meant for its backend. A
statement timeout is set at once. -/
def new (connection : Connection σ) (config : Config) : Operation σ (Session σ) := fun state =>
  match valid : config.fault? with
  | some e => (.error e, state)
  | none =>
    if connection.backend = config.backend then
      let session : Session σ := ⟨connection, config, valid⟩
      match config.statementTimeout with
      | none => (.ok session, state)
      | some ms =>
        let (answer, state) := connection.setStatementTimeout ms state
        (answer.map fun _ => session, state)
    else (.error (.dialectMismatch config.backend.name connection.backend.name), state)

def dialect (s : Session σ) : Dialect := s.config.backend.dialect

def compiled (verb table : String) (plan : Except Error Plan) : Run σ Plan := do
  let plan ← Run.ofExcept plan
  Run.log (.compiled verb table plan)
  return plan

def compileDelete (s : Session σ) (q : Query) : Run σ Plan :=
  compiled "delete" q.mapping.table (q.deletePlan s.dialect)

def compileUpdate (s : Session σ) (q : Query) (change : Mutation) : Run σ Plan :=
  compiled "update" q.mapping.table (q.updatePlan s.dialect change)

def compileInsert (s : Session σ) (q : Query) (target : Mapping) (p : Projection) : Run σ Plan :=
  compiled "insert" q.mapping.table (q.insertPlan s.dialect target p)

def logRequest (s : Session σ) (r : Request) : Run σ Unit :=
  Run.log (.executing s.config.logParameters r.statement)

def execute (s : Session σ) (r : Request) : Run σ UInt64 := do
  s.logRequest r
  Run.call (s.connection.execute r)

def mutateChunks (s : Session σ) (p : KeyedPlan) : UInt64 → List (List (List Value)) → Run σ UInt64
  | total, [] => return total
  | total, chunk :: rest => do
    let request ← Run.ofExcept (p.mutationFor chunk)
    let rows ← s.execute request
    s.mutateChunks p (total + rows) rest

def mutateSelected (s : Session σ) (p : KeyedPlan) : Run σ UInt64 := do
  s.logRequest p.selectKeys
  let keys ← Run.call (s.connection.queryRows p.selectKeys)
  if keys.isEmpty then
    Run.log (.noKeys p.statementName)
    return 0
  else s.mutateChunks p 0 (chunks s.config.maxKeysPerStatement.toNat keys)

/-- A failure to roll back is logged and otherwise ignored. -/
def rollback (s : Session σ) : Run σ Unit :=
  tryCatch (Run.call s.connection.rollback) fun e => Run.log (.rollbackFailed e)

/-- A failure at any point after the transaction began rolls it back, and is reported as it came. -/
def runKeyed (s : Session σ) (p : KeyedPlan) : Run σ UInt64 := do
  Run.call s.connection.begin
  let committed : Run σ UInt64 := do
    let rows ← s.mutateSelected p
    Run.call s.connection.commit
    return rows
  tryCatch committed fun e => do
    Run.log (.rollingBack p.statementName e)
    s.rollback
    throw e

def run (s : Session σ) : Plan → Run σ UInt64
  | .single request => s.execute request
  | .keyed plan => s.runKeyed plan

def delete (s : Session σ) (q : Query) : Run σ UInt64 := do
  let plan ← s.compileDelete q
  let rows ← s.run plan
  Run.log (.affected "delete" q.mapping.table rows)
  return rows

def update (s : Session σ) (q : Query) (change : Mutation) : Run σ UInt64 := do
  let plan ← s.compileUpdate q change
  let rows ← s.run plan
  Run.log (.affected "update" q.mapping.table rows)
  return rows

def insert (s : Session σ) (q : Query) (target : Mapping) (p : Projection) : Run σ Unit := do
  let plan ← s.compileInsert q target p
  let rows ← s.run plan
  Run.log (.copied q.mapping.table target.table rows)

def scalar (s : Session σ) (statement : Statement) : Run σ (Option Value) := do
  let request : Request := ⟨s.dialect, .raw statement⟩
  s.logRequest request
  Run.call (s.connection.queryScalar request)

end Session

end BulkDml
