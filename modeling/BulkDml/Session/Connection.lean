import BulkDml.Plan.Basic

namespace BulkDml

abbrev Operation (σ α : Type) := σ → Except Error α × σ

structure Connection (σ : Type) where
  backend : Backend
  execute : Request → Operation σ UInt64
  queryScalar : Request → Operation σ (Option Value)
  queryRows : Request → Operation σ (List (List Value))
  begin : Operation σ Unit
  commit : Operation σ Unit
  /-- Undoes everything since `begin`, also where `commit` failed and left the transaction open. -/
  rollback : Operation σ Unit
  setStatementTimeout : UInt64 → Operation σ Unit

inductive Call where
  | execute (r : Request)
  | queryScalar (r : Request)
  | queryRows (r : Request)
  | begin
  | commit
  | rollback
  | setStatementTimeout (ms : UInt64)
deriving DecidableEq

structure Recorded (σ : Type) where
  state : σ
  calls : List Call

namespace Connection

variable {σ : Type}

def record {α : Type} (call : Call) (op : Operation σ α) : Operation (Recorded σ) α := fun r =>
  let (answer, state) := op r.state
  (answer, ⟨state, r.calls ++ [call]⟩)

def recording (c : Connection σ) : Connection (Recorded σ) where
  backend := c.backend
  execute r := record (.execute r) (c.execute r)
  queryScalar r := record (.queryScalar r) (c.queryScalar r)
  queryRows r := record (.queryRows r) (c.queryRows r)
  begin := record .begin c.begin
  commit := record .commit c.commit
  rollback := record .rollback c.rollback
  setStatementTimeout ms := record (.setStatementTimeout ms) (c.setStatementTimeout ms)

def withoutTimeout (c : Connection σ) : Connection σ :=
  { c with setStatementTimeout := fun _ s => (.ok (), s) }

end Connection

end BulkDml
