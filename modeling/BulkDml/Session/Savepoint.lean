import BulkDml.Session.Connection

namespace BulkDml

structure Engine (σ : Type) where
  backend : Backend
  autocommit : σ → Bool
  execute : Request → Operation σ UInt64
  query : Request → Operation σ (List (List Value))
  savepoint : String → Operation σ Unit
  release : String → Operation σ Unit
  rollbackTo : String → Operation σ Unit
  rollback : Operation σ Unit
  setBusyTimeout : UInt64 → Operation σ Unit

structure Handle (σ : Type) where
  engine : σ
  /-- The open savepoint started the transaction. -/
  outermost : Bool
deriving DecidableEq

namespace Handle

def savepointName : String := "kbatch_keyed"

variable {σ α : Type}

def lift (op : Operation σ α) : Operation (Handle σ) α := fun h =>
  let (answer, engine) := op h.engine
  (answer, { h with engine })

def begin (e : Engine σ) : Operation (Handle σ) Unit := fun h =>
  match e.savepoint savepointName h.engine with
  | (.ok (), engine) => (.ok (), ⟨engine, e.autocommit h.engine⟩)
  | (.error f, engine) => (.error f, { h with engine })

def commit (e : Engine σ) : Operation (Handle σ) Unit := fun h =>
  match e.release savepointName h.engine with
  | (.ok (), engine) => (.ok (), ⟨engine, false⟩)
  | (.error f, engine) => (.error f, { h with engine })

def undo (e : Engine σ) : Operation σ Unit := fun s =>
  match e.rollbackTo savepointName s with
  | (.ok (), s) => e.release savepointName s
  | (.error f, s) => (.error f, s)

def rollback (e : Engine σ) : Operation (Handle σ) Unit := fun h =>
  let (answer, engine) := if h.outermost then e.rollback h.engine else undo e h.engine
  (answer, ⟨engine, false⟩)

end Handle

namespace Engine

variable {σ : Type}

/-- Keyed mutations are bracketed by a savepoint, so that they can run inside a transaction of the
caller. A release that failed may have left open the transaction that the savepoint started, and
then the whole of it is rolled back. -/
def connection (e : Engine σ) : Connection (Handle σ) where
  backend := e.backend
  execute r := Handle.lift (e.execute r)
  queryScalar r := Handle.lift fun s =>
    let (answer, s) := e.query r s
    (answer.map fun rows => rows.head?.bind List.head?, s)
  queryRows r := Handle.lift (e.query r)
  begin := Handle.begin e
  commit := Handle.commit e
  rollback := Handle.rollback e
  setStatementTimeout ms := Handle.lift (e.setBusyTimeout ms)

end Engine

end BulkDml
