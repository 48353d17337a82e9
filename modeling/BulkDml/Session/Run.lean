import BulkDml.Session.Connection
import BulkDml.Session.Log

namespace BulkDml

structure Progress (σ : Type) where
  state : σ
  log : List LogLine

abbrev Run (σ α : Type) := ExceptT Error (StateM (Progress σ)) α

namespace Run

variable {σ α β : Type}

def call (op : Operation σ α) : Run σ α := ExceptT.mk fun p =>
  let (answer, state) := op p.state
  (answer, { p with state })

def log (line : LogLine) : Run σ Unit := ExceptT.mk fun p =>
  (.ok (), { p with log := p.log ++ [line] })

def ofExcept (e : Except Error α) : Run σ α := ExceptT.mk fun p => (e, p)

def on (r : Run σ α) (p : Progress σ) : Except Error α × Progress σ := Id.run (r.run.run p)

@[simp] theorem on_pure (a : α) (p : Progress σ) : on (pure a) p = (.ok a, p) := rfl

@[simp] theorem on_throw (e : Error) (p : Progress σ) :
    on (throw e : Run σ α) p = (.error e, p) := rfl

@[simp] theorem on_ofExcept (e : Except Error α) (p : Progress σ) :
    on (ofExcept e) p = (e, p) := rfl

@[simp] theorem on_log (line : LogLine) (p : Progress σ) :
    on (log line) p = (.ok (), { p with log := p.log ++ [line] }) := rfl

@[simp] theorem on_call (op : Operation σ α) (p : Progress σ) :
    on (call op) p = ((op p.state).1, { p with state := (op p.state).2 }) := rfl

/-- The second part starts where the first succeeded, and is skipped if it failed. -/
theorem on_bind (r : Run σ α) (next : α → Run σ β) (p : Progress σ) :
    on (r >>= next) p = match on r p with
      | (.ok a, q) => on (next a) q
      | (.error e, q) => (.error e, q) := by
  simp only [on, ExceptT.run, StateT.run, Id.run, bind, ExceptT.bind, ExceptT.mk, StateT.bind]
  cases r p with
  | mk answer q => cases answer <;> rfl

theorem on_tryCatch (r : Run σ α) (handler : Error → Run σ α) (p : Progress σ) :
    on (tryCatch r handler) p = match on r p with
      | (.ok a, q) => (.ok a, q)
      | (.error e, q) => on (handler e) q := by
  simp only [on, tryCatch, tryCatchThe, MonadExceptOf.tryCatch, ExceptT.tryCatch, ExceptT.run,
    StateT.run, Id.run, bind, ExceptT.mk, StateT.bind]
  cases r p with
  | mk answer q => cases answer <;> rfl

end Run

end BulkDml
