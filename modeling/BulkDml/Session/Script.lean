import BulkDml.Session.Connection

namespace BulkDml

/-- The answers of a connection, a list for each kind of call. When a list is exhausted, a statement
affects one row, a query finds nothing, and all else succeeds. -/
structure Script where
  execute : List (Except Error UInt64)
  queryScalar : List (Except Error (Option Value))
  queryRows : List (Except Error (List (List Value)))
  begin : List (Except Error Unit)
  commit : List (Except Error Unit)
  rollback : List (Except Error Unit)
  setStatementTimeout : List (Except Error Unit)

namespace Script

def silent : Script := ⟨[], [], [], [], [], [], []⟩

def next {α : Type} (fallback : α) : List (Except Error α) → Except Error α × List (Except Error α)
  | [] => (.ok fallback, [])
  | answer :: rest => (answer, rest)

def connection (backend : Backend) : Connection Script where
  backend
  execute _ s := let (a, rest) := next 1 s.execute; (a, { s with execute := rest })
  queryScalar _ s := let (a, rest) := next none s.queryScalar; (a, { s with queryScalar := rest })
  queryRows _ s := let (a, rest) := next [] s.queryRows; (a, { s with queryRows := rest })
  begin s := let (a, rest) := next () s.begin; (a, { s with begin := rest })
  commit s := let (a, rest) := next () s.commit; (a, { s with commit := rest })
  rollback s := let (a, rest) := next () s.rollback; (a, { s with rollback := rest })
  setStatementTimeout _ s :=
    let (a, rest) := next () s.setStatementTimeout; (a, { s with setStatementTimeout := rest })

end Script

end BulkDml
