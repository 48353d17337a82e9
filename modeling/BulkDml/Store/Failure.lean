import BulkDml.Error

namespace BulkDml.Store

inductive Failure where
  | cannotOpen (path : String)
  | noSuchTable (name : String)
  | noSuchColumn (name : String)
  | tableLacksColumn (table column : String)
  | unrecognized (sql : String)
  | parameterCount (got needed : Nat)
  | returnedRows
  | datatypeMismatch
  | notNull (table column : String)
  | unique (table column : String)
  | noSuchSavepoint (name : String)
  | nestedTransaction
  | nothingToCommit
  | nothingToRollBack
deriving DecidableEq

namespace Failure

def code? : Failure → Option Nat
  | cannotOpen _ => some 14
  | noSuchTable _ => some 1
  | noSuchColumn _ => some 1
  | tableLacksColumn .. => some 1
  | unrecognized _ => some 1
  | parameterCount .. => none
  | returnedRows => none
  | datatypeMismatch => some 20
  | notNull .. => some 1299
  | unique .. => some 1555
  | noSuchSavepoint _ => some 1
  | nestedTransaction => some 1
  | nothingToCommit => some 1
  | nothingToRollBack => some 1

def detail : Failure → String
  | cannotOpen path => "unable to open database file: " ++ path
  | noSuchTable name => "no such table: " ++ name
  | noSuchColumn name => "no such column: " ++ name
  | tableLacksColumn table column => "table " ++ table ++ " has no column named " ++ column
  | unrecognized sql => "near \"" ++ sql ++ "\": syntax error"
  | parameterCount got needed =>
    "Wrong number of parameters passed to query. Got " ++ toString got ++ ", needed " ++
      toString needed
  | returnedRows => "Execute returned results - did you mean to call query?"
  | datatypeMismatch => "datatype mismatch"
  | notNull table column => "NOT NULL constraint failed: " ++ table ++ "." ++ column
  | unique table column => "UNIQUE constraint failed: " ++ table ++ "." ++ column
  | noSuchSavepoint name => "no such savepoint: " ++ name
  | nestedTransaction => "cannot start a transaction within a transaction"
  | nothingToCommit => "cannot commit - no transaction is active"
  | nothingToRollBack => "cannot rollback - no transaction is active"

def isRuntime : Failure → Bool
  | datatypeMismatch => true
  | notNull .. => true
  | unique .. => true
  | _ => false

def toError (f : Failure) : Error := .execution (f.code?.map toString) f.detail

end Failure

end BulkDml.Store
