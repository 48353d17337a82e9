import BulkDml.Dialect.Basic

namespace BulkDml

structure Config where
  backend : Backend
  statementTimeout : Option UInt64
  maxKeysPerStatement : UInt64
  logParameters : Bool
deriving DecidableEq

namespace Config

def default : Config := ⟨.sqlite, none, 500, false⟩

instance : Inhabited Config := ⟨default⟩

def withBackend (c : Config) (backend : Backend) : Config := { c with backend }

def withStatementTimeout (c : Config) (ms : UInt64) : Config :=
  { c with statementTimeout := some ms }

def withMaxKeysPerStatement (c : Config) (n : UInt64) : Config :=
  { c with maxKeysPerStatement := n }

def withParameterLogging (c : Config) : Config := { c with logParameters := true }

def fault? (c : Config) : Option Error :=
  if c.maxKeysPerStatement = 0 then some .zeroMaxKeys
  else if c.statementTimeout = some 0 then some .zeroTimeout
  else none

def validate (c : Config) : Except Error Unit :=
  match c.fault? with
  | some e => .error e
  | none => .ok ()

end Config

end BulkDml
