import BulkDml.Plan.Basic
import BulkDml.Value.Display

namespace BulkDml

inductive LogLevel where
  | debug
  | info
  | warn
deriving DecidableEq

structure LogLine where
  level : LogLevel
  text : String
deriving DecidableEq

namespace LogLine

def paramCount (s : Statement) : String := " (" ++ toString s.params.length ++ " params)"

def compiled (verb table : String) : Plan → LogLine
  | .single request =>
    ⟨.debug, "Compiled batch " ++ verb ++ " on " ++ table ++ ": " ++ request.statement.sql ++
      paramCount request.statement⟩
  | .keyed plan =>
    ⟨.debug, "Compiled keyed batch " ++ verb ++ " on " ++ table ++ ": " ++
      plan.selectKeys.statement.sql ++ paramCount plan.selectKeys.statement⟩

def executing (showParameters : Bool) (s : Statement) : LogLine :=
  ⟨.debug, "Executing: " ++ s.sql ++
    if showParameters then " params=" ++ Value.loggedAll s.params else paramCount s⟩

def noKeys (statement : String) : LogLine := ⟨.debug, "Keyed " ++ statement ++ " matched no rows"⟩

def rollingBack (statement : String) (e : Error) : LogLine :=
  ⟨.warn, "Keyed " ++ statement ++ " failed, rolling back: " ++ e.message⟩

def rollbackFailed (e : Error) : LogLine := ⟨.warn, "Rollback failed: " ++ e.message⟩

def affected (verb table : String) (rows : UInt64) : LogLine :=
  ⟨.info, "Batch " ++ verb ++ " on " ++ table ++ " affected " ++ toString rows ++ " rows"⟩

def copied (source target : String) (rows : UInt64) : LogLine :=
  ⟨.info, "Batch insert from " ++ source ++ " into " ++ target ++ " copied " ++ toString rows ++
    " rows"⟩

end LogLine

end BulkDml
