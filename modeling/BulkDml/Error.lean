
namespace BulkDml

inductive Error where
  | unsupportedExpression (what : String)
  | noAssignments (table : String)
  | limitUnsupported (dialect statement reason : String)
  | execution (code : Option String) (detail : String)
  | invalidArgument (what : String)
  | invalidConfig (what : String)
deriving DecidableEq, Inhabited

namespace Error

def code : Error → String
  | unsupportedExpression _ => "UNSUPPORTED_EXPRESSION"
  | noAssignments _ => "NO_ASSIGNMENTS"
  | limitUnsupported .. => "DIALECT_LIMIT_UNSUPPORTED"
  | execution .. => "EXECUTION_ERROR"
  | invalidArgument _ => "INVALID_ARGUMENT"
  | invalidConfig _ => "INVALID_CONFIG"

def message : Error → String
  | unsupportedExpression what => "Unsupported expression: " ++ what
  | noAssignments table => "No assignments to apply on table " ++ table
  | limitUnsupported dialect statement reason =>
    "Row limit is not supported for " ++ statement ++ " on " ++ dialect ++ ": " ++ reason
  | execution none detail => "Execution error: " ++ detail
  | execution (some code) detail => "Execution error [" ++ code ++ "]: " ++ detail
  | invalidArgument what => "Invalid argument: " ++ what
  | invalidConfig what => "Invalid configuration: " ++ what

def isCompileTime : Error → Bool
  | execution .. => false
  | _ => true

def emptyTableName : Error := invalidArgument "table name must not be empty"

def noColumns (table : String) : Error :=
  invalidArgument ("table '" ++ table ++ "' must map at least one column")

def emptyColumnName (table : String) : Error :=
  invalidArgument ("table '" ++ table ++ "' has a column with an empty name")

def fieldMappedTwice (field table : String) : Error :=
  invalidArgument ("field '" ++ field ++ "' is mapped twice on table '" ++ table ++ "'")

def columnMappedTwice (column table : String) : Error :=
  invalidArgument ("column '" ++ column ++ "' is mapped twice on table '" ++ table ++ "'")

def unmappedField (field table : String) : Error :=
  unsupportedExpression ("field '" ++ field ++ "' is not mapped on table '" ++ table ++ "'")

def localFilter (label field : String) : Error :=
  unsupportedExpression ("filter '" ++ label ++ "' on field '" ++ field ++
    "' is evaluated in-process and cannot be translated to SQL")

def nullOrdering (op field : String) : Error :=
  unsupportedExpression
    ("ordering comparison '" ++ op ++ "' against NULL on field '" ++ field ++ "'")

def textArithmetic (op : String) : Error :=
  unsupportedExpression ("operator '" ++ op ++ "' is not defined for text values")

def valueRejected (valueType columnType field : String) : Error :=
  invalidArgument
    ("cannot assign " ++ valueType ++ " value to " ++ columnType ++ " field '" ++ field ++ "'")

def assignmentsRequired (statement : String) : Error :=
  invalidArgument (statement ++ " statement requires assignments")

def assignmentDialect (compiled target : String) : Error :=
  invalidArgument
    ("assignments were compiled for " ++ compiled ++ ", statement targets " ++ target)

def noSelectLimit (dialect : String) : Error :=
  limitUnsupported dialect "INSERT" "no row limit on SELECT"

def noKeyForLimit (dialect statement table : String) : Error :=
  limitUnsupported dialect statement
    ("table '" ++ table ++ "' has no key columns to rewrite the limit with")

def keyWidth (got expected : Nat) : Error :=
  invalidArgument ("key tuple has " ++ toString got ++ " values, table key has " ++
    toString expected ++ " columns")

def unknownDialect (name : String) : Error := invalidConfig ("unknown dialect '" ++ name ++ "'")

def zeroMaxKeys : Error := invalidConfig "max_keys_per_statement must be greater than 0"

def zeroTimeout : Error := invalidConfig "statement_timeout must be greater than 0 when set"

def dialectMismatch (configured connection : String) : Error :=
  invalidConfig ("configured dialect " ++ configured ++ " does not match connection dialect " ++
    connection)

end Error

end BulkDml
