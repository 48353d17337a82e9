import BulkDml.Value.Basic
import BulkDml.Decimal.Layout
import BulkDml.Text.Quoted

namespace BulkDml.Value

def display : Value → String
  | null => "NULL"
  | integer n => toString n.toInt
  | real x => Decimal.Layout.plain.text x
  | text s => "'" ++ s ++ "'"
  | bool b => if b then "true" else "false"
  | blob bytes => "<" ++ toString bytes.length ++ " bytes>"
  | timestamp ms => "ts:" ++ toString ms.toInt

def logged : Value → String
  | null => "Null"
  | integer n => "Integer(" ++ toString n.toInt ++ ")"
  | real x => "Real(" ++ Decimal.Layout.logged.text x ++ ")"
  | text s => "Text(" ++ Text.quoteText s ++ ")"
  | bool b => "Bool(" ++ (if b then "true" else "false") ++ ")"
  | blob bytes => "Blob(" ++ Text.quoteBytes bytes ++ ")"
  | timestamp ms => "Timestamp(" ++ toString ms.toInt ++ ")"

def loggedAll (values : List Value) : String :=
  "[" ++ ", ".intercalate (values.map logged) ++ "]"

end BulkDml.Value
