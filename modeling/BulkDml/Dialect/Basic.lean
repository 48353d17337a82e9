import BulkDml.Mapping.Basic
import BulkDml.Fragment.Basic

namespace BulkDml

inductive Backend where
  | sqlite
  | sqlServer
  | postgreSql
  | mySql
deriving DecidableEq, Inhabited

namespace Backend

def all : List Backend := [sqlite, sqlServer, postgreSql, mySql]

def name : Backend → String
  | sqlite => "sqlite"
  | sqlServer => "sqlserver"
  | postgreSql => "postgresql"
  | mySql => "mysql"

def ofName (s : String) : Except Error Backend :=
  let lower := s.map Char.toLower
  if lower = "sqlite" then .ok sqlite
  else if lower = "sqlserver" ∨ lower = "mssql" then .ok sqlServer
  else if lower = "postgresql" ∨ lower = "postgres" then .ok postgreSql
  else if lower = "mysql" then .ok mySql
  else .error (.unknownDialect lower)

end Backend

inductive LimitStyle where
  | top
  | trailing
  /-- There is no clause: the keys of the first `n` rows are selected, and the mutation is
  restricted to them. -/
  | keyed
deriving DecidableEq, Inhabited

inductive MarkerStyle where
  | numbered (sign : String) (first : Nat)
  | anonymous (sign : String)
deriving DecidableEq

inductive ConcatStyle where
  | between (operator : String)
  | call (function : String)
deriving DecidableEq

structure Dialect where
  backend : Backend
  openQuote : Char
  closeQuote : Char
  markers : MarkerStyle
  mutationLimit : LimitStyle
  selectLimit : LimitStyle
  concatenation : ConcatStyle
  falseLiteral : String
  trueLiteral : String
deriving DecidableEq

namespace Backend

def dialect : Backend → Dialect
  | sqlite =>
    { backend := sqlite, openQuote := '"', closeQuote := '"', markers := .numbered "?" 1
      mutationLimit := .keyed, selectLimit := .trailing
      concatenation := .between "||", falseLiteral := "0", trueLiteral := "1" }
  | sqlServer =>
    { backend := sqlServer, openQuote := '[', closeQuote := ']', markers := .numbered "@p" 0
      mutationLimit := .top, selectLimit := .top
      concatenation := .between "+", falseLiteral := "0", trueLiteral := "1" }
  | postgreSql =>
    { backend := postgreSql, openQuote := '"', closeQuote := '"', markers := .numbered "$" 1
      mutationLimit := .keyed, selectLimit := .trailing
      concatenation := .between "||", falseLiteral := "FALSE", trueLiteral := "TRUE" }
  | mySql =>
    { backend := mySql, openQuote := '\x60', closeQuote := '\x60', markers := .anonymous "?"
      mutationLimit := .trailing, selectLimit := .trailing
      concatenation := .call "CONCAT", falseLiteral := "0", trueLiteral := "1" }

end Backend

namespace Dialect

/-- A dialect that quotes and marks parameters like a backend, with limit styles of its own, and
concatenates and writes booleans in the most common way. A `SELECT` is limited by a trailing clause
unless another style is given. -/
def custom (base : Backend) (mutationLimit : LimitStyle) (selectLimit : Option LimitStyle) :
    Dialect :=
  { base.dialect with
    mutationLimit
    selectLimit := selectLimit.getD .trailing
    concatenation := .between "||", falseLiteral := "0", trueLiteral := "1" }

/-- The dialect with the parameter markers of its backend, whatever its own are. -/
def withNativeMarkers (d : Dialect) : Dialect := { d with markers := d.backend.dialect.markers }

@[simp] theorem withNativeMarkers_dialect (b : Backend) :
    b.dialect.withNativeMarkers = b.dialect := by
  cases b <;> rfl

@[simp] theorem withNativeMarkers_custom (base : Backend) (mutationLimit : LimitStyle)
    (selectLimit : Option LimitStyle) :
    (custom base mutationLimit selectLimit).withNativeMarkers =
      custom base mutationLimit selectLimit := by
  cases base <;> rfl

def quoteChar (d : Dialect) (c : Char) : List Char :=
  if c = d.closeQuote then [c, c] else [c]

def quote (d : Dialect) (identifier : String) : String :=
  String.ofList (d.openQuote :: (identifier.toList.flatMap d.quoteChar ++ [d.closeQuote]))

def marker (d : Dialect) (position : Nat) : String :=
  match d.markers with
  | .numbered sign first => sign ++ toString (first + position)
  | .anonymous sign => sign

def boolLiteral (d : Dialect) (b : Bool) : String := if b then d.trueLiteral else d.falseLiteral

def falsePredicate (_ : Dialect) : String := "1 = 0"

def concat (d : Dialect) (left right : Fragment) : Fragment :=
  match d.concatenation with
  | .between operator => Fragment.join (" " ++ operator ++ " ") [left, right]
  | .call function => Fragment.sql function ++ (Fragment.join ", " [left, right]).parenthesized

def quoteTable (d : Dialect) (t : TableRef) : String :=
  match t.schema with
  | some schema => d.quote schema ++ "." ++ d.quote t.name
  | none => d.quote t.name

def render (d : Dialect) (f : Fragment) : Statement := f.render d.marker

end Dialect

end BulkDml
