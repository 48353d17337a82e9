import BulkDml.Assignment.Basic
import BulkDml.Condition.Basic

namespace BulkDml

inductive RowLimit where
  | top (n : UInt64)
  | trailing (n : UInt64)
deriving DecidableEq

namespace RowLimit

def count : RowLimit → UInt64
  | top n => n
  | trailing n => n

def ofStyle? (style : LimitStyle) (n : UInt64) : Option RowLimit :=
  match style with
  | .top => some (top n)
  | .trailing => some (trailing n)
  | .keyed => none

def afterVerb : Option RowLimit → String
  | some (top n) => "TOP (" ++ toString n ++ ") "
  | _ => ""

def atEnd : Option RowLimit → String
  | some (trailing n) => " LIMIT " ++ toString n
  | _ => ""

end RowLimit

inductive Command where
  | delete (table : TableRef) (condition : Option Condition) (limit : Option RowLimit)
  | update (table : TableRef) (set : AssignmentSet) (condition : Option Condition)
    (limit : Option RowLimit)
  | insert (target : TableRef) (set : AssignmentSet) (source : TableRef)
    (condition : Option Condition) (limit : Option RowLimit)
  | selectKeys (columns : List String) (table : TableRef) (condition : Option Condition)
    (limit : Option RowLimit)
  | raw (statement : Statement)
deriving DecidableEq

namespace Command

def head (d : Dialect) : Command → Fragment
  | delete table _ limit =>
    Fragment.sql ("DELETE " ++ RowLimit.afterVerb limit ++ "FROM " ++ d.quoteTable table)
  | update table set _ limit =>
    Fragment.sql ("UPDATE " ++ RowLimit.afterVerb limit ++ d.quoteTable table ++ " SET ") ++
      set.setClause
  | insert target set source _ limit =>
    (Fragment.sql ("INSERT INTO " ++ d.quoteTable target ++ " (" ++ set.columnList ++ ") SELECT " ++
      RowLimit.afterVerb limit) ++ set.selectList).pushSql (" FROM " ++ d.quoteTable source)
  | selectKeys columns table _ limit =>
    Fragment.sql ("SELECT " ++ RowLimit.afterVerb limit ++
      ", ".intercalate (columns.map d.quote) ++ " FROM " ++ d.quoteTable table)
  | raw statement => Fragment.sql statement.sql

def condition : Command → Option Condition
  | delete _ condition _ => condition
  | update _ _ condition _ => condition
  | insert _ _ _ condition _ => condition
  | selectKeys _ _ condition _ => condition
  | raw _ => none

def limit : Command → Option RowLimit
  | delete _ _ limit => limit
  | update _ _ _ limit => limit
  | insert _ _ _ _ limit => limit
  | selectKeys _ _ _ limit => limit
  | raw _ => none

def toFragment (d : Dialect) (c : Command) : Fragment :=
  (Condition.appendTo d (c.head d) c.condition).pushSql (RowLimit.atEnd c.limit)

end Command

structure Request where
  dialect : Dialect
  command : Command
deriving DecidableEq

namespace Request

def statement (r : Request) : Statement :=
  match r.command with
  | .raw statement => statement
  | command => r.dialect.render (command.toFragment r.dialect)

end Request

end BulkDml
