import BulkDml.Clause.Basic

namespace BulkDml

inductive Condition where
  | clause (c : Clause)
  | keys (columns : List String) (tuples : List (List Value))
  | raw (f : Fragment)
deriving DecidableEq

namespace Condition

def keyPart (d : Dialect) (column : String) (value : Value) : Fragment :=
  (Fragment.sql (d.quote column ++ " = ")).pushParam value

def keyTuple (d : Dialect) (columns : List String) (tuple : List Value) : Fragment :=
  (Fragment.join " AND " (columns.zipWith (keyPart d) tuple)).parenthesized

def keysFragment (d : Dialect) (columns : List String) (tuples : List (List Value)) : Fragment :=
  match tuples, columns with
  | [], _ => Fragment.sql d.falsePredicate
  | tuples, [column] => Clause.inList (d.quote column) tuples.flatten
  | tuples, columns => (Fragment.join " OR " (tuples.map (keyTuple d columns))).parenthesized

def toFragment (d : Dialect) : Condition → Fragment
  | clause c => c.toFragment d
  | keys columns tuples => keysFragment d columns tuples
  | raw f => f

def appendTo (d : Dialect) (head : Fragment) : Option Condition → Fragment
  | some c => head.pushSql " WHERE " ++ c.toFragment d
  | none => head

end Condition

end BulkDml
