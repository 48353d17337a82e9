import BulkDml.Clause.Truth
import BulkDml.Condition.Basic

namespace BulkDml.Condition

def mapValues (f : Value → Value) : Condition → Condition
  | clause c => clause (c.mapValues f)
  | keys columns tuples => keys columns (tuples.map (·.map f))
  | raw text => raw text

def tupleTruth (order : Collation) (row : String → Value) : List String → List Value → Truth
  | column :: columns, v :: tuple =>
    (Clause.compareTruth order [column] .eq (row column) v).and (tupleTruth order row columns tuple)
  | _, _ => .true

def keysTruth (order : Collation) (row : String → Value) (columns : List String)
    (tuples : List (List Value)) : Truth :=
  (tuples.map (tupleTruth order row columns)).foldr Truth.or .false

/-- What a caller wrote as text is not read, and its truth is unknown. -/
def truth (order : Collation) (row : String → Value) : Condition → Truth
  | clause c => c.truth order row
  | keys columns tuples => keysTruth order row columns tuples
  | raw _ => .unknown

end BulkDml.Condition
