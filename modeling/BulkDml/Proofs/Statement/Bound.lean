import BulkDml.Proofs.Assignment.Reading
import BulkDml.Proofs.Condition.Written

namespace BulkDml

namespace Token

@[simp] theorem params_append (xs ys : List Token) :
    params (xs ++ ys) = params xs ++ params ys :=
  List.filterMap_append

@[simp] theorem params_text (s : String) : params (Written.text s) = [] := by
  rw [Written.text, params, List.filterMap_map]
  exact List.filterMap_eq_nil_iff.mpr fun _ _ => rfl

theorem params_list (separator : String) (parts : List (List Token)) :
    params (List.intercalate (Written.text separator) parts) = parts.flatMap params := by
  induction parts with
  | nil => rfl
  | cons part parts ih =>
    cases parts with
    | nil => simp
    | cons next parts =>
      rw [List.intercalate_cons_cons, params_append, params_append, params_text, ih]
      simp

end Token

namespace AssignedValue

def bound : AssignedValue → List Value
  | literal .null => []
  | literal (.integer _) => []
  | literal (.bool _) => []
  | literal v => [v]
  | param v => [v]
  | column _ => []
  | derived _ operand => operand.bound
  | binary left _ right => left.bound ++ right.bound

variable {d : Dialect} {own : String}

theorem params_literalWritten (v : Value) :
    Token.params (literalWritten d v).tokens = (literal v).bound := by
  cases v with
  | bool b =>
    change Token.params (boolWritten d b).tokens = []
    unfold boolWritten
    split <;> exact Token.params_text _
  | null => exact Token.params_text _
  | integer n => exact Token.params_text _
  | _ => rfl

theorem params_wrapped (v : AssignedValue) (t : WrittenValue) :
    Token.params (written.wrapped v t).tokens = Token.params t.tokens := by
  unfold written.wrapped
  split
  · simp [WrittenValue.tokens]
  · rfl

theorem params_operationWritten (op : ArithmeticOp) (left right : WrittenValue) :
    Token.params (operationWritten d op left right).tokens =
      Token.params left.tokens ++ Token.params right.tokens := by
  unfold operationWritten
  split <;> simp [WrittenValue.tokens]

theorem params_written (v : AssignedValue) :
    Token.params (v.written d own).tokens = v.bound := by
  induction v with
  | literal v => exact params_literalWritten v
  | param v => rfl
  | column name => rfl
  | derived op operand ih =>
    rw [written, params_operationWritten, params_wrapped, ih]
    rfl
  | binary left op right ihLeft ihRight =>
    rw [written, params_operationWritten, params_wrapped, params_wrapped, ihLeft, ihRight]
    rfl

end AssignedValue

namespace Assignment

def bound (assignments : List Assignment) : List Value := assignments.flatMap (·.value.bound)

end Assignment

namespace AssignmentSet

theorem params_setTokens (s : AssignmentSet) :
    Token.params s.setTokens = Assignment.bound s.assignments := by
  rw [setTokens, Token.params_list, List.flatMap_map]
  simp [WrittenValue.setTokens, Assignment.written, AssignedValue.params_written, Assignment.bound]

theorem params_selectTokens (s : AssignmentSet) :
    Token.params s.selectTokens = Assignment.bound s.assignments := by
  rw [selectTokens, Token.params_list, List.flatMap_map]
  simp [Assignment.written, AssignedValue.params_written, Assignment.bound]

end AssignmentSet

namespace Filter

def bound : Filter → List Value
  | .compare _ _ operand => operand.constant?.toList.filter (!·.isNull)
  | .and left right => left.bound ++ right.bound
  | .or left right => left.bound ++ right.bound
  | .not inner => inner.bound
  | .isIn _ values => values.filter (!·.isNull)
  | .any values _ => values.filter (!·.isNull)
  | .isNull _ => []
  | .isNotNull _ => []
  | .local .. => []

theorem bound_of_membership {f : Filter} {field : String} {values : List Value}
    (membership : f.membership? = some (field, values)) :
    f.bound = values.filter (!·.isNull) := by
  cases f <;> cases membership <;> rfl

end Filter

namespace Clause

def bound : Clause → List Value
  | compare _ _ value => [value]
  | member _ values _ => values
  | and left right => left.bound ++ right.bound
  | or left right => left.bound ++ right.bound
  | not inner => inner.bound
  | _ => []

theorem bound_of_normal {column : String → String} {f : Filter} {c : Clause}
    (normal : Filter.Normal column f c) : c.bound = f.bound := by
  have null : Value.null.isNull = true := rfl
  induction normal with
  | compare constant present => simp [bound, Filter.bound, constant, present]
  | equalsNull constant => simp [bound, Filter.bound, constant, null]
  | differsFromNull constant => simp [bound, Filter.bound, constant, null]
  | compareFields => rfl
  | isNull => rfl
  | isNotNull => rfl
  | member membership => exact (Filter.bound_of_membership membership).symm
  | onlyNulls membership absent =>
    rw [Filter.bound_of_membership membership, absent]
    rfl
  | never membership =>
    rw [Filter.bound_of_membership membership]
    rfl
  | and _ _ ihLeft ihRight => rw [bound, Filter.bound, ihLeft, ihRight]
  | or _ _ ihLeft ihRight => rw [bound, Filter.bound, ihLeft, ihRight]
  | not _ ih => rw [bound, Filter.bound, ih]

theorem params_among (column : String) (values : List Value) :
    Token.params (Written.among column values).tokens = values := by
  simp [Written.tokens, Token.params_list, List.flatMap_map]

theorem params_written (c : Clause) : Token.params c.written.tokens = c.bound := by
  induction c with
  | member column values orNull =>
    cases orNull with
    | false => exact params_among column values
    | true => simp [written, Written.tokens, Token.params_list, List.flatMap_map, bound]
  | and left right ihLeft ihRight => simp [written, Written.tokens, ihLeft, ihRight, bound]
  | or left right ihLeft ihRight => simp [written, Written.tokens, ihLeft, ihRight, bound]
  | not inner ih => simp [written, Written.tokens, ih, bound]
  | _ => simp [written, Written.tokens, bound]

end Clause

namespace Condition

theorem params_joinAll {c : Connective} {parts : List Written} (some : parts ≠ []) :
    Token.params (Written.joinAll c parts).tokens =
      parts.flatMap fun w => Token.params w.tokens := by
  rw [Written.tokens_joinAll some, Token.params_list, List.flatMap_map]

theorem params_tupleWritten {columns : List String} {tuple : List Value} (some : columns ≠ [])
    (width : tuple.length = columns.length) :
    Token.params (tupleWritten columns tuple).tokens = tuple := by
  have grouped : Token.params (tupleWritten columns tuple).tokens =
      (columns.zipWith (Written.compare · .eq ·) tuple).flatMap fun w => Token.params w.tokens := by
    simp [tupleWritten, Written.tokens, params_joinAll (zipWith_ne_nil some width _)]
  rw [grouped]
  clear some grouped
  induction columns generalizing tuple with
  | nil => exact (List.length_eq_zero_iff.mp width).symm
  | cons column columns ih =>
    cases tuple with
    | nil => cases width
    | cons v tuple =>
      rw [List.zipWith_cons_cons, List.flatMap_cons, ih (Nat.succ.inj width)]
      simp [Written.tokens]

theorem params_keysWritten {columns : List String} {tuples : List (List Value)}
    (columnsSome : columns ≠ []) (tuplesSome : tuples ≠ [])
    (widths : ∀ tuple ∈ tuples, tuple.length = columns.length) :
    Token.params (keysWritten columns tuples).tokens = tuples.flatten := by
  rcases single_or_wide columns with ⟨column, rfl⟩ | wide
  · exact Clause.params_among column tuples.flatten
  · have filled : tuples.map (tupleWritten columns) ≠ [] := by simpa using tuplesSome
    have each : ∀ tuple ∈ tuples, Token.params (tupleWritten columns tuple).tokens = tuple :=
      fun tuple member => params_tupleWritten columnsSome (widths tuple member)
    rw [keysWritten_wide wide]
    simp only [Written.tokens, Token.params_append, Token.params_text, List.nil_append,
      List.append_nil]
    rw [params_joinAll filled, List.flatMap_map, ← List.flatMap_id]
    exact List.flatMap_congr each

end Condition

end BulkDml
