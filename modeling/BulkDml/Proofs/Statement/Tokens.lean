import BulkDml.Command
import BulkDml.Proofs.Statement.Bound
import BulkDml.Proofs.Statement.Markers

namespace BulkDml

open Clause (symbols_text)

namespace Condition

/-- Where there is no key, the restriction to keys is a condition that never holds. -/
def simplified : Condition → Condition
  | keys _ [] => clause .never
  | c => c

theorem toFragment_simplified (d : Dialect) (c : Condition) :
    c.simplified.toFragment d = c.toFragment d := by
  unfold simplified
  split <;> rfl

def bound : Condition → List Value
  | clause c => c.bound
  | keys _ tuples => tuples.flatten
  | raw f => f.params

theorem bound_simplified (c : Condition) : c.simplified.bound = c.bound := by
  unfold simplified
  split <;> rfl

theorem params_written {c : Condition} (wellFormed : c.WellFormed) :
    Token.params c.written.tokens = c.bound := by
  cases c with
  | clause c => exact c.params_written
  | keys columns tuples => exact params_keysWritten wellFormed.1 wellFormed.2.1 wellFormed.2.2
  | raw f => exact absurd wellFormed id

theorem wellFormed_keys {columns : List String} {tuples : List (List Value)} (some : columns ≠ [])
    (widths : ∀ tuple ∈ tuples, tuple.length = columns.length) :
    (keys columns tuples).simplified.WellFormed := by
  cases tuples with
  | nil => trivial
  | cons tuple tuples => exact ⟨some, List.cons_ne_nil tuple tuples, widths⟩

end Condition

namespace Token

def table (t : TableRef) : List Token :=
  match t.schema with
  | some schema => [.name schema] ++ (Written.text "." ++ [.name t.name])
  | none => [.name t.name]

def names (columns : List String) : List Token :=
  List.intercalate (Written.text ", ") (columns.map fun column => [.name column])

variable {d : Dialect} {b : Backend}

theorem symbols_table (t : TableRef) :
    (table t).flatMap (symbols d) = (d.quoteTable t).toList.map .inl := by
  unfold table Dialect.quoteTable
  cases t.schema <;> simp [symbols, symbols_text]

theorem symbols_names (columns : List String) :
    (names columns).flatMap (symbols d) =
      (", ".intercalate (columns.map d.quote)).toList.map .inl := by
  rw [names, flatMap_intercalate, symbols_text, String.toList_intercalate, map_intercalate]
  simp [symbols, Function.comp_def]

theorem params_table (t : TableRef) : params (table t) = [] := by
  unfold table
  split <;> simp

theorem params_names (columns : List String) : params (names columns) = [] := by
  rw [names, params_list, List.flatMap_map]
  simp

theorem part_table (t : TableRef) : b.dialect.Part (table t) := by
  unfold table
  split
  · exact Backend.part_separated (Dialect.part_name _) (s := ".") (by decide)
      (Dialect.part_name t.name)
  · exact Dialect.part_name t.name

theorem part_names (columns : List String) : b.dialect.Part (names columns) := by
  apply Backend.part_list
  intro part member
  obtain ⟨column, -, rfl⟩ := List.mem_map.mp member
  exact Dialect.part_name column

end Token

namespace RowLimit

variable (limit : Option RowLimit)

theorem isStatementText_afterVerb : isStatementText (afterVerb limit) = true := by
  unfold afterVerb
  split
  · next n =>
    have count : isStatementText (toString n) = true := isStatementText_toString n.toNat
    exact isStatementText_append (isStatementText_append (by decide) count) (by decide)
  · decide

end RowLimit

namespace Command

open Written (text)

def set? : Command → Option AssignmentSet
  | update _ set _ _ => some set
  | insert _ set _ _ _ => some set
  | _ => none

structure Composed (d : Dialect) (c : Command) : Prop where
  notRaw : c.isRaw = false
  dialect : ∀ set ∈ c.set?, set.dialect = d
  condition : ∀ p ∈ c.condition, p.simplified.WellFormed

def bound (c : Command) : List Value :=
  c.set?.elim [] (Assignment.bound ·.assignments) ++ c.condition.elim [] Condition.bound

def headTokens : Command → List Token
  | delete table _ limit =>
    text ("DELETE " ++ RowLimit.afterVerb limit ++ "FROM ") ++ Token.table table
  | update table set _ limit =>
    text ("UPDATE " ++ RowLimit.afterVerb limit) ++
      (Token.table table ++ (text " SET " ++ set.setTokens))
  | insert target set source _ limit =>
    text "INSERT INTO " ++ (Token.table target ++ (text " (" ++ (Token.names set.columns ++
      (text (") SELECT " ++ RowLimit.afterVerb limit) ++
        (set.selectTokens ++ (text " FROM " ++ Token.table source))))))
  | selectKeys columns table _ limit =>
    text ("SELECT " ++ RowLimit.afterVerb limit) ++
      (Token.names columns ++ (text " FROM " ++ Token.table table))
  | raw _ => []

def conditionTokens : Option Condition → List Token
  | some p => text " WHERE " ++ p.simplified.written.tokens
  | none => []

def tokens (c : Command) : List Token :=
  c.headTokens ++ conditionTokens c.condition ++ text (RowLimit.atEnd c.limit)

variable {d : Dialect} {c : Command}

theorem stream_head (spelled : d.Spelled) (composed : c.Composed d) :
    (c.head d).stream = c.headTokens.flatMap (Token.symbols d) := by
  cases c with
  | delete table condition limit =>
    simp [head, headTokens, symbols_text, Token.symbols_table]
  | update table set condition limit =>
    obtain rfl := composed.dialect set rfl
    simp [head, headTokens, symbols_text, Token.symbols_table,
      AssignmentSet.stream_setClause spelled]
  | insert target set source condition limit =>
    obtain rfl := composed.dialect set rfl
    have columns : set.columnList = ", ".intercalate (set.columns.map set.dialect.quote) := by
      simp [AssignmentSet.columnList, AssignmentSet.columns, Assignment.quotedColumn,
        Function.comp_def]
    simp [head, headTokens, symbols_text, Token.symbols_table, Token.symbols_names, columns,
      AssignmentSet.stream_selectList spelled]
  | selectKeys columns table condition limit =>
    simp [head, headTokens, symbols_text, Token.symbols_table, Token.symbols_names]
  | raw statement => cases composed.notRaw

theorem stream_toFragment (spelled : d.Spelled) (composed : c.Composed d) :
    (c.toFragment d).stream = c.tokens.flatMap (Token.symbols d) := by
  have head := stream_head spelled composed
  rw [toFragment, tokens]
  cases restricted : c.condition with
  | none => simp [Condition.appendTo, conditionTokens, head, symbols_text]
  | some p =>
    have condition := Condition.stream_toFragment d (composed.condition p restricted)
    rw [Condition.toFragment_simplified] at condition
    simp [Condition.appendTo, conditionTokens, head, condition, symbols_text]

theorem params_tokens (composed : c.Composed d) : Token.params c.tokens = c.bound := by
  have head : Token.params c.headTokens = c.set?.elim [] (Assignment.bound ·.assignments) := by
    cases c with
    | delete => simp [headTokens, Token.params_table, set?]
    | update =>
      simp [headTokens, Token.params_table, AssignmentSet.params_setTokens, set?]
    | insert =>
      simp [headTokens, Token.params_table, Token.params_names,
        AssignmentSet.params_selectTokens, set?]
    | selectKeys => simp [headTokens, Token.params_table, Token.params_names, set?]
    | raw => rfl
  rw [tokens, bound, Token.params_append, Token.params_append, head, Token.params_text]
  cases restricted : c.condition with
  | none => simp [conditionTokens]
  | some p =>
    have condition := Condition.params_written (composed.condition p restricted)
    rw [Condition.bound_simplified] at condition
    simp [conditionTokens, condition]

variable {b : Backend}

theorem part_head (composed : c.Composed b.dialect) : b.dialect.Part c.headTokens := by
  have verb {before : String} (known : isStatementText before = true) (limit : Option RowLimit) :
      isStatementText (before ++ RowLimit.afterVerb limit) = true :=
    isStatementText_append known (RowLimit.isStatementText_afterVerb limit)
  cases c with
  | delete table condition limit =>
    exact Backend.part_text_append (isStatementText_append (verb (by decide) limit) (by decide))
      (Token.part_table table)
  | update table set condition limit =>
    obtain ⟨d, assignments⟩ := set
    obtain rfl : d = b.dialect := composed.dialect _ rfl
    have assigned : b.dialect.Part (Token.table table ++ (text " SET " ++ _)) :=
      Backend.part_separated (Token.part_table table) (by decide)
        (AssignmentSet.part_setTokens assignments)
    exact Backend.part_text_append (verb (by decide) limit) assigned
  | insert target set source condition limit =>
    obtain ⟨d, assignments⟩ := set
    obtain rfl : d = b.dialect := composed.dialect _ rfl
    have select : isSeparator (") SELECT " ++ RowLimit.afterVerb limit) = true :=
      isSeparator_append (by decide) (RowLimit.isStatementText_afterVerb limit)
    have rows : b.dialect.Part (AssignmentSet.selectTokens ⟨b.dialect, assignments⟩ ++
        (text " FROM " ++ _)) :=
      Backend.part_separated (AssignmentSet.part_selectTokens assignments) (by decide)
        (Token.part_table source)
    have listed :=
      Backend.part_separated (Token.part_names (assignments.map (·.column))) select rows
    exact Backend.part_text_append (by decide)
      (Backend.part_separated (Token.part_table target) (by decide) listed)
  | selectKeys columns table condition limit =>
    have rows : b.dialect.Part (Token.names columns ++ (text " FROM " ++ _)) :=
      Backend.part_separated (Token.part_names columns) (by decide) (Token.part_table table)
    exact Backend.part_text_append (verb (by decide) limit) rows
  | raw statement => cases composed.notRaw

theorem part_tokens (composed : c.Composed b.dialect) : b.dialect.Part c.tokens := by
  have restricted : b.dialect.Part (c.headTokens ++ conditionTokens c.condition) := by
    cases c.condition with
    | none => simpa [conditionTokens] using part_head composed
    | some p =>
      exact Backend.part_separated (part_head composed) (by decide)
        (Dialect.part_written (Dialect.clear b) p.simplified.written)
  have unlimited : b.dialect.Part (c.headTokens ++ conditionTokens c.condition ++ text "") := by
    rwa [text, String.toList_empty, List.map_nil, List.append_nil]
  rw [tokens]
  cases c.limit with
  | none => exact unlimited
  | some limit =>
    cases limit with
    | top n => exact unlimited
    | trailing n =>
      have known : isSeparator (" LIMIT " ++ toString n) = true :=
        isSeparator_append (by decide) (isStatementText_toString n.toNat)
      exact Backend.part_ended restricted known

end Command

namespace Request

/-- The markers of a composed command are those of its parameters, in their order. -/
theorem statement_numbered {b : Backend} {c : Command} (composed : c.Composed b.dialect) :
    b.dialect.Numbers (statement ⟨b.dialect, c⟩) ∧ (statement ⟨b.dialect, c⟩).params = c.bound := by
  have written := Command.stream_toFragment (Dialect.spelled b) composed
  rw [statement_eq_render composed.notRaw]
  constructor
  · exact Dialect.numbers_render (Dialect.clear b).markers written
      (Command.part_tokens composed).legible
  · rw [Dialect.params_render written, Command.params_tokens composed]

end Request

end BulkDml
