import BulkDml.Proofs.Clause.Normal
import BulkDml.Proofs.Clause.Written

namespace BulkDml

def conditionChars : List Char := " ,()=<>01ADILNORSTU".toList

def isConditionText (s : String) : Bool := s.toList.all (· ∈ conditionChars)

namespace Dialect

structure Clear (d : Dialect) : Prop where
  markers : d.MarkersApart
  plain : ∀ c ∈ conditionChars, d.Plain c
  closes : ∀ c ∈ conditionChars, c ≠ d.closeQuote

theorem clear (b : Backend) : b.dialect.Clear := by
  have plain : conditionChars.all (fun c => decide (b.dialect.Plain c)) = true := by
    cases b <;> decide
  have closes : conditionChars.all (· ≠ b.dialect.closeQuote) = true := by
    cases b <;> decide
  constructor
  · cases b <;> exact ⟨_, _, rfl, by decide⟩
  · exact fun c member => of_decide_eq_true (List.all_eq_true.mp plain c member)
  · exact fun c member => of_decide_eq_true (List.all_eq_true.mp closes c member)

/-- Limit styles of a caller do not matter. -/
theorem clear_custom (base : Backend) (mutationLimit : LimitStyle)
    (selectLimit : Option LimitStyle) : (custom base mutationLimit selectLimit).Clear where
  markers := (clear base).markers
  plain := (clear base).plain
  closes := (clear base).closes

variable {d : Dialect}

theorem legible_text_of_plain {s : String} (plain : ∀ c ∈ s.toList, d.Plain c) {rest : List Token}
    (legible : d.Legible rest) : d.Legible (Written.text s ++ rest) := by
  unfold Written.text
  generalize s.toList = chars at plain
  induction chars with
  | nil => exact legible
  | cons c chars ih =>
    obtain ⟨first, later⟩ := List.forall_mem_cons.mp plain
    exact ⟨first, ih later⟩

theorem legible_text (clear : d.Clear) {s : String} (known : isConditionText s = true)
    {rest : List Token} (legible : d.Legible rest) : d.Legible (Written.text s ++ rest) := by
  apply legible_text_of_plain _ legible
  intro c member
  exact clear.plain c (of_decide_eq_true (List.all_eq_true.mp known c member))

theorem separates_text_of_closes {s : String} {c : Char} {chars : List Char}
    (spelled : s.toList = c :: chars) (closes : c ≠ d.closeQuote) (letter : c.isDigit = false)
    (rest : List Token) : d.Separates (Written.text s ++ rest) := by
  intro t first
  rw [Written.text, spelled] at first
  cases first
  exact ⟨c, rfl, closes, letter⟩

theorem separates_text (clear : d.Clear) {s : String} {c : Char} {chars : List Char}
    (spelled : s.toList = c :: chars) (known : c ∈ conditionChars) (letter : c.isDigit = false)
    (rest : List Token) : d.Separates (Written.text s ++ rest) :=
  separates_text_of_closes spelled (clear.closes c known) letter rest

theorem legible_list (clear : d.Clear) (values : List Value) {rest : List Token}
    (legible : d.Legible rest) (separates : d.Separates rest) :
    d.Legible (List.intercalate (Written.text ", ") (values.map fun v => [.value v]) ++ rest) := by
  induction values with
  | nil => exact legible
  | cons v values ih =>
    cases values with
    | nil => exact ⟨separates, legible⟩
    | cons w values =>
      have later := legible_text clear (s := ", ") (by decide) ih
      exact ⟨separates_text clear (s := ", ") rfl (by decide) (by decide) _, later⟩

theorem isConditionText_op (op : CompareOp) : isConditionText (" " ++ op.sql ++ " ") = true := by
  cases op <;> decide

theorem separates_op (clear : d.Clear) (op : CompareOp) (rest : List Token) :
    d.Separates (Written.text (" " ++ op.sql ++ " ") ++ rest) := by
  cases op <;> exact separates_text clear rfl (by decide) (by decide) _

theorem legible_tokens (clear : d.Clear) (w : Written) {rest : List Token}
    (legible : d.Legible rest) (separates : d.Separates rest) : d.Legible (w.tokens ++ rest) := by
  induction w generalizing rest with
  | compare column op v =>
    simp only [Written.tokens, List.append_assoc, List.cons_append, List.nil_append]
    exact ⟨separates_op clear op _, legible_text clear (isConditionText_op op) ⟨separates, legible⟩⟩
  | compareColumns left op right =>
    simp only [Written.tokens, List.append_assoc, List.cons_append, List.nil_append]
    exact ⟨separates_op clear op _, legible_text clear (isConditionText_op op) ⟨separates, legible⟩⟩
  | isNull column =>
    exact ⟨separates_text clear rfl (by decide) (by decide) _,
      legible_text clear (by decide) legible⟩
  | isNotNull column =>
    exact ⟨separates_text clear rfl (by decide) (by decide) _,
      legible_text clear (by decide) legible⟩
  | among column values =>
    simp only [Written.tokens, List.append_assoc, List.cons_append]
    have closed := legible_text clear (s := ")") (by decide) legible
    have ends := separates_text clear (s := ")") rfl (by decide) (by decide) rest
    exact ⟨separates_text clear rfl (by decide) (by decide) _,
      legible_text clear (by decide) (legible_list clear values closed ends)⟩
  | never => exact legible_text clear (by decide) legible
  | negated inner ih =>
    simp only [Written.tokens, List.append_assoc]
    exact legible_text clear (by decide) (ih legible separates)
  | grouped inner ih =>
    simp only [Written.tokens, List.append_assoc]
    have closed := legible_text clear (s := ")") (by decide) legible
    have ends := separates_text clear (s := ")") rfl (by decide) (by decide) rest
    exact legible_text clear (by decide) (ih closed ends)
  | joined left c right ihLeft ihRight =>
    simp only [Written.tokens, List.append_assoc]
    have known : isConditionText c.text = true := by cases c <;> decide
    apply ihLeft (legible_text clear known (ihRight legible separates))
    cases c <;> exact separates_text clear rfl (by decide) (by decide) _

def readConditionFrom (d : Dialect) (next : Nat) (params : List Value) (sql : String) :
    Option Written :=
  (d.readTokens params sql.length next sql.toList).bind Written.ofTokens?

def readCondition? (d : Dialect) (s : Statement) : Option Written :=
  (d.readStatement s).bind Written.ofTokens?

theorem readConditionFrom_renderText (clear : d.Clear) {w : Written} (fits : w.Fits)
    {f : Fragment} (written : f.stream = w.tokens.flatMap (Token.symbols d))
    (before : List Value) :
    d.readConditionFrom before.length (before ++ f.params)
        (Fragment.renderText d.marker before.length f.segments) = some w := by
  have alone : d.Legible (w.tokens ++ []) := legible_tokens clear w trivial fun _ => nofun
  rw [List.append_nil] at alone
  have text : (Fragment.renderText d.marker before.length f.segments).toList =
      d.write before.length w.tokens := by
    rw [write, ← written]
    exact Fragment.toList_renderText d.marker before.length f.segments
  have params : f.params = Token.params w.tokens := params_render written
  rw [readConditionFrom, text, params, readTokens_write clear.markers alone before]
  · exact Written.ofTokens?_tokens fits
  · exact Nat.le_of_eq (by rw [← text, String.length_toList])

theorem readCondition?_render (clear : d.Clear) {w : Written} (fits : w.Fits) {f : Fragment}
    (written : f.stream = w.tokens.flatMap (Token.symbols d)) :
    d.readCondition? (d.render f) = some w :=
  readConditionFrom_renderText clear fits written []

end Dialect

namespace Clause

def written : Clause → Written
  | compare column op value => .compare column op value
  | compareColumns left op right => .compareColumns left op right
  | isNull column => .isNull column
  | isNotNull column => .isNotNull column
  | member column values orNull =>
    if orNull then .grouped (.joined (.among column values) .or (.isNull column))
    else .among column values
  | never => .never
  | and left right => .joined (.grouped left.written) .and (.grouped right.written)
  | or left right => .joined (.grouped left.written) .or (.grouped right.written)
  | not inner => .negated (.grouped inner.written)

def ofWritten? : Written → Option Clause
  | .compare column op value => some (compare column op value)
  | .compareColumns left op right => some (compareColumns left op right)
  | .isNull column => some (isNull column)
  | .isNotNull column => some (isNotNull column)
  | .among column values => some (member column values false)
  | .never => some never
  | .grouped (.joined (.among column values) .or (.isNull other)) =>
    if column = other then some (member column values true) else none
  | .joined (.grouped left) .and (.grouped right) => do
    return and (← ofWritten? left) (← ofWritten? right)
  | .joined (.grouped left) .or (.grouped right) => do
    return or (← ofWritten? left) (← ofWritten? right)
  | .negated (.grouped inner) => do return not (← ofWritten? inner)
  | _ => none

theorem ofWritten?_written (c : Clause) : ofWritten? c.written = some c := by
  induction c with
  | member column values orNull => cases orNull <;> simp [written, ofWritten?]
  | and left right ihLeft ihRight => simp [written, ofWritten?, ihLeft, ihRight]
  | or left right ihLeft ihRight => simp [written, ofWritten?, ihLeft, ihRight]
  | not inner ih => simp [written, ofWritten?, ih]
  | _ => rfl

theorem truth_written (order : Collation) (row : String → Value) (c : Clause) :
    c.written.truth order row = c.truth order row := by
  induction c with
  | member column values orNull => cases orNull <;> rfl
  | and left right ihLeft ihRight =>
    simp [written, Written.truth, truth, Connective.combine, ihLeft, ihRight]
  | or left right ihLeft ihRight =>
    simp [written, Written.truth, truth, Connective.combine, ihLeft, ihRight]
  | not inner ih => simp [written, Written.truth, truth, ih]
  | _ => rfl

theorem mapValues_written (bind : Value → Value) (c : Clause) :
    (c.mapValues bind).written = c.written.mapValues bind := by
  induction c with
  | member column values orNull => cases orNull <;> rfl
  | and left right ihLeft ihRight => simp [mapValues, written, Written.mapValues, ihLeft, ihRight]
  | or left right ihLeft ihRight => simp [mapValues, written, Written.mapValues, ihLeft, ihRight]
  | not inner ih => simp [mapValues, written, Written.mapValues, ih]
  | _ => rfl

theorem fits_written {c : Clause} (listed : c.Listed) : c.written.Fits := by
  induction c with
  | member column values orNull =>
    cases orNull with
    | false => exact listed
    | true => exact ⟨Nat.zero_lt_two, Nat.zero_le _, listed, trivial⟩
  | and left right ihLeft ihRight =>
    exact ⟨Nat.zero_lt_one, Nat.zero_le _, ihLeft listed.1, ihRight listed.2⟩
  | or left right ihLeft ihRight =>
    exact ⟨Nat.zero_lt_two, Nat.zero_le _, ihLeft listed.1, ihRight listed.2⟩
  | not inner ih => exact ⟨rfl, ih listed⟩
  | _ => trivial

theorem symbols_text (d : Dialect) (s : String) :
    (Written.text s).flatMap (Token.symbols d) = s.toList.map .inl := by
  rw [Written.text, List.flatMap_map, List.map_eq_flatMap]
  rfl

theorem stream_inList (d : Dialect) (column : String) (values : List Value) :
    (inList (d.quote column) values).stream =
      (Written.among column values).tokens.flatMap (Token.symbols d) := by
  simp [inList, Written.tokens, symbols_text, Token.symbols, Fragment.stream_join,
    flatMap_intercalate, Function.comp_def]

theorem stream_toFragment (d : Dialect) (c : Clause) :
    (c.toFragment d).stream = c.written.tokens.flatMap (Token.symbols d) := by
  induction c with
  | compare column op v =>
    simp [toFragment, written, Written.tokens, symbols_text, Token.symbols]
  | compareColumns left op right =>
    simp [toFragment, written, Written.tokens, symbols_text, Token.symbols]
  | isNull column => simp [toFragment, written, Written.tokens, symbols_text, Token.symbols]
  | isNotNull column => simp [toFragment, written, Written.tokens, symbols_text, Token.symbols]
  | member column values orNull =>
    cases orNull with
    | false => exact stream_inList d column values
    | true =>
      rw [toFragment, if_pos rfl, Fragment.stream_parenthesized, Fragment.stream_pushSql,
        stream_inList]
      simp [written, Written.tokens, symbols_text, Token.symbols, Connective.text]
  | never => simp [toFragment, written, Written.tokens, symbols_text, Dialect.falsePredicate]
  | and left right ihLeft ihRight =>
    simp [toFragment, written, Written.tokens, symbols_text, ihLeft, ihRight, Connective.text]
  | or left right ihLeft ihRight =>
    simp [toFragment, written, Written.tokens, symbols_text, ihLeft, ihRight, Connective.text]
  | not inner ih => simp [toFragment, written, Written.tokens, symbols_text, ih]

end Clause

namespace Dialect

def readClause? (d : Dialect) (s : Statement) : Option Clause :=
  (d.readCondition? s).bind Clause.ofWritten?

theorem readClause?_render {d : Dialect} (clear : d.Clear) {c : Clause} (listed : c.Listed) :
    d.readClause? (d.render (c.toFragment d)) = some c := by
  rw [readClause?, readCondition?_render clear (Clause.fits_written listed) (c.stream_toFragment d)]
  exact c.ofWritten?_written

end Dialect

namespace Filter

/-- The text of a compiled filter is read as the one normal form of the filter, and that has the
truth of the filter on every row. -/
theorem compiled_readable (b : Backend) {m : Mapping} {f : Filter} {c : Clause}
    (compiled : Clause.ofFilter m f = .ok c) :
    ∃ n, b.dialect.readClause? (b.dialect.render (c.toFragment b.dialect)) = some n ∧
      (∀ e, f.Normal m.columnName e ↔ e = n) ∧
      ∀ order bind row,
        (n.mapValues bind).truth order row = f.truth order bind m.columnName row := by
  have normal := normal_of_compiled compiled
  refine ⟨c, Dialect.readClause?_render (Dialect.clear b) normal.listed, ?_, normal.truth_eq⟩
  intro e
  constructor
  · intro other
    exact other.unique normal
  · rintro rfl
    exact normal

def trickyNames : Mapping :=
  ⟨⟨none, "t", [⟨"a", "x\" = ?1 OR (", .integer, true⟩, ⟨"b", "] IS NULL", .text, false⟩]⟩,
    by decide⟩

theorem compiled_readable_trickyNames :
    let f := Filter.not (.and (.isIn "a" [.integer 1, .null]) (.compare "b" .ne (.param .null)))
    let c := Clause.not (.and (.member "x\" = ?1 OR (" [.integer 1] true) (.isNotNull "] IS NULL"))
    Clause.ofFilter trickyNames f = .ok c ∧
      ∃ n, Backend.sqlite.dialect.readClause?
          (Backend.sqlite.dialect.render (c.toFragment Backend.sqlite.dialect)) = some n ∧
        (∀ e, f.Normal trickyNames.columnName e ↔ e = n) ∧
        ∀ order bind row,
          (n.mapValues bind).truth order row = f.truth order bind trickyNames.columnName row :=
  ⟨rfl, compiled_readable .sqlite rfl⟩

end Filter

end BulkDml
