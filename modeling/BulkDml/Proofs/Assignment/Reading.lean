import BulkDml.Proofs.Assignment.Compiled
import BulkDml.Proofs.Assignment.Written
import BulkDml.Proofs.Statement.Legible

namespace BulkDml

namespace Dialect

def WritesDigits (d : Dialect) : Prop := d.falseLiteral = "0" ∧ d.trueLiteral = "1"

instance (d : Dialect) : Decidable d.WritesDigits := inferInstanceAs (Decidable (_ ∧ _))

def readOp (d : Dialect) (op : ArithmeticOp) : ArithmeticOp :=
  if op = .concat ∧ d.concatenation = .between "+" then .add else op

structure Spelled (d : Dialect) : Prop where
  booleans : d.WritesDigits ∨ d.falseLiteral = "FALSE" ∧ d.trueLiteral = "TRUE"
  concatenation : d.concatenation = .between "||" ∨ d.concatenation = .between "+" ∨
    d.concatenation = .call "CONCAT"

theorem spelled (b : Backend) : b.dialect.Spelled := by
  constructor <;> cases b <;> decide

end Dialect

namespace AssignedValue

def normalLiteral (d : Dialect) : Value → AssignedValue
  | .null => literal .null
  | .integer n => literal (.integer n)
  | .bool b => if d.WritesDigits then literal (.integer (if b then 1 else 0)) else literal (.bool b)
  | v => param v

/-- What the text of a value tells of it: a derived value is an operation on the assigned column, a
constant that is bound is a parameter, booleans may be numbers, and concatenation may be `+`. -/
def normal (d : Dialect) (own : String) : AssignedValue → AssignedValue
  | literal v => normalLiteral d v
  | param v => param v
  | column name => column name
  | derived op operand => binary (column own) (d.readOp op) (operand.normal d own)
  | binary left op right => binary (left.normal d own) (d.readOp op) (right.normal d own)

def boolWritten (d : Dialect) (b : Bool) : WrittenValue :=
  if d.WritesDigits then .integer (if b then 1 else 0) else .bool b

def literalWritten (d : Dialect) : Value → WrittenValue
  | .null => .null
  | .integer n => .integer n
  | .bool b => boolWritten d b
  | v => .param v

def operationWritten (d : Dialect) (op : ArithmeticOp) (left right : WrittenValue) : WrittenValue :=
  match op, d.concatenation with
  | .concat, .call _ => .call left right
  | op, _ => .operation left (d.readOp op) right

def written (d : Dialect) (own : String) : AssignedValue → WrittenValue
  | literal v => literalWritten d v
  | param v => .param v
  | column name => .column name
  | derived op operand =>
    operationWritten d op (.column own) (wrapped operand (operand.written d own))
  | binary left op right =>
    operationWritten d op (wrapped left (left.written d own)) (wrapped right (right.written d own))
where
  wrapped (v : AssignedValue) (t : WrittenValue) : WrittenValue :=
    if v.isCompound then .grouped t else t

variable {d : Dialect} {own : String}

theorem value_wrapped (v : AssignedValue) (t : WrittenValue) :
    (written.wrapped v t).value = t.value := by
  unfold written.wrapped
  split <;> rfl

theorem value_operationWritten (op : ArithmeticOp) (left right : WrittenValue) :
    (operationWritten d op left right).value = binary left.value (d.readOp op) right.value := by
  unfold operationWritten
  split
  · next call =>
    simp [Dialect.readOp, call, WrittenValue.value]
  · rfl

theorem value_literalWritten (v : Value) : (literalWritten d v).value = normalLiteral d v := by
  cases v with
  | bool b =>
    change (boolWritten d b).value = if d.WritesDigits then _ else _
    unfold boolWritten
    split <;> rfl
  | _ => rfl

theorem value_written (v : AssignedValue) : (v.written d own).value = v.normal d own := by
  induction v with
  | literal v => exact value_literalWritten v
  | param v => rfl
  | column name => rfl
  | derived op operand ih =>
    rw [written, value_operationWritten, value_wrapped, ih]
    rfl
  | binary left op right ihLeft ihRight =>
    rw [written, value_operationWritten, value_wrapped, value_wrapped, ihLeft, ihRight]
    rfl

theorem isOperation_wrapped {v : AssignedValue} {t : WrittenValue}
    (simple : v.isCompound = false → t.isOperation = false) :
    (written.wrapped v t).isOperation = false := by
  unfold written.wrapped
  split
  · rfl
  · next alone => exact simple (Bool.eq_false_iff.mpr alone)

theorem fits_wrapped {v : AssignedValue} {t : WrittenValue} (fits : t.Fits) :
    (written.wrapped v t).Fits := by
  unfold written.wrapped
  split <;> exact fits

theorem fits_operationWritten (op : ArithmeticOp) {left right : WrittenValue}
    (aloneLeft : left.isOperation = false) (aloneRight : right.isOperation = false)
    (fitsLeft : left.Fits) (fitsRight : right.Fits) :
    (operationWritten d op left right).Fits := by
  unfold operationWritten
  split
  · exact ⟨fitsLeft, fitsRight⟩
  · exact ⟨aloneLeft, aloneRight, fitsLeft, fitsRight⟩

theorem isOperation_literalWritten (v : Value) : (literalWritten d v).isOperation = false := by
  cases v with
  | bool b =>
    change (boolWritten d b).isOperation = false
    unfold boolWritten
    split <;> rfl
  | _ => rfl

theorem fits_literalWritten (v : Value) : (literalWritten d v).Fits := by
  cases v with
  | bool b =>
    change (boolWritten d b).Fits
    unfold boolWritten
    split <;> trivial
  | _ => trivial

theorem isOperation_written {v : AssignedValue} (simple : v.isCompound = false) :
    (v.written d own).isOperation = false := by
  cases v with
  | literal v => exact isOperation_literalWritten v
  | param v => rfl
  | column name => rfl
  | derived => cases simple
  | binary => cases simple

theorem fits_written (v : AssignedValue) : (v.written d own).Fits := by
  induction v with
  | literal v => exact fits_literalWritten v
  | param v => trivial
  | column name => trivial
  | derived op operand ih =>
    exact fits_operationWritten op rfl (isOperation_wrapped isOperation_written) trivial
      (fits_wrapped ih)
  | binary left op right ihLeft ihRight =>
    exact fits_operationWritten op (isOperation_wrapped isOperation_written)
      (isOperation_wrapped isOperation_written) (fits_wrapped ihLeft) (fits_wrapped ihRight)

open Clause (symbols_text)

theorem stream_boolLiteral (spelled : d.Spelled) (b : Bool) :
    (Fragment.sql (d.boolLiteral b)).stream =
      (boolWritten d b).tokens.flatMap (Token.symbols d) := by
  unfold boolWritten
  rcases spelled.booleans with digits | ⟨no, yes⟩
  · have spells : d.boolLiteral b = WrittenValue.integerText (if b then 1 else 0) := by
      cases b
      · exact digits.1
      · exact digits.2
    rw [if_pos digits, spells]
    simp [WrittenValue.tokens, symbols_text]
  · have words : ¬d.WritesDigits := fun digits => by simp [Dialect.WritesDigits, no] at digits
    have spells : d.boolLiteral b = WrittenValue.boolText b := by
      cases b
      · exact no
      · exact yes
    rw [if_neg words, spells]
    simp [WrittenValue.tokens, symbols_text]

theorem stream_literalFragment (spelled : d.Spelled) (v : Value) :
    (literalFragment d v).stream = (literalWritten d v).tokens.flatMap (Token.symbols d) := by
  cases v with
  | null => simp [literalFragment, literalWritten, WrittenValue.tokens, symbols_text]
  | integer n =>
    simp [literalFragment, literalWritten, WrittenValue.tokens, WrittenValue.integerText,
      symbols_text]
  | bool b => exact stream_boolLiteral spelled b
  | _ => simp [literalFragment, literalWritten, WrittenValue.tokens, Token.symbols]

theorem stream_wrap {v : AssignedValue} {f : Fragment} {t : WrittenValue}
    (same : f.stream = t.tokens.flatMap (Token.symbols d)) :
    (toFragment.wrap v f).stream =
      (written.wrapped v t).tokens.flatMap (Token.symbols d) := by
  unfold toFragment.wrap written.wrapped
  split
  · simp [same, WrittenValue.tokens, symbols_text]
  · exact same

theorem stream_operatorFragment (spelled : d.Spelled) (op : ArithmeticOp) {f g : Fragment}
    {left right : WrittenValue} (sameLeft : f.stream = left.tokens.flatMap (Token.symbols d))
    (sameRight : g.stream = right.tokens.flatMap (Token.symbols d)) :
    (operatorFragment d op f g).stream =
      (operationWritten d op left right).tokens.flatMap (Token.symbols d) := by
  have between (op : ArithmeticOp) :
      (Fragment.join (WrittenValue.signText op) [f, g]).stream =
        (WrittenValue.operation left op right).tokens.flatMap (Token.symbols d) := by
    simp [Fragment.stream_join, WrittenValue.tokens, sameLeft, sameRight, symbols_text]
  by_cases concat : op = .concat
  · subst concat
    rw [operatorFragment, if_pos rfl, Dialect.concat]
    rcases spelled.concatenation with pipes | plus | call
    · have same : operationWritten d .concat left right = .operation left .concat right := by
        simp [operationWritten, Dialect.readOp, pipes]
      rw [pipes, same]
      exact between .concat
    · have same : operationWritten d .concat left right = .operation left .add right := by
        simp [operationWritten, Dialect.readOp, plus]
      rw [plus, same]
      exact between .add
    · have same : operationWritten d .concat left right = .call left right := by
        simp [operationWritten, call]
      rw [call, same]
      simp [WrittenValue.tokens, Fragment.stream_join, sameLeft, sameRight, symbols_text]
  · have same : operationWritten d op left right = .operation left op right := by
      cases op <;> simp_all [operationWritten, Dialect.readOp]
    rw [operatorFragment, if_neg concat, same]
    exact between op

theorem stream_toFragment (spelled : d.Spelled) (v : AssignedValue) :
    (v.toFragment d (d.quote own)).stream =
      (v.written d own).tokens.flatMap (Token.symbols d) := by
  induction v with
  | literal v => exact stream_literalFragment spelled v
  | param v => simp [toFragment, written, WrittenValue.tokens, Token.symbols]
  | column name => simp [toFragment, written, WrittenValue.tokens, Token.symbols]
  | derived op operand ih =>
    have column : (Fragment.sql (d.quote own)).stream =
        (WrittenValue.column own).tokens.flatMap (Token.symbols d) := by
      simp [WrittenValue.tokens, Token.symbols]
    exact stream_operatorFragment spelled op column (stream_wrap ih)
  | binary left op right ihLeft ihRight =>
    exact stream_operatorFragment spelled op (stream_wrap ihLeft) (stream_wrap ihRight)

end AssignedValue

namespace WrittenValue

open Written (text strip strip_text)

def setTokens (own : String) (t : WrittenValue) : List Token :=
  .name own :: (text " = " ++ t.tokens)

def readAssignment (closeness : ArithmeticOp → Nat) :
    List Token → Option ((String × AssignedValue) × List Token)
  | .name own :: rest => do
    let rest ← strip " = " rest
    let (t, rest) ← read closeness (rest.length + 1) rest
    return ((own, t.value), rest)
  | _ => none

def readAssignments (closeness : ArithmeticOp → Nat) :
    Nat → List Token → Option (List (String × AssignedValue) × List Token)
  | 0, _ => none
  | fuel + 1, tokens => do
    let (assignment, rest) ← readAssignment closeness tokens
    match strip ", " rest with
    | some rest => do
      let (assignments, rest) ← readAssignments closeness fuel rest
      return (assignment :: assignments, rest)
    | none => return ([assignment], rest)

variable {closeness : ArithmeticOp → Nat}

theorem readAssignment_setTokens (own : String) {t : WrittenValue} (fits : t.Fits)
    {rest : List Token} (ends : Ends rest) (stops : readSign rest = none) :
    readAssignment closeness (setTokens own t ++ rest) = some ((own, t.value), rest) := by
  have enough : t.tokens.length < (t.tokens ++ rest).length + 1 := by
    rw [List.length_append]
    omega
  have reads : read closeness _ _ = _ := read_tokens fits ends stops enough
  rw [setTokens, List.cons_append, List.append_assoc, readAssignment, strip_text]
  simp only [Option.bind_eq_bind, Option.bind_some]
  rw [reads]
  rfl

theorem readAssignments_list {pairs : List (String × WrittenValue)} (filled : pairs ≠ [])
    (fits : ∀ p ∈ pairs, p.2.Fits) {rest : List Token} (ends : Ends rest)
    (stops : readSign rest = none) (last : strip ", " rest = none) {fuel : Nat}
    (enough : pairs.length ≤ fuel) :
    readAssignments closeness fuel
        (List.intercalate (text ", ") (pairs.map fun p => setTokens p.1 p.2) ++ rest) =
      some (pairs.map fun p => (p.1, p.2.value), rest) := by
  induction pairs generalizing fuel with
  | nil => exact absurd rfl filled
  | cons p pairs ih =>
    obtain ⟨first, later⟩ := List.forall_mem_cons.mp fits
    obtain ⟨less, rfl⟩ := Nat.exists_eq_add_of_le' (Nat.le_trans (Nat.le_add_left 1 _) enough)
    cases pairs with
    | nil =>
      rw [List.map_singleton, List.intercalate_singleton, readAssignments,
        readAssignment_setTokens p.1 first ends stops]
      simp only [Option.bind_eq_bind, Option.bind_some, last]
      rfl
    | cons next pairs =>
      have reads := ih (List.cons_ne_nil _ _) later (Nat.le_of_succ_le_succ enough)
      simp only [List.map_cons] at reads ⊢
      rw [List.intercalate_cons_cons, List.append_assoc, List.append_assoc, readAssignments,
        readAssignment_setTokens p.1 first (ends_text rfl (by decide) _) rfl]
      simp only [Option.bind_eq_bind, Option.bind_some, strip_text]
      rw [reads]
      rfl

theorem length_le_list (pairs : List (String × WrittenValue)) :
    pairs.length ≤
      (List.intercalate (text ", ") (pairs.map fun p => setTokens p.1 p.2)).length := by
  induction pairs with
  | nil => exact Nat.zero_le _
  | cons p pairs ih =>
    cases pairs with
    | nil => simp [setTokens]
    | cons next pairs =>
      simp only [List.map_cons, List.intercalate_cons_cons, List.length_append, List.length_cons,
        setTokens] at ih ⊢
      omega

theorem isStatementText_integerText (n : Int64) : isStatementText (integerText n) = true := by
  obtain ⟨k, -, written⟩ | ⟨k, -, written⟩ := integerText_eq n
  · rw [written]
    exact isStatementText_toString k
  · rw [written]
    exact isStatementText_append (by decide) (isStatementText_toString k)

variable {b : Backend}

theorem part_tokens (t : WrittenValue) : b.dialect.Part t.tokens := by
  induction t with
  | null => exact Backend.part_text (by decide)
  | integer n => exact Backend.part_text (isStatementText_integerText n)
  | bool truth => cases truth <;> exact Backend.part_text (by decide)
  | param v => exact Dialect.part_value v
  | column name => exact Dialect.part_name name
  | grouped inner ih =>
    rw [tokens, List.append_assoc]
    exact Backend.part_text_append (by decide) (Backend.part_ended ih (by decide))
  | call left right ihLeft ihRight =>
    simp only [tokens, List.append_assoc]
    have last : b.dialect.Part (right.tokens ++ text ")") :=
      Backend.part_ended ihRight (by decide)
    exact Backend.part_text_append (by decide) (Backend.part_separated ihLeft (by decide) last)
  | operation left op right ihLeft ihRight =>
    rw [tokens, List.append_assoc]
    have sign : isSeparator (signText op) = true := by cases op <;> decide
    exact Backend.part_separated ihLeft sign ihRight

theorem part_setTokens (own : String) (t : WrittenValue) : b.dialect.Part (setTokens own t) :=
  Backend.part_separated (Dialect.part_name own) (s := " = ") (by decide) t.part_tokens

end WrittenValue

namespace Assignment

def written (d : Dialect) (a : Assignment) : WrittenValue := a.value.written d a.column

def normal (d : Dialect) (a : Assignment) : String × AssignedValue :=
  (a.column, a.value.normal d a.column)

end Assignment

namespace AssignmentSet

open Clause (symbols_text)

def setTokens (s : AssignmentSet) : List Token :=
  List.intercalate (Written.text ", ")
    (s.assignments.map fun a => WrittenValue.setTokens a.column (a.written s.dialect))

def selectTokens (s : AssignmentSet) : List Token :=
  List.intercalate (Written.text ", ") (s.assignments.map fun a => (a.written s.dialect).tokens)

theorem stream_valueFragment {d : Dialect} (spelled : d.Spelled) (a : Assignment) :
    (a.valueFragment d).stream = (a.written d).tokens.flatMap (Token.symbols d) :=
  AssignedValue.stream_toFragment spelled a.value

theorem stream_setClause {s : AssignmentSet} (spelled : s.dialect.Spelled) :
    s.setClause.stream = s.setTokens.flatMap (Token.symbols s.dialect) := by
  have each (a : Assignment) :
      (Fragment.sql (a.quotedColumn s.dialect ++ " = ") ++ a.valueFragment s.dialect).stream =
        (WrittenValue.setTokens a.column (a.written s.dialect)).flatMap
          (Token.symbols s.dialect) := by
    simp [Assignment.quotedColumn, stream_valueFragment spelled, WrittenValue.setTokens,
      Token.symbols, symbols_text]
  simp [setClause, setTokens, Fragment.stream_join, flatMap_intercalate, symbols_text,
    Function.comp_def, each]

theorem stream_selectList {s : AssignmentSet} (spelled : s.dialect.Spelled) :
    s.selectList.stream = s.selectTokens.flatMap (Token.symbols s.dialect) := by
  simp [selectList, selectTokens, Fragment.stream_join, flatMap_intercalate, symbols_text,
    Function.comp_def, stream_valueFragment spelled]

theorem part_setTokens {b : Backend} (assignments : List Assignment) :
    b.dialect.Part (setTokens ⟨b.dialect, assignments⟩) := by
  apply Backend.part_list
  intro part member
  obtain ⟨a, _, rfl⟩ := List.mem_map.mp member
  exact WrittenValue.part_setTokens a.column _

theorem part_selectTokens {b : Backend} (assignments : List Assignment) :
    b.dialect.Part (selectTokens ⟨b.dialect, assignments⟩) := by
  apply Backend.part_list
  intro part member
  obtain ⟨a, _, rfl⟩ := List.mem_map.mp member
  exact WrittenValue.part_tokens _

theorem readAssignments_setTokens {d : Dialect} {assignments : List Assignment}
    (filled : assignments ≠ []) {rest : List Token} (ends : WrittenValue.Ends rest)
    (stops : WrittenValue.readSign rest = none) (last : Written.strip ", " rest = none)
    (closeness : ArithmeticOp → Nat) :
    WrittenValue.readAssignments closeness (setTokens ⟨d, assignments⟩ ++ rest).length
        (setTokens ⟨d, assignments⟩ ++ rest) =
      some (assignments.map (Assignment.normal d), rest) := by
  let pairs := assignments.map fun a => (a.column, a.written d)
  have listed : setTokens ⟨d, assignments⟩ = List.intercalate (Written.text ", ")
      (pairs.map fun p => WrittenValue.setTokens p.1 p.2) := by
    rw [List.map_map]
    rfl
  have fits : ∀ p ∈ pairs, p.2.Fits := by
    intro p member
    obtain ⟨a, _, rfl⟩ := List.mem_map.mp member
    exact AssignedValue.fits_written a.value
  have some : pairs ≠ [] := mt List.map_eq_nil_iff.mp filled
  have values : pairs.map (fun p => (p.1, p.2.value)) =
      assignments.map (Assignment.normal d) := by
    rw [List.map_map]
    apply List.map_congr_left
    intro a _
    exact congrArg (Prod.mk a.column) (AssignedValue.value_written a.value)
  rw [listed, WrittenValue.readAssignments_list some fits ends stops last, values]
  rw [List.length_append]
  exact Nat.le_trans (WrittenValue.length_le_list pairs) (Nat.le_add_right _ _)

end AssignmentSet

namespace Dialect

def readSetClause? (d : Dialect) (closeness : ArithmeticOp → Nat) (s : Statement) :
    Option (List (String × AssignedValue)) := do
  let tokens ← d.readStatement s
  match WrittenValue.readAssignments closeness tokens.length tokens with
  | some (assignments, []) => some assignments
  | _ => none

end Dialect

namespace AssignmentSet

/-- The text and the parameters of a mutation's `SET` clause determine the assigned columns in
order, each with the tree of its value. -/
theorem setClause_readable (b : Backend) {m : Mapping} {change : Mutation}
    {assignments : List Assignment} (compiled : Assignment.ofMutation m change = .ok assignments)
    (closeness : ArithmeticOp → Nat) :
    b.dialect.readSetClause? closeness
        (b.dialect.render (setClause ⟨b.dialect, assignments⟩)) =
      some (assignments.map (Assignment.normal b.dialect)) := by
  obtain ⟨writes, collected⟩ := Assignment.ofMutation_eq_ok compiled
  obtain ⟨filled, -⟩ := Assignment.collect_eq_ok collected
  have tokens : b.dialect.readStatement (b.dialect.render (setClause ⟨b.dialect, assignments⟩)) =
      some (setTokens ⟨b.dialect, assignments⟩) :=
    Dialect.readStatement_render (Dialect.clear b).markers (stream_setClause (Dialect.spelled b))
      (part_setTokens assignments).legible
  have reads := readAssignments_setTokens (d := b.dialect) filled WrittenValue.ends_nil rfl rfl
    closeness
  rw [List.append_nil] at reads
  rw [Dialect.readSetClause?, tokens, Option.bind_eq_bind, Option.bind_some, reads]

def trickyColumns : Mapping :=
  ⟨⟨none, "t", [⟨"a", "a\x60 = ?, CONCAT(", .text, false⟩, ⟨"b", "b, \x60 - -1", .integer, false⟩]⟩,
    by decide⟩

/-- Parentheses in the text group the operands, also where addition binds closer than anything. -/
theorem setClause_readable_nested :
    let product := Expr.binary (.binary (.field "b") .sub (.literal (.integer (-7)))) .mul
      (.binary (.literal (.bool true)) .add (.literal (.real .zero)))
    let change := Mutation.projection ⟨[("b", product),
      ("a", .binary (.field "a") .add (.binary (.param (.text "x")) .concat (.literal .null)))]⟩
    let assignments : List Assignment :=
      [⟨"a", "a\x60 = ?, CONCAT(",
        .derived .concat (.binary (.param (.text "x")) .concat (.literal .null))⟩,
       ⟨"b", "b, \x60 - -1",
        .binary (.binary (.column "b, \x60 - -1") .sub (.literal (.integer (-7)))) .mul
          (.binary (.literal (.bool true)) .add (.literal (.real .zero)))⟩]
    let closeness := fun op => if op = .add then 2 else 1
    Assignment.ofMutation trickyColumns change = .ok assignments ∧
      Backend.mySql.dialect.readSetClause? closeness
          (Backend.mySql.dialect.render (setClause ⟨Backend.mySql.dialect, assignments⟩)) =
        some (assignments.map (Assignment.normal Backend.mySql.dialect)) := by
  intro product change assignments closeness
  have compiled : Assignment.ofMutation trickyColumns change = .ok assignments := rfl
  exact ⟨compiled, setClause_readable .mySql compiled closeness⟩

end AssignmentSet

end BulkDml
