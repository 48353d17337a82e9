import BulkDml.Proofs.Assignment.Reading
import BulkDml.Proofs.Assignment.Typing

namespace BulkDml

namespace AssignedValue

def isText (m : Mapping) : AssignedValue → Bool
  | literal (.text _) => true
  | param (.text _) => true
  | column name => m.columns.any fun c => c.name == name && c.type == .text
  | derived op _ => op == .concat
  | binary _ op _ => op == .concat
  | _ => false

def hasText (m : Mapping) (x : AssignedValue × ArithmeticOp × AssignedValue) : Bool :=
  x.1.isText m || x.2.2.isText m

def operations (own : String) : AssignedValue → List (AssignedValue × ArithmeticOp × AssignedValue)
  | derived op operand => (column own, op, operand) :: operand.operations own
  | binary left op right => (left, op, right) :: (left.operations own ++ right.operations own)
  | _ => []

end AssignedValue

/-- The operation that a backend does for an operator that it reads. Where concatenation has no sign
of its own, `+` concatenates if an operand is text, and adds if not. -/
def Dialect.operationOf (d : Dialect) (op : ArithmeticOp) (textual : Bool) : ArithmeticOp :=
  if d.concatenation = .between "+" ∧ op = .add ∧ textual then .concat else op

namespace AssignedValue

def computed (d : Dialect) (m : Mapping) : AssignedValue → AssignedValue
  | binary left op right =>
    let l := left.computed d m
    let r := right.computed d m
    binary l (d.operationOf op (hasText m (l, op, r))) r
  | v => v

/-- A value as its text would tell it if every operator had a sign of its own. -/
def meant (d : Dialect) (own : String) : AssignedValue → AssignedValue
  | literal v => normalLiteral d v
  | param v => param v
  | column name => column name
  | derived op operand => binary (column own) op (operand.meant d own)
  | binary left op right => binary (left.meant d own) op (right.meant d own)

variable {d : Dialect} {m : Mapping} {own : String}

theorem isText_normalLiteral (v : Value) :
    (normalLiteral d v).isText m = (literal v).isText m := by
  cases v with
  | bool b =>
    change (if d.WritesDigits then _ else _ : AssignedValue).isText m = false
    split <;> rfl
  | _ => rfl

theorem isText_meant (v : AssignedValue) : (v.meant d own).isText m = v.isText m := by
  cases v with
  | literal v => exact isText_normalLiteral v
  | _ => rfl

theorem computed_normalLiteral (v : Value) :
    (normalLiteral d v).computed d m = normalLiteral d v := by
  cases v with
  | bool b =>
    change (if d.WritesDigits then _ else _ : AssignedValue).computed d m =
      if d.WritesDigits then _ else _
    split <;> rfl
  | _ => rfl

structure Told (m : Mapping) (x : AssignedValue × ArithmeticOp × AssignedValue) : Prop where
  addition : x.2.1 = .add → hasText m x = false
  concatenation : x.2.1 = .concat → hasText m x = true

theorem operationOf_readOp_iff (op : ArithmeticOp) (left right : AssignedValue) :
    d.operationOf (d.readOp op) (hasText m (left, op, right)) = op ↔
      (d.concatenation = .between "+" → Told m (left, op, right)) := by
  have told : Told m (left, op, right) ↔
      (op = .add → hasText m (left, op, right) = false) ∧
        (op = .concat → hasText m (left, op, right) = true) :=
    ⟨fun t => ⟨t.addition, t.concatenation⟩, fun t => ⟨t.1, t.2⟩⟩
  rw [told]
  generalize hasText m (left, op, right) = textual
  by_cases plus : d.concatenation = .between "+"
  · cases op <;> simp [Dialect.operationOf, Dialect.readOp, plus]
  · cases op <;> simp [Dialect.operationOf, Dialect.readOp, plus]

def ComputedAsTold (d : Dialect) (m : Mapping) (own : String) (v : AssignedValue) : Prop :=
  (v.normal d own).computed d m = v.meant d own ↔
    (d.concatenation = .between "+" → ∀ x ∈ v.operations own, Told m x)

theorem computedAsTold_binary (op : ArithmeticOp) {left right : AssignedValue}
    (first : ComputedAsTold d m own left) (second : ComputedAsTold d m own right) :
    ComputedAsTold d m own (binary left op right) := by
  have texts : hasText m (left.meant d own, d.readOp op, right.meant d own) =
      hasText m (left, op, right) := by
    simp only [hasText, isText_meant]
  have operator := operationOf_readOp_iff (d := d) (m := m) op left right
  rw [← texts] at operator
  constructor
  · intro same plus x member
    obtain ⟨leftSame, opSame, rightSame⟩ := AssignedValue.binary.inj same
    rw [leftSame, rightSame] at opSame
    rcases List.mem_cons.mp member with rfl | member
    · exact operator.mp opSame plus
    · rcases List.mem_append.mp member with member | member
      · exact first.mp leftSame plus x member
      · exact second.mp rightSame plus x member
  · intro told
    have leftSame := first.mpr fun plus x member =>
      told plus x (List.mem_cons_of_mem _ (List.mem_append_left _ member))
    have rightSame := second.mpr fun plus x member =>
      told plus x (List.mem_cons_of_mem _ (List.mem_append_right _ member))
    have opSame := operator.mpr fun plus => told plus _ List.mem_cons_self
    simp only [normal, computed, meant, leftSame, rightSame, opSame]

theorem computedAsTold (v : AssignedValue) : ComputedAsTold d m own v := by
  induction v with
  | literal v => exact iff_of_true (computed_normalLiteral v) fun _ => List.forall_mem_nil _
  | param v => exact iff_of_true rfl fun _ => List.forall_mem_nil _
  | column name => exact iff_of_true rfl fun _ => List.forall_mem_nil _
  | derived op operand ih =>
    have first : ComputedAsTold d m own (column own) :=
      iff_of_true rfl fun _ => List.forall_mem_nil _
    exact computedAsTold_binary op first ih
  | binary left op right ihLeft ihRight => exact computedAsTold_binary op ihLeft ihRight

end AssignedValue

namespace Expr

open AssignedValue (hasText)

/-- An explicit concatenation has no text among its operands. -/
def JoinsWithoutText (m : Mapping) (e : Expr) : Prop :=
  ∃ x ∈ e.operations, x.2.1 = .concat ∧ ¬ x.1.Textual m ∧ ¬ x.2.2.Textual m

variable {m : Mapping} {e left right : Expr} {op : ArithmeticOp} {v l r : AssignedValue}

theorem joinsWithoutText_binary : (binary left op right).JoinsWithoutText m ↔
    (op = .concat ∧ ¬ left.Textual m ∧ ¬ right.Textual m) ∨
      left.JoinsWithoutText m ∨ right.JoinsWithoutText m := by
  simp [JoinsWithoutText, operations, or_and_right, exists_or]

theorem textual_field {c : Column} (member : c ∈ m.columns) :
    (field c.field).Textual m ↔ c.type = .text := by
  constructor
  · rintro ⟨other, among, named, text⟩
    obtain rfl : other = c := Mapping.eq_of_field among member named
    exact text
  · exact fun text => ⟨c, member, rfl, text⟩

theorem isText_column {c : Column} (member : c ∈ m.columns) :
    (AssignedValue.column c.name).isText m = true ↔ c.type = .text := by
  simp only [AssignedValue.isText, List.any_eq_true, Bool.and_eq_true, beq_iff_eq]
  constructor
  · rintro ⟨other, among, named, text⟩
    obtain rfl : other = c := Mapping.eq_of_name among member named
    exact text
  · exact fun text => ⟨c, member, rfl, text⟩

theorem isText_of_lowered (lowered : e.Lowered m v) : v.isText m = true ↔ e.Textual m := by
  cases lowered with
  | literal v => cases v <;> simp [AssignedValue.isText, Textual]
  | param v => cases v <;> simp [AssignedValue.isText, Textual]
  | field member => rw [isText_column member, textual_field member]
  | concatenation text => exact iff_of_true rfl (textual_binary.mpr (.inr ⟨rfl, text⟩))
  | @operation _ _ op _ _ other =>
    rw [textual_binary, AssignedValue.isText, beq_iff_eq]
    refine (or_iff_left ?_).symm
    rintro ⟨add, text⟩
    exact text.elim (other add).1 (other add).2

theorem hasText_of_lowered (op : ArithmeticOp) (first : left.Lowered m l)
    (second : right.Lowered m r) :
    hasText m (l, op, r) = true ↔ left.Textual m ∨ right.Textual m := by
  rw [hasText, Bool.or_eq_true, isText_of_lowered first, isText_of_lowered second]

/-- What is left of the sums has no text in it. -/
theorem additions_of_lowered (own : String) (lowered : e.Lowered m v) :
    ∀ x ∈ v.operations own, x.2.1 = .add → hasText m x = false := by
  induction lowered with
  | literal v => exact List.forall_mem_nil _
  | param v => exact List.forall_mem_nil _
  | field member => exact List.forall_mem_nil _
  | concatenation text first second ihLeft ihRight =>
    refine List.forall_mem_cons.mpr ⟨nofun, ?_⟩
    exact List.forall_mem_append.mpr ⟨ihLeft, ihRight⟩
  | operation other first second ihLeft ihRight =>
    refine List.forall_mem_cons.mpr ⟨fun add => ?_, List.forall_mem_append.mpr ⟨ihLeft, ihRight⟩⟩
    rw [← Bool.not_eq_true, hasText_of_lowered _ first second, not_or]
    exact other add

theorem concatenations_of_lowered (own : String) (lowered : e.Lowered m v) :
    (∀ x ∈ v.operations own, x.2.1 = .concat → hasText m x = true) ↔
      ¬ e.JoinsWithoutText m := by
  induction lowered with
  | literal v => exact iff_of_true (List.forall_mem_nil _) (by simp [JoinsWithoutText, operations])
  | param v => exact iff_of_true (List.forall_mem_nil _) (by simp [JoinsWithoutText, operations])
  | field member =>
    exact iff_of_true (List.forall_mem_nil _) (by simp [JoinsWithoutText, operations])
  | concatenation text first second ihLeft ihRight =>
    have here := (hasText_of_lowered .concat first second).mpr text
    rw [joinsWithoutText_binary, AssignedValue.operations, List.forall_mem_cons,
      List.forall_mem_append, ihLeft, ihRight]
    simp [here]
  | operation other first second ihLeft ihRight =>
    rw [joinsWithoutText_binary, AssignedValue.operations, List.forall_mem_cons,
      List.forall_mem_append, ihLeft, ihRight, hasText_of_lowered _ first second]
    tauto

end Expr

def Dialect.readValue? (d : Dialect) (closeness : ArithmeticOp → Nat) (s : Statement) :
    Option AssignedValue :=
  (d.readStatement s).bind fun tokens =>
    (WrittenValue.read closeness (tokens.length + 1) tokens).bind fun (t, rest) =>
      if rest.isEmpty then some t.value else none

namespace Assignment

theorem readValue?_render (b : Backend) (a : Assignment) (closeness : ArithmeticOp → Nat) :
    b.dialect.readValue? closeness (b.dialect.render (a.valueFragment b.dialect)) =
      some (a.value.normal b.dialect a.column) := by
  have tokens : b.dialect.readStatement (b.dialect.render (a.valueFragment b.dialect)) =
      some (a.written b.dialect).tokens :=
    Dialect.readStatement_render (Dialect.clear b).markers
      (AssignmentSet.stream_valueFragment (Dialect.spelled b) a)
      (WrittenValue.part_tokens _).legible
  have fits : (a.written b.dialect).Fits := AssignedValue.fits_written a.value
  have reads : WrittenValue.read closeness _ _ = _ :=
    WrittenValue.read_tokens fits WrittenValue.ends_nil rfl (Nat.lt_succ_self _)
  rw [List.append_nil] at reads
  rw [Dialect.readValue?, tokens, Option.bind_some, reads, Option.bind_some]
  exact congrArg some (AssignedValue.value_written a.value)

/-- What the sums and concatenations of an assigned value are, where `e` is the last expression for
the field. -/
structure Concatenates (b : Backend) (m : Mapping) (a : Assignment) (e : Expr) : Prop where
  additions : ∀ x ∈ a.value.operations a.column, x.2.1 = .add →
    AssignedValue.hasText m x = false
  concatenations : (∀ x ∈ a.value.operations a.column, x.2.1 = .concat →
    AssignedValue.hasText m x = true) ↔ ¬ e.JoinsWithoutText m
  /-- What the backend computes for the text is what was compiled. -/
  computed : ∀ closeness : ArithmeticOp → Nat,
    (b.dialect.readValue? closeness (b.dialect.render (a.valueFragment b.dialect))).map
        (·.computed b.dialect m) = some (a.value.meant b.dialect a.column) ↔
      (b = .sqlServer → ¬ e.JoinsWithoutText m)

variable {m : Mapping} {a : Assignment} {e : Expr}

theorem operations_expanded (own : String) (v : AssignedValue) :
    (v.expanded own).operations own = v.operations own := by
  cases v <;> rfl

theorem concatenates_of_lowered (b : Backend) (lowered : e.Lowered m (a.value.expanded a.column)) :
    a.Concatenates b m e := by
  have additions := Expr.additions_of_lowered a.column lowered
  have concatenations := Expr.concatenations_of_lowered a.column lowered
  rw [operations_expanded] at additions concatenations
  refine ⟨additions, concatenations, fun closeness => ?_⟩
  have plus : b.dialect.concatenation = .between "+" ↔ b = .sqlServer := by cases b <;> decide
  have told : (∀ x ∈ a.value.operations a.column, AssignedValue.Told m x) ↔
      ¬ e.JoinsWithoutText m := by
    rw [← concatenations]
    exact ⟨fun told x member => (told x member).concatenation,
      fun texts x member => ⟨additions x member, texts x member⟩⟩
  have law : AssignedValue.ComputedAsTold b.dialect m a.column a.value := a.value.computedAsTold
  rw [AssignedValue.ComputedAsTold, plus, told] at law
  rw [readValue?_render, Option.map_some, Option.some.injEq, law]

end Assignment

namespace Projection

/-- Every sum is one of numbers, and every concatenation has text in it unless the caller joins
operands without text; and so the text of every value means what was compiled, where a backend that
writes both alike needs that text to tell them apart. -/
theorem concatenates (b : Backend) (m : Mapping) (p : Projection) :
    (∀ assignments, Assignment.ofMutation m (.projection p) = .ok assignments →
      ∀ a ∈ assignments, ∃ e, Latest p.assignments a.field e ∧ a.Concatenates b m e) ∧
    ∀ target assignments, Assignment.ofTransfer m target p = .ok assignments →
      ∀ a ∈ assignments, ∃ e, Latest p.assignments a.field e ∧ a.Concatenates b m e := by
  constructor
  · intro assignments compiled a member
    have transferred : Assignment.ofTransfer m m p =
        .ok (assignments.map Assignment.expanded) := by
      rw [Assignment.ofTransfer_self, compiled]
      rfl
    obtain ⟨e, latest, lowered⟩ :=
      Assignment.ofTransfer_lowered transferred (List.mem_map_of_mem member)
    exact ⟨e, latest, Assignment.concatenates_of_lowered b lowered⟩
  · intro target assignments compiled a member
    obtain ⟨e, latest, lowered⟩ := Assignment.ofTransfer_lowered compiled member
    have free := Assignment.derivedFree_ofTransfer compiled a member
    rw [← AssignedValue.expanded_of_derivedFree free a.column] at lowered
    exact ⟨e, latest, Assignment.concatenates_of_lowered b lowered⟩

/-- The outer operation joins texts and the inner one adds numbers; both are written `+`. -/
theorem concatenates_numbered :
    let title := Expr.binary (.field "title") .add
      (.binary (.binary (.field "id") .add (.literal (.integer 1))) .concat (.param (.text "!")))
    let a : Assignment := ⟨"title", "Title", .derived .concat (.binary
      (.binary (.column "Id") .add (.literal (.integer 1))) .concat (.param (.text "!")))⟩
    let d := Backend.sqlServer.dialect
    Assignment.ofMutation pages (.projection ⟨[("title", title)]⟩) = .ok [a] ∧
      d.render (a.valueFragment d) = ⟨"[Title] + (([Id] + 1) + @p0)", [.text "!"]⟩ ∧
      (d.readValue? (fun _ => 0) (d.render (a.valueFragment d))).map (·.computed d pages) =
        some (a.value.meant d a.column) := by
  intro title a d
  have compiled : Assignment.ofMutation pages (.projection ⟨[("title", title)]⟩) = .ok [a] := rfl
  obtain ⟨e, latest, law⟩ :=
    (concatenates .sqlServer pages ⟨[("title", title)]⟩).1 [a] compiled a List.mem_cons_self
  obtain rfl : e = title := latest.unique ⟨[], [], rfl, nofun⟩
  refine ⟨compiled, by decide, (law.computed _).mpr fun _ => ?_⟩
  rw [← law.concatenations]
  decide

/-- A number that is joined to a number is added to it where concatenation is written `+`: the text
is that of the sum. -/
theorem concatenates_countsNumbers :
    let joined : Projection := ⟨[("id", .binary (.field "id") .concat (.param (.integer 1)))]⟩
    let summed : Projection := ⟨[("id", .binary (.field "id") .add (.param (.integer 1)))]⟩
    let a : Assignment := ⟨"id", "Id", .derived .concat (.param (.integer 1))⟩
    let a' : Assignment := ⟨"id", "Id", .derived .add (.param (.integer 1))⟩
    let d := Backend.sqlServer.dialect
    Assignment.ofMutation pages (.projection joined) = .ok [a] ∧
      Assignment.ofMutation pages (.projection summed) = .ok [a'] ∧
      (∃ x ∈ a.value.operations a.column, x.2.1 = .concat ∧
        AssignedValue.hasText pages x = false) ∧
      d.render (a.valueFragment d) = ⟨"[Id] + @p0", [.integer 1]⟩ ∧
      d.render (a'.valueFragment d) = ⟨"[Id] + @p0", [.integer 1]⟩ := by
  intro joined summed a a' d
  refine ⟨rfl, rfl, ⟨(.column "Id", .concat, .param (.integer 1)), List.mem_cons_self, rfl, ?_⟩,
    by decide, by decide⟩
  decide

end Projection

end BulkDml
