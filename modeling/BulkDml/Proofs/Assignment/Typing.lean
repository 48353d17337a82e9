import BulkDml.Proofs.Assignment.Derived

namespace BulkDml

def ArithmeticOp.takesText : ArithmeticOp → Bool
  | add => true
  | concat => true
  | _ => false

theorem ArithmeticOp.onOperands_eq_ok {textual : Bool} {op resolved : ArithmeticOp}
    (ok : op.onOperands textual = .ok resolved) :
    (op.takesText = false → textual = false) ∧
      resolved = if op = .add ∧ textual then .concat else op := by
  cases op with
  | concat =>
    cases ok
    exact ⟨nofun, rfl⟩
  | add =>
    cases ok
    cases textual <;> exact ⟨nofun, rfl⟩
  | _ =>
    cases textual with
    | true => cases ok
    | false =>
      cases ok
      exact ⟨fun _ => rfl, rfl⟩

theorem ArithmeticOp.onOperands_eq_error {textual : Bool} {op : ArithmeticOp} {e : Error}
    (failed : op.onOperands textual = .error e) :
    op.takesText = false ∧ textual = true ∧ e = .textArithmetic op.sql := by
  cases op with
  | concat => cases failed
  | add => cases failed
  | _ =>
    cases textual with
    | true =>
      cases failed
      exact ⟨rfl, rfl, rfl⟩
    | false => cases failed

namespace Expr

def Textual (m : Mapping) : Expr → Prop
  | literal v => ∃ s, v = .text s
  | param v => ∃ s, v = .text s
  | field name => ∃ c ∈ m.columns, c.field = name ∧ c.type = .text
  | binary _ .concat _ => True
  | binary left .add right => left.Textual m ∨ right.Textual m
  | binary _ _ _ => False

def fields : Expr → List String
  | field name => [name]
  | binary left _ right => left.fields ++ right.fields
  | _ => []

def operations : Expr → List (Expr × ArithmeticOp × Expr)
  | binary left op right => (left, op, right) :: (left.operations ++ right.operations)
  | _ => []

structure WellTyped (m : Mapping) (e : Expr) : Prop where
  mapped : ∀ name ∈ e.fields, ∃ c ∈ m.columns, c.field = name
  numeric : ∀ operation ∈ e.operations, operation.2.1.takesText = false →
    ¬ operation.1.Textual m ∧ ¬ operation.2.2.Textual m

inductive Lowered (m : Mapping) : Expr → AssignedValue → Prop where
  | literal (v : Value) : Lowered m (.literal v) (.literal v)
  | param (v : Value) : Lowered m (.param v) (.param v)
  | field {c : Column} (member : c ∈ m.columns) : Lowered m (.field c.field) (.column c.name)
  | concatenation {left right : Expr} {l r : AssignedValue}
      (text : left.Textual m ∨ right.Textual m) (first : Lowered m left l)
      (second : Lowered m right r) :
      Lowered m (.binary left .add right) (.binary l .concat r)
  | operation {left right : Expr} {op : ArithmeticOp} {l r : AssignedValue}
      (other : op = .add → ¬ left.Textual m ∧ ¬ right.Textual m) (first : Lowered m left l)
      (second : Lowered m right r) :
      Lowered m (.binary left op right) (.binary l op r)

inductive Fault (m : Mapping) (e : Expr) : Error → Prop where
  | unmapped {name : String} (read : name ∈ e.fields) (absent : ∀ c ∈ m.columns, c.field ≠ name) :
      Fault m e (.unmappedField name m.table)
  | arithmetic {operation : Expr × ArithmeticOp × Expr} (done : operation ∈ e.operations)
      (numeric : operation.2.1.takesText = false)
      (text : operation.1.Textual m ∨ operation.2.2.Textual m) :
      Fault m e (.textArithmetic operation.2.1.sql)

variable {m : Mapping} {left right : Expr} {op : ArithmeticOp}

theorem WellTyped.binary (first : left.WellTyped m) (second : right.WellTyped m)
    (numeric : op.takesText = false → ¬ left.Textual m ∧ ¬ right.Textual m) :
    (Expr.binary left op right).WellTyped m where
  mapped name read := by
    rcases List.mem_append.mp read with read | read
    · exact first.mapped name read
    · exact second.mapped name read
  numeric operation done := by
    rcases List.mem_cons.mp done with rfl | done
    · exact numeric
    · rcases List.mem_append.mp done with done | done
      · exact first.numeric operation done
      · exact second.numeric operation done

theorem Fault.not_wellTyped {e : Expr} {err : Error} (fault : Fault m e err) : ¬ e.WellTyped m := by
  intro typed
  cases fault with
  | unmapped read absent =>
    obtain ⟨c, member, named⟩ := typed.mapped _ read
    exact absent c member named
  | arithmetic done numeric text =>
    obtain ⟨first, second⟩ := typed.numeric _ done numeric
    exact text.elim first second

theorem Fault.ofLeft {err : Error} (fault : Fault m left err) :
    Fault m (binary left op right) err := by
  cases fault with
  | unmapped read absent => exact .unmapped (List.mem_append_left _ read) absent
  | arithmetic done numeric text =>
    exact .arithmetic (List.mem_cons_of_mem _ (List.mem_append_left _ done)) numeric text

theorem Fault.ofRight {err : Error} (fault : Fault m right err) :
    Fault m (binary left op right) err := by
  cases fault with
  | unmapped read absent => exact .unmapped (List.mem_append_right _ read) absent
  | arithmetic done numeric text =>
    exact .arithmetic (List.mem_cons_of_mem _ (List.mem_append_right _ done)) numeric text

theorem Fault.here {err : Error} {textual : Bool} (failed : op.onOperands textual = .error err)
    (text : textual = true → left.Textual m ∨ right.Textual m) :
    Fault m (binary left op right) err := by
  obtain ⟨numeric, operand, rfl⟩ := ArithmeticOp.onOperands_eq_error failed
  have done : (left, op, right) ∈ (binary left op right).operations := List.mem_cons_self
  exact .arithmetic done numeric (text operand)

theorem Fault.unsupported {e : Expr} {err : Error} (fault : Fault m e err) :
    ∃ what, err = .unsupportedExpression what := by
  cases fault with
  | unmapped => exact ⟨_, rfl⟩
  | arithmetic => exact ⟨_, rfl⟩

theorem ofValue?_eq_text_iff {v : Value} :
    ColumnType.ofValue? v = some .text ↔ ∃ s, v = .text s := by
  cases v <;> simp [ColumnType.ofValue?]

theorem textual_binary : (binary left op right).Textual m ↔
    op = .concat ∨ op = .add ∧ (left.Textual m ∨ right.Textual m) := by
  cases op <;> simp [Textual]

/-- The type that is found is text exactly for text, also where the right operand was not looked
at. -/
theorem type?_eq_ok {e : Expr} {t : Option ColumnType} (ok : e.type? m = .ok t) :
    t = some .text ↔ e.Textual m := by
  induction e generalizing t with
  | literal v =>
    cases ok
    exact ofValue?_eq_text_iff
  | param v =>
    cases ok
    exact ofValue?_eq_text_iff
  | field name =>
    obtain ⟨c, resolved, done⟩ := bind_eq_ok_iff.mp ok
    cases done
    obtain ⟨member, rfl⟩ := m.resolveColumn_eq_ok_iff.mp resolved
    constructor
    · intro text
      exact ⟨c, member, rfl, Option.some.inj text⟩
    · rintro ⟨other, among, named, text⟩
      obtain rfl : other = c := Mapping.eq_of_field among member named
      exact congrArg some text
  | binary left op right ihLeft ihRight =>
    rw [textual_binary]
    obtain ⟨leftType, found, rest⟩ := bind_eq_ok_iff.mp ok
    split at rest
    · next text =>
      obtain ⟨resolved, operator, done⟩ := bind_eq_ok_iff.mp rest
      cases done
      have takes := (ArithmeticOp.onOperands_eq_ok operator).1
      refine iff_of_true rfl ?_
      cases op with
      | concat => exact .inl rfl
      | add => exact .inr ⟨rfl, .inl ((ihLeft found).mp text)⟩
      | _ => cases takes rfl
    · next other =>
      obtain ⟨rightType, found', rest⟩ := bind_eq_ok_iff.mp rest
      obtain ⟨resolved, operator, done⟩ := bind_eq_ok_iff.mp rest
      cases done
      obtain ⟨takes, rfl⟩ := ArithmeticOp.onOperands_eq_ok operator
      have onLeft : ¬ left.Textual m := fun text => other ((ihLeft found).mpr text)
      by_cases text : rightType = some .text
      · have onRight : right.Textual m := (ihRight found').mp text
        cases op with
        | concat => simp
        | add => simp [text, onRight]
        | _ => simp [ArithmeticOp.takesText, text] at takes
      · have onRight : ¬ right.Textual m := fun textual => text ((ihRight found').mpr textual)
        have neither : leftType.or rightType ≠ some .text := by cases leftType <;> simp_all
        cases op <;> simp [text, onLeft, onRight, neither]

theorem textual_of_eitherText {textual : Bool} (ok : eitherText m left right = .ok textual) :
    textual = true ↔ left.Textual m ∨ right.Textual m := by
  obtain ⟨leftType, found, rest⟩ := bind_eq_ok_iff.mp ok
  split at rest
  · next text =>
    cases rest
    exact iff_of_true rfl (.inl ((type?_eq_ok found).mp text))
  · next other =>
    obtain ⟨rightType, found', done⟩ := bind_eq_ok_iff.mp rest
    cases done
    rw [decide_eq_true_eq, type?_eq_ok found']
    exact (or_iff_right fun text => other ((type?_eq_ok found).mpr text)).symm

theorem type?_fault {e : Expr} {err : Error} (failed : e.type? m = .error err) :
    Fault m e err := by
  induction e with
  | literal v => cases failed
  | param v => cases failed
  | field name =>
    rcases bind_eq_error_iff.mp failed with unmapped | ⟨c, -, done⟩
    · obtain ⟨rfl, absent⟩ := m.resolveColumn_eq_error_iff.mp unmapped
      exact .unmapped List.mem_cons_self absent
    · cases done
  | binary left op right ihLeft ihRight =>
    rcases bind_eq_error_iff.mp failed with first | ⟨leftType, found, rest⟩
    · exact (ihLeft first).ofLeft
    split at rest
    · next text =>
      rcases bind_eq_error_iff.mp rest with operator | ⟨resolved, -, done⟩
      · exact .here operator fun _ => .inl ((type?_eq_ok found).mp text)
      · cases done
    · rcases bind_eq_error_iff.mp rest with second | ⟨rightType, found', rest⟩
      · exact (ihRight second).ofRight
      rcases bind_eq_error_iff.mp rest with operator | ⟨resolved, -, done⟩
      · refine .here operator fun text => .inr ((type?_eq_ok found').mp ?_)
        simpa using text
      · cases done

theorem resolveOp_fault {err : Error} (failed : resolveOp m op left right = .error err) :
    Fault m (binary left op right) err := by
  rcases bind_eq_error_iff.mp failed with either | ⟨textual, either, operator⟩
  · rcases bind_eq_error_iff.mp either with first | ⟨leftType, -, rest⟩
    · exact (type?_fault first).ofLeft
    · split at rest
      · cases rest
      · rcases bind_eq_error_iff.mp rest with second | ⟨rightType, -, done⟩
        · exact (type?_fault second).ofRight
        · cases done
  · exact .here operator (textual_of_eitherText either).mp

theorem resolveOp_eq_ok {resolved : ArithmeticOp} (ok : resolveOp m op left right = .ok resolved) :
    (op.takesText = false → ¬ left.Textual m ∧ ¬ right.Textual m) ∧
      (op = .add ∧ (left.Textual m ∨ right.Textual m) ∧ resolved = .concat ∨
        (op = .add → ¬ left.Textual m ∧ ¬ right.Textual m) ∧ resolved = op) := by
  obtain ⟨textual, either, operator⟩ := bind_eq_ok_iff.mp ok
  obtain ⟨takes, rfl⟩ := ArithmeticOp.onOperands_eq_ok operator
  have rule := textual_of_eitherText either
  cases textual with
  | true =>
    have text := rule.mp rfl
    refine ⟨fun numeric => absurd (takes numeric) (by simp), ?_⟩
    by_cases add : op = .add
    · exact .inl ⟨add, text, by simp [add]⟩
    · exact .inr ⟨fun same => absurd same add, by simp [add]⟩
  | false =>
    have neither : ¬ left.Textual m ∧ ¬ right.Textual m := by
      rw [← not_or, ← rule]
      exact Bool.false_ne_true
    exact ⟨fun _ => neither, .inr ⟨fun _ => neither, by simp⟩⟩

end Expr

namespace AssignedValue

variable {m : Mapping}

theorem ofExpr_fault {e : Expr} {err : Error} (failed : ofExpr m e = .error err) :
    e.Fault m err := by
  induction e with
  | literal v => cases failed
  | param v => cases failed
  | field name =>
    rcases bind_eq_error_iff.mp failed with unmapped | ⟨c, -, done⟩
    · obtain ⟨rfl, absent⟩ := m.resolveColumn_eq_error_iff.mp unmapped
      exact .unmapped List.mem_cons_self absent
    · cases done
  | binary left op right ihLeft ihRight =>
    rcases bind_eq_error_iff.mp failed with operator | ⟨resolved, -, rest⟩
    · exact Expr.resolveOp_fault operator
    rcases bind_eq_error_iff.mp rest with first | ⟨l, -, rest⟩
    · exact (ihLeft first).ofLeft
    rcases bind_eq_error_iff.mp rest with second | ⟨r, -, done⟩
    · exact (ihRight second).ofRight
    · cases done

theorem ofExpr_lowered {e : Expr} {v : AssignedValue} (compiled : ofExpr m e = .ok v) :
    e.WellTyped m ∧ e.Lowered m v := by
  induction e generalizing v with
  | literal w =>
    cases compiled
    exact ⟨⟨by simp [Expr.fields], by simp [Expr.operations]⟩, .literal w⟩
  | param w =>
    cases compiled
    exact ⟨⟨by simp [Expr.fields], by simp [Expr.operations]⟩, .param w⟩
  | field name =>
    obtain ⟨c, resolved, done⟩ := bind_eq_ok_iff.mp compiled
    cases done
    obtain ⟨member, rfl⟩ := m.resolveColumn_eq_ok_iff.mp resolved
    refine ⟨⟨fun name read => ?_, by simp [Expr.operations]⟩, .field member⟩
    obtain rfl := List.mem_singleton.mp read
    exact ⟨c, member, rfl⟩
  | binary left op right ihLeft ihRight =>
    obtain ⟨resolved, operator, rest⟩ := bind_eq_ok_iff.mp compiled
    obtain ⟨l, first, rest⟩ := bind_eq_ok_iff.mp rest
    obtain ⟨r, second, done⟩ := bind_eq_ok_iff.mp rest
    cases done
    obtain ⟨typedLeft, left'⟩ := ihLeft first
    obtain ⟨typedRight, right'⟩ := ihRight second
    obtain ⟨numeric, ⟨rfl, text, rfl⟩ | ⟨other, rfl⟩⟩ := Expr.resolveOp_eq_ok operator
    · exact ⟨typedLeft.binary typedRight numeric, .concatenation text left' right'⟩
    · exact ⟨typedLeft.binary typedRight numeric, .operation other left' right'⟩

end AssignedValue

namespace Assignment

variable {source target : Mapping} {p : Projection} {assignments : List Assignment}

theorem ofTransfer_lowered (compiled : ofTransfer source target p = .ok assignments)
    {a : Assignment} (member : a ∈ assignments) :
    ∃ e, Latest p.assignments a.field e ∧ e.Lowered source a.value := by
  obtain ⟨writes, written, collected⟩ := bind_eq_ok_iff.mp compiled
  rw [transferWrites_eq] at written
  obtain ⟨c, -, same, e, latest, value⟩ := latest_of_collect written collected member
  have named : a.field = c.field := congrArg Assignment.field same
  exact ⟨e, named ▸ latest, (AssignedValue.ofExpr_lowered value).2⟩

theorem ofTransfer_wellTyped (compiled : ofTransfer source target p = .ok assignments) :
    p.assignments ≠ [] ∧ ∀ x ∈ p.assignments,
      (∃ c ∈ target.columns, c.field = x.1) ∧ x.2.WellTyped source := by
  obtain ⟨writes, written, collected⟩ := bind_eq_ok_iff.mp compiled
  constructor
  · obtain ⟨a, member⟩ := List.exists_mem_of_ne_nil assignments (collect_eq_ok collected).1
    obtain ⟨e, latest, -⟩ := ofTransfer_lowered compiled member
    exact List.ne_nil_of_mem latest.mem
  · intro x member
    rw [transferWrites_eq] at written
    obtain ⟨w, -, done⟩ := exists_ok_of_mapM written member
    obtain ⟨-, place, value⟩ := fieldWrite_eq_ok_iff.mp done
    exact ⟨place, (AssignedValue.ofExpr_lowered value).1⟩

theorem ofTransfer_assigns (compiled : ofTransfer source target p = .ok assignments)
    {field : String} {e : Expr} (latest : Latest p.assignments field e) :
    ∃ a ∈ assignments, a.field = field := by
  obtain ⟨writes, written, collected⟩ := bind_eq_ok_iff.mp compiled
  rw [transferWrites_eq] at written
  obtain ⟨w, member, done⟩ := exists_ok_of_mapM written latest.mem
  obtain ⟨named, ⟨c, place, same⟩, -⟩ := fieldWrite_eq_ok_iff.mp done
  have among : c.field ∈ writes.map Prod.fst := by
    rw [same, named]
    exact List.mem_map_of_mem member
  obtain ⟨v, last⟩ := Latest.exists_iff.mpr among
  exact ⟨⟨c.field, c.name, v⟩, (mem_of_collect collected).mpr ⟨c, place, rfl, last⟩, same⟩

theorem ofTransfer_fault {err : Error} (failed : ofTransfer source target p = .error err) :
    (p.assignments = [] ∧ err = .noAssignments target.table) ∨
      ∃ x ∈ p.assignments,
        (err = .unmappedField x.1 target.table ∧ ∀ c ∈ target.columns, c.field ≠ x.1) ∨
          x.2.Fault source err := by
  rcases bind_eq_error_iff.mp failed with refused | ⟨writes, written, uncollected⟩
  · rw [transferWrites_eq] at refused
    obtain ⟨x, member, cause⟩ := exists_error_of_mapM refused
    refine .inr ⟨x, member, ?_⟩
    rcases fieldWrite_eq_error cause with unmapped | uncompiled
    · exact .inl unmapped
    · exact .inr (AssignedValue.ofExpr_fault uncompiled)
  · obtain ⟨rfl, unwritten⟩ := collect_eq_error uncollected
    refine .inl ⟨List.eq_nil_iff_forall_not_mem.mpr fun x member => ?_, rfl⟩
    rw [transferWrites_eq] at written
    obtain ⟨w, inside, done⟩ := exists_ok_of_mapM written member
    obtain ⟨named, ⟨c, place, same⟩, -⟩ := fieldWrite_eq_ok_iff.mp done
    refine unwritten c place ?_
    rw [same, named]
    exact List.mem_map_of_mem inside

end Assignment

structure Expr.CompilesByRule (m : Mapping) (e : Expr) (outcome : Except Error AssignedValue) :
    Prop where
  succeeds_iff : (∃ v, outcome = .ok v) ↔ e.WellTyped m
  lowered : ∀ v, outcome = .ok v → e.Lowered m v
  fault : ∀ err, outcome = .error err → e.Fault m err ∧ ∃ what, err = .unsupportedExpression what

structure Projection.CompilesByRule (source target : Mapping) (p : Projection)
    (outcome : Except Error (List Assignment)) : Prop where
  succeeds_iff : (∃ assignments, outcome = .ok assignments) ↔
    p.assignments ≠ [] ∧ ∀ x ∈ p.assignments,
      (∃ c ∈ target.columns, c.field = x.1) ∧ x.2.WellTyped source
  lowered : ∀ assignments, outcome = .ok assignments → ∀ a ∈ assignments,
    ∃ e, Latest p.assignments a.field e ∧ e.Lowered source a.value
  assigned : ∀ assignments, outcome = .ok assignments → ∀ field e,
    Latest p.assignments field e → ∃ a ∈ assignments, a.field = field
  unsupported : ∀ err, outcome = .error err → p.assignments ≠ [] →
    ∃ what, err = .unsupportedExpression what

theorem Expr.compilesByRule_ofExpr (m : Mapping) (e : Expr) :
    e.CompilesByRule m (AssignedValue.ofExpr m e) where
  succeeds_iff := by
    constructor
    · rintro ⟨v, compiled⟩
      exact (AssignedValue.ofExpr_lowered compiled).1
    · intro typed
      cases compiled : AssignedValue.ofExpr m e with
      | error err => exact absurd typed (AssignedValue.ofExpr_fault compiled).not_wellTyped
      | ok v => exact ⟨v, rfl⟩
  lowered v compiled := (AssignedValue.ofExpr_lowered compiled).2
  fault err failed := by
    have fault := AssignedValue.ofExpr_fault failed
    exact ⟨fault, fault.unsupported⟩

theorem Projection.compilesByRule_ofTransfer (source target : Mapping) (p : Projection) :
    p.CompilesByRule source target (Assignment.ofTransfer source target p) where
  succeeds_iff := by
    constructor
    · rintro ⟨assignments, compiled⟩
      exact Assignment.ofTransfer_wellTyped compiled
    · rintro ⟨some, each⟩
      cases compiled : Assignment.ofTransfer source target p with
      | ok assignments => exact ⟨assignments, rfl⟩
      | error err =>
        rcases Assignment.ofTransfer_fault compiled with ⟨none, -⟩ | ⟨x, member, cause⟩
        · exact absurd none some
        obtain ⟨⟨c, place, named⟩, typed⟩ := each x member
        rcases cause with ⟨-, absent⟩ | fault
        · exact absurd named (absent c place)
        · exact absurd typed fault.not_wellTyped
  lowered assignments compiled a member := Assignment.ofTransfer_lowered compiled member
  assigned assignments compiled field e latest := Assignment.ofTransfer_assigns compiled latest
  unsupported err failed some := by
    rcases Assignment.ofTransfer_fault failed with ⟨none, -⟩ | ⟨x, -, ⟨rfl, -⟩ | fault⟩
    · exact absurd none some
    · exact ⟨_, rfl⟩
    · exact fault.unsupported

/-- Expressions compile by the rule for text, alone and as values of a projection, where the mark of
a derived value stands for the operation on the field's own column. -/
theorem Expr.compile_byRule (m : Mapping) :
    (∀ e : Expr, e.CompilesByRule m (AssignedValue.ofExpr m e)) ∧
    (∀ c ∈ m.columns, ∀ e : Expr, e.CompilesByRule m
      ((AssignedValue.ofOwnExpr m c.field e).map (AssignedValue.expanded c.name))) ∧
    (∀ (target : Mapping) (p : Projection),
      p.CompilesByRule m target (Assignment.ofTransfer m target p)) ∧
    ∀ p : Projection, p.CompilesByRule m m
      ((Assignment.ofMutation m (.projection p)).map (List.map Assignment.expanded)) := by
  refine ⟨Expr.compilesByRule_ofExpr m, ?_, Projection.compilesByRule_ofTransfer m, ?_⟩
  · intro c member e
    rw [AssignedValue.ofOwnExpr_expanded member]
    exact Expr.compilesByRule_ofExpr m e
  · intro p
    rw [← Assignment.ofTransfer_self]
    exact Projection.compilesByRule_ofTransfer m m p

def pages : Mapping :=
  ⟨⟨none, "pages", [⟨"id", "Id", .integer, true⟩, ⟨"title", "Title", .text, false⟩]⟩, by decide⟩

/-- Each addition has the title in one of its operands, and the product has not. -/
theorem Expr.compile_byRule_mixed :
    let title := Expr.binary (.field "title") .add
      (.binary (.binary (.literal .null) .add (.field "title")) .add
        (.binary (.field "id") .mul (.param (.integer 2))))
    ∃ v, AssignedValue.ofOwnExpr pages "title" title = .ok v ∧ v.isDerived = true ∧
      title.WellTyped pages ∧
      v.expanded "Title" = .binary (.column "Title") .concat
        (.binary (.binary (.literal .null) .concat (.column "Title")) .concat
          (.binary (.column "Id") .mul (.param (.integer 2)))) ∧
      title.Lowered pages (v.expanded "Title") := by
  intro title
  have rule := (Expr.compile_byRule pages).2.1 ⟨"title", "Title", .text, false⟩ (by decide) title
  exact ⟨_, rfl, rfl, rule.succeeds_iff.mp ⟨_, rfl⟩, rfl, rule.lowered _ rfl⟩

end BulkDml
