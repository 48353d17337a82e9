import BulkDml.Proofs.Assignment.Writes
import BulkDml.Proofs.Statement.Backends

namespace BulkDml

namespace AssignedValue

def expanded (own : String) : AssignedValue → AssignedValue
  | derived op operand => binary (column own) op operand
  | v => v

def DerivedFree : AssignedValue → Prop
  | derived _ _ => False
  | binary left _ right => left.DerivedFree ∧ right.DerivedFree
  | _ => True

theorem expanded_of_derivedFree {v : AssignedValue} (free : v.DerivedFree) (own : String) :
    v.expanded own = v := by
  cases v with
  | derived op operand => exact free.elim
  | _ => rfl

theorem isDerived_of_derivedFree {v : AssignedValue} (free : v.DerivedFree) :
    v.isDerived = false := by
  cases v with
  | derived op operand => exact free.elim
  | _ => rfl

theorem toFragment_expanded (d : Dialect) (own : String) (v : AssignedValue) :
    (v.expanded own).toFragment d (d.quote own) = v.toFragment d (d.quote own) := by
  cases v <;> rfl

variable {m : Mapping}

theorem derivedFree_ofExpr {e : Expr} {v : AssignedValue} (compiled : ofExpr m e = .ok v) :
    v.DerivedFree := by
  induction e generalizing v with
  | literal w =>
    cases compiled
    trivial
  | param w =>
    cases compiled
    trivial
  | field name =>
    obtain ⟨c, -, done⟩ := bind_eq_ok_iff.mp compiled
    cases done
    trivial
  | binary left op right ihLeft ihRight =>
    obtain ⟨resolved, -, rest⟩ := bind_eq_ok_iff.mp compiled
    obtain ⟨l, first, rest⟩ := bind_eq_ok_iff.mp rest
    obtain ⟨r, second, done⟩ := bind_eq_ok_iff.mp rest
    cases done
    exact ⟨ihLeft first, ihRight second⟩

/-- An operation on the field's own value resolves the field before the operand is compiled, so it
fails as the operation on any other field would. -/
theorem expanded_self {c : Column} (member : c ∈ m.columns) (op : ArithmeticOp) (right : Expr) :
    ((do
        let op ← Expr.resolveOp m op (.field c.field) right
        return derived op (← ofExpr m right) : Except Error AssignedValue)).map
      (expanded c.name) = ofExpr m (.binary (.field c.field) op right) := by
  have found : m.resolveColumn c.field = .ok c := m.resolveColumn_eq_ok_iff.mpr ⟨member, rfl⟩
  rw [ofExpr, ofExpr, found]
  cases Expr.resolveOp m op (.field c.field) right with
  | error e => rfl
  | ok resolved =>
    cases ofExpr m right with
    | error e => rfl
    | ok operand => rfl

theorem ofOwnExpr_expanded {c : Column} (member : c ∈ m.columns) (e : Expr) :
    (ofOwnExpr m c.field e).map (expanded c.name) = ofExpr m e := by
  have unmarked : (ofExpr m e).map (expanded c.name) = ofExpr m e := by
    cases compiled : ofExpr m e with
    | error e' => rfl
    | ok v => exact congrArg Except.ok (expanded_of_derivedFree (derivedFree_ofExpr compiled) _)
  cases e with
  | binary left op right =>
    cases left with
    | field name =>
      rw [ofOwnExpr]
      split
      · next own =>
        rw [own]
        exact expanded_self member op right
      · exact unmarked
    | _ => exact unmarked
  | _ => exact unmarked

theorem isDerived_ofOwnExpr {field : String} {e : Expr} {v : AssignedValue}
    (compiled : ofOwnExpr m field e = .ok v) :
    v.isDerived = true ↔ ∃ op right, e = .binary (.field field) op right := by
  have unmarked (compiled : ofExpr m e = .ok v) : v.isDerived ≠ true := by
    rw [isDerived_of_derivedFree (derivedFree_ofExpr compiled)]
    exact Bool.false_ne_true
  cases e with
  | binary left op right =>
    cases left with
    | field name =>
      rw [ofOwnExpr] at compiled
      split at compiled
      · next own =>
        obtain ⟨resolved, -, rest⟩ := bind_eq_ok_iff.mp compiled
        obtain ⟨operand, -, done⟩ := bind_eq_ok_iff.mp rest
        cases done
        exact iff_of_true rfl ⟨op, right, by rw [own]⟩
      · next other => exact iff_of_false (unmarked compiled) (by simpa using other)
    | _ => exact iff_of_false (unmarked compiled) (by simp)
  | _ => exact iff_of_false (unmarked compiled) (by simp)

end AssignedValue

namespace Assignment

variable {m : Mapping}

def expanded (a : Assignment) : Assignment := { a with value := a.value.expanded a.column }

theorem valueFragment_expanded (d : Dialect) (a : Assignment) :
    a.expanded.valueFragment d = a.valueFragment d :=
  a.value.toFragment_expanded d a.column

def expandedIn (m : Mapping) (field : String) (v : AssignedValue) : AssignedValue :=
  (m.column? field).elim v fun c => v.expanded c.name

theorem expandedIn_of_mem {c : Column} (member : c ∈ m.columns) (v : AssignedValue) :
    expandedIn m c.field v = v.expanded c.name := by
  rw [expandedIn, m.column?_eq_some_iff.mpr ⟨member, rfl⟩, Option.elim_some]

theorem transferWrites_self (p : Projection) :
    transferWrites m m p =
      (projectionWrites m p).map (List.map fun w => (w.1, expandedIn m w.1 w.2)) := by
  rw [transferWrites_eq, projectionWrites_eq]
  refine mapM_eq_map (fun x => ?_) p.assignments
  rw [fieldWrite, fieldWrite]
  cases resolved : m.resolveColumn x.1 with
  | error e => rfl
  | ok c =>
    obtain ⟨member, named⟩ := m.resolveColumn_eq_ok_iff.mp resolved
    have expands := expandedIn_of_mem member
    rw [named] at expands
    rw [← AssignedValue.ofOwnExpr_expanded member, named]
    cases AssignedValue.ofOwnExpr m x.1 x.2 with
    | error e => rfl
    | ok v => exact congrArg (fun v => Except.ok (x.1, v)) (expands v).symm

theorem ofTransfer_self (p : Projection) :
    ofTransfer m m p = (ofMutation m (.projection p)).map (List.map expanded) := by
  have collected (writes : List FieldWrite) :
      collect m (writes.map fun w => (w.1, expandedIn m w.1 w.2)) =
        (collect m writes).map (List.map expanded) := by
    refine collect_map (expandedIn m) (fun c member v => ?_) writes
    rw [expandedIn_of_mem member]
    rfl
  rw [ofTransfer, transferWrites_self, ofMutation]
  cases projectionWrites m p with
  | error e => rfl
  | ok writes => exact collected writes

theorem derivedFree_ofTransfer {source target : Mapping} {p : Projection}
    {assignments : List Assignment} (compiled : ofTransfer source target p = .ok assignments) :
    ∀ a ∈ assignments, a.value.DerivedFree := by
  intro a member
  obtain ⟨writes, written, collected⟩ := bind_eq_ok_iff.mp compiled
  rw [transferWrites_eq] at written
  obtain ⟨c, -, -, e, -, value⟩ := latest_of_collect written collected member
  exact AssignedValue.derivedFree_ofExpr value

theorem isDerived_of_projection {p : Projection} {assignments : List Assignment}
    (compiled : ofMutation m (.projection p) = .ok assignments) {a : Assignment}
    (member : a ∈ assignments) :
    a.value.isDerived = true ↔
      ∃ op right, Latest p.assignments a.field (.binary (.field a.field) op right) := by
  obtain ⟨writes, written, collected⟩ := bind_eq_ok_iff.mp compiled
  rw [projectionWrites_eq] at written
  obtain ⟨c, -, same, e, latest, value⟩ := latest_of_collect written collected member
  have named : a.field = c.field := congrArg Assignment.field same
  rw [named, AssignedValue.isDerived_ofOwnExpr value]
  constructor
  · rintro ⟨op, right, rfl⟩
    exact ⟨op, right, latest⟩
  · rintro ⟨op, right, other⟩
    exact ⟨op, right, latest.unique other⟩

end Assignment

namespace AssignmentSet

def expanded (s : AssignmentSet) : AssignmentSet :=
  { s with assignments := s.assignments.map Assignment.expanded }

variable (s : AssignmentSet)

theorem quotedColumn_expanded (d : Dialect) (a : Assignment) :
    a.expanded.quotedColumn d = a.quotedColumn d := rfl

theorem setClause_expanded : s.expanded.setClause = s.setClause := by
  simp [setClause, expanded, Function.comp_def, quotedColumn_expanded,
    Assignment.valueFragment_expanded]

theorem columnList_expanded : s.expanded.columnList = s.columnList := by
  simp [columnList, expanded, Function.comp_def, quotedColumn_expanded]

theorem selectList_expanded : s.expanded.selectList = s.selectList := by
  simp [selectList, expanded, Function.comp_def, Assignment.valueFragment_expanded]

theorem columns_expanded : s.expanded.columns = s.columns := by
  simp [columns, expanded, Function.comp_def, Assignment.expanded]

/-- Assignments that a projection makes to the rows of a table, and to new rows of it, which differ
in the marks of derived values and in nothing else. -/
structure Marks (p : Projection) (s t : AssignmentSet) : Prop where
  /-- The fields that the projection names have a value, and no others have one. -/
  named : ∀ field, field ∈ s.assignments.map (·.field) ↔ field ∈ p.assignments.map Prod.fst
  fields : s.assignments.map (·.field) = t.assignments.map (·.field)
  columns : s.columns = t.columns
  setClause : s.setClause = t.setClause
  columnList : s.columnList = t.columnList
  selectList : s.selectList = t.selectList
  values : t.assignments.map (·.value) = s.assignments.map fun a => a.value.expanded a.column
  unmarked : ∀ a ∈ t.assignments, a.value.DerivedFree
  marked : ∀ a ∈ s.assignments, a.value.isDerived = true ↔
    ∃ op right, Latest p.assignments a.field (.binary (.field a.field) op right)

/-- A projection has the same outcome and the same text whether its values are assigned to the rows
of a table or make up new rows of it. -/
theorem projection_agrees_transfer (d : Dialect) (m : Mapping) (p : Projection) :
    Agree (Marks p) (ofMutation d m (.projection p)) (ofTransfer d m m p) := by
  rw [ofTransfer, Assignment.ofTransfer_self]
  cases compiled : Assignment.ofMutation m (.projection p) with
  | error e =>
    rw [ofMutation, compiled]
    rfl
  | ok assignments =>
    rw [ofMutation, compiled]
    let s : AssignmentSet := ⟨d, assignments⟩
    have inserted : Assignment.ofTransfer m m p = .ok (assignments.map Assignment.expanded) := by
      rw [Assignment.ofTransfer_self, compiled]
      rfl
    obtain ⟨writes, written, collected⟩ := bind_eq_ok_iff.mp compiled
    rw [Assignment.projectionWrites_eq] at written
    exact {
      named := fun field => Assignment.field_mem_iff written collected
      fields := by simp [Function.comp_def, Assignment.expanded]
      columns := s.columns_expanded.symm
      setClause := s.setClause_expanded.symm
      columnList := s.columnList_expanded.symm
      selectList := s.selectList_expanded.symm
      values := by simp [Function.comp_def, Assignment.expanded]
      unmarked := Assignment.derivedFree_ofTransfer inserted
      marked := fun a => Assignment.isDerived_of_projection compiled }

end AssignmentSet

end BulkDml
