import BulkDml.Proofs.Assignment.Typing

namespace BulkDml

structure Projection.Reordered (p q : Projection) : Prop where
  perm : p.assignments.Perm q.assignments
  sameField : ∀ field, p.assignments.filter (·.1 == field) = q.assignments.filter (·.1 == field)

theorem Projection.Reordered.symm {p q : Projection} (same : p.Reordered q) : q.Reordered p :=
  ⟨same.perm.symm, fun field => (same.sameField field).symm⟩

/-- The assignments are the last values that a projection has for the fields that it names, in the
order of the table. A value of a field is compiled by `value`. -/
structure AssignmentSet.LastOf (table : Mapping)
    (value : String → Expr → Except Error AssignedValue) (p : Projection) (s : AssignmentSet) :
    Prop where
  filled : s.assignments ≠ []
  named : ∀ field, field ∈ s.assignments.map (·.field) ↔ field ∈ p.assignments.map Prod.fst
  once : (s.assignments.map (·.field)).Nodup
  ordered : (s.assignments.map (·.field)).Sublist (table.columns.map (·.field))
  last : ∀ a ∈ s.assignments, ∃ c ∈ table.columns, a = ⟨c.field, c.name, a.value⟩ ∧
    ∃ e, Latest p.assignments c.field e ∧ value c.field e = .ok a.value

structure Projection.OrderedByTable (table : Mapping)
    (value : String → Expr → Except Error AssignedValue)
    (compile : Projection → Except Error AssignmentSet) (p : Projection) : Prop where
  /-- Every pair has to compile, also one that is not the last for its field. -/
  succeeds_iff : (∃ s, compile p = .ok s) ↔
    p.assignments ≠ [] ∧ ∀ x ∈ p.assignments,
      (∃ c ∈ table.columns, c.field = x.1) ∧ ∃ v, value x.1 x.2 = .ok v
  lastOf : ∀ s, compile p = .ok s → s.LastOf table value p
  noAssignments_iff : (∃ name, compile p = .error (.noAssignments name)) ↔ p.assignments = []
  reordered : ∀ q, p.Reordered q → ∀ s, compile p = .ok s ↔ compile q = .ok s

namespace Assignment

variable {table : Mapping} {value : String → Expr → Except Error AssignedValue}
  {writes : List FieldWrite} {assignments : List Assignment} {xs ys : List (String × Expr)}

def ofPairs (table : Mapping) (value : String → Expr → Except Error AssignedValue)
    (xs : List (String × Expr)) : Except Error (List Assignment) := do
  collect table (← xs.mapM (fieldWrite table value))

theorem ofMutation_projection (m : Mapping) (p : Projection) :
    ofMutation m (.projection p) = ofPairs m (AssignedValue.ofOwnExpr m) p.assignments := rfl

theorem ofTransfer_eq (source target : Mapping) (p : Projection) :
    ofTransfer source target p =
      ofPairs target (fun _ => AssignedValue.ofExpr source) p.assignments := rfl

theorem lastWrite?_eq_getLast? (field : String) :
    lastWrite? writes field = (writes.filter (·.1 == field)).getLast?.map Prod.snd := by
  rw [lastWrite?, ← List.head?_filter, List.filter_reverse, List.head?_reverse]

/-- What is collected depends on the writes to each field, and not on their places among others. -/
theorem collect_congr_writes {others : List FieldWrite}
    (same : ∀ field, writes.filter (·.1 == field) = others.filter (·.1 == field)) :
    collect table writes = collect table others := by
  have last (field : String) : lastWrite? writes field = lastWrite? others field := by
    rw [lastWrite?_eq_getLast?, lastWrite?_eq_getLast?, same]
  simp only [collect, last]

theorem forall₂_of_written (written : xs.mapM (fieldWrite table value) = .ok writes) :
    List.Forall₂ (fun x w => x.1 = w.1 ∧ value x.1 x.2 = .ok w.2) xs writes := by
  refine (mapM_eq_ok_iff.mp written).imp fun x w done => ?_
  obtain ⟨named, -, compiled⟩ := fieldWrite_eq_ok_iff.mp done
  exact ⟨named, compiled⟩

theorem fields_of_written (written : xs.mapM (fieldWrite table value) = .ok writes) :
    writes.map Prod.fst = xs.map Prod.fst := by
  rw [eq_comm, ← List.forall₂_eq_eq_eq, List.forall₂_map_left_iff, List.forall₂_map_right_iff]
  exact (forall₂_of_written written).imp fun _ _ same => same.1

theorem written_filter (field : String) (written : xs.mapM (fieldWrite table value) = .ok writes) :
    (xs.filter (·.1 == field)).mapM (fieldWrite table value) =
      .ok (writes.filter (·.1 == field)) := by
  rw [mapM_eq_ok_iff] at written ⊢
  induction written with
  | nil => exact .nil
  | @cons x w xs writes done _ ih =>
    have named : x.1 = w.1 := (fieldWrite_eq_ok_iff.mp done).1
    simp only [List.filter_cons, named]
    split
    · exact .cons done ih
    · exact ih

theorem exists_written_iff : (∃ writes, xs.mapM (fieldWrite table value) = .ok writes) ↔
    ∀ x ∈ xs, (∃ c ∈ table.columns, c.field = x.1) ∧ ∃ v, value x.1 x.2 = .ok v := by
  constructor
  · rintro ⟨writes, written⟩ x member
    obtain ⟨w, -, done⟩ := exists_ok_of_mapM written member
    obtain ⟨-, place, compiled⟩ := fieldWrite_eq_ok_iff.mp done
    exact ⟨place, w.2, compiled⟩
  · intro each
    rw [← not_error_iff]
    intro e failed
    obtain ⟨x, member, refused⟩ := exists_error_of_mapM failed
    obtain ⟨place, v, compiled⟩ := each x member
    have done : fieldWrite table value x = .ok (x.1, v) :=
      fieldWrite_eq_ok_iff.mpr ⟨rfl, place, compiled⟩
    rw [refused] at done
    cases done

theorem collect_ne_error (written : xs.mapM (fieldWrite table value) = .ok writes)
    (some : xs ≠ []) (e : Error) : collect table writes ≠ .error e := by
  intro failed
  obtain ⟨-, unwritten⟩ := collect_eq_error failed
  obtain ⟨x, member⟩ := List.exists_mem_of_ne_nil xs some
  obtain ⟨⟨c, place, named⟩, -⟩ := exists_written_iff.mp ⟨writes, written⟩ x member
  refine unwritten c place ?_
  rw [named, fields_of_written written]
  exact List.mem_map_of_mem member

theorem exists_ofPairs_iff : (∃ assignments, ofPairs table value xs = .ok assignments) ↔
    xs ≠ [] ∧ ∀ x ∈ xs, (∃ c ∈ table.columns, c.field = x.1) ∧ ∃ v, value x.1 x.2 = .ok v := by
  rw [← exists_written_iff]
  constructor
  · rintro ⟨assignments, compiled⟩
    obtain ⟨writes, written, collected⟩ := bind_eq_ok_iff.mp compiled
    refine ⟨?_, writes, written⟩
    rintro rfl
    obtain ⟨a, assigned⟩ := List.exists_mem_of_ne_nil assignments (collect_eq_ok collected).1
    obtain ⟨c, -, -, e, latest, -⟩ := latest_of_collect written collected assigned
    cases latest.mem
  · rintro ⟨some, writes, written⟩
    obtain ⟨assignments, collected⟩ := not_error_iff.mp (collect_ne_error written some)
    exact ⟨assignments, bind_eq_ok_iff.mpr ⟨writes, written, collected⟩⟩

theorem lastOf_ofPairs {d : Dialect} {p : Projection}
    (compiled : ofPairs table value p.assignments = .ok assignments) :
    AssignmentSet.LastOf table value p ⟨d, assignments⟩ := by
  obtain ⟨writes, written, collected⟩ := bind_eq_ok_iff.mp compiled
  have inTable := fields_sublist collected
  refine ⟨(collect_eq_ok collected).1, fun field => ?_, inTable.nodup table.fields_nodup, inTable,
    fun a => latest_of_collect written collected⟩
  constructor
  · intro assigned
    obtain ⟨a, member, rfl⟩ := List.mem_map.mp assigned
    obtain ⟨c, -, same, e, latest, -⟩ := latest_of_collect written collected member
    have field : a.field = c.field := congrArg Assignment.field same
    rw [field]
    exact List.mem_map_of_mem latest.mem
  · intro named
    obtain ⟨x, member, rfl⟩ := List.mem_map.mp named
    obtain ⟨⟨c, place, field⟩, -⟩ := exists_written_iff.mp ⟨writes, written⟩ x member
    rw [← fields_of_written written, ← field] at named
    obtain ⟨v, latest⟩ := Latest.exists_iff.mpr named
    have assigned : ⟨c.field, c.name, v⟩ ∈ assignments :=
      (mem_of_collect collected).mpr ⟨c, place, rfl, latest⟩
    exact List.mem_map.mpr ⟨_, assigned, field⟩

theorem ofPairs_reordered {p q : Projection} (same : p.Reordered q)
    (compiled : ofPairs table value p.assignments = .ok assignments) :
    ofPairs table value q.assignments = .ok assignments := by
  obtain ⟨writes, written, collected⟩ := bind_eq_ok_iff.mp compiled
  have each := exists_written_iff.mp ⟨writes, written⟩
  obtain ⟨others, rewritten⟩ := exists_written_iff.mpr fun x member =>
    each x (same.perm.mem_iff.mpr member)
  have sameWrites (field : String) :
      writes.filter (·.1 == field) = others.filter (·.1 == field) := by
    have first := written_filter field written
    rw [same.sameField, written_filter field rewritten] at first
    exact (Except.ok.inj first).symm
  rw [collect_congr_writes sameWrites] at collected
  exact bind_eq_ok_iff.mpr ⟨others, rewritten, collected⟩

theorem ofPairs_noAssignments_iff
    (fault : ∀ field e err, value field e = .error err →
      ∃ what, err = .unsupportedExpression what) :
    (∃ name, ofPairs table value xs = .error (.noAssignments name)) ↔ xs = [] := by
  constructor
  · rintro ⟨name, failed⟩
    rcases bind_eq_error_iff.mp failed with refused | ⟨writes, written, uncollected⟩
    · obtain ⟨x, -, cause⟩ := exists_error_of_mapM refused
      rcases fieldWrite_eq_error cause with ⟨unmapped, -⟩ | uncompiled
      · cases unmapped
      · obtain ⟨what, unsupported⟩ := fault _ _ _ uncompiled
        cases unsupported
    · by_contra some
      exact collect_ne_error written some _ uncollected
  · rintro rfl
    refine ⟨table.table, bind_eq_error_iff.mpr (.inr ⟨[], rfl, ?_⟩)⟩
    simp [collect, lastWrite?]

end Assignment

namespace AssignedValue

theorem ofOwnExpr_fault {m : Mapping} {field : String} {e : Expr} {err : Error}
    (failed : ofOwnExpr m field e = .error err) : e.Fault m err := by
  cases e with
  | binary left op right =>
    cases left with
    | field name =>
      rw [ofOwnExpr] at failed
      split at failed
      · rcases bind_eq_error_iff.mp failed with operator | ⟨resolved, -, rest⟩
        · exact Expr.resolveOp_fault operator
        · rcases bind_eq_error_iff.mp rest with second | ⟨operand, -, done⟩
          · exact (ofExpr_fault second).ofRight
          · cases done
      · exact ofExpr_fault failed
    | _ => exact ofExpr_fault failed
  | _ => exact ofExpr_fault failed

end AssignedValue

namespace Projection

theorem orderedByTable_ofPairs {table : Mapping}
    {value : String → Expr → Except Error AssignedValue}
    (fault : ∀ field e err, value field e = .error err → ∃ what, err = .unsupportedExpression what)
    (d : Dialect) (p : Projection) :
    p.OrderedByTable table value fun q =>
      (Assignment.ofPairs table value q.assignments).map fun assignments => ⟨d, assignments⟩ where
  succeeds_iff := by
    rw [← Assignment.exists_ofPairs_iff]
    cases Assignment.ofPairs table value p.assignments <;> simp [Except.map]
  lastOf s compiled := by
    cases assigned : Assignment.ofPairs table value p.assignments with
    | error e =>
      rw [assigned] at compiled
      cases compiled
    | ok assignments =>
      rw [assigned] at compiled
      cases compiled
      exact Assignment.lastOf_ofPairs assigned
  noAssignments_iff := by
    rw [← Assignment.ofPairs_noAssignments_iff fault]
    cases Assignment.ofPairs table value p.assignments <;> simp [Except.map]
  reordered q same s := by
    have outcome (assignments : List Assignment) :
        Assignment.ofPairs table value p.assignments = .ok assignments ↔
          Assignment.ofPairs table value q.assignments = .ok assignments :=
      ⟨Assignment.ofPairs_reordered same, Assignment.ofPairs_reordered same.symm⟩
    rw [map_eq_ok_iff, map_eq_ok_iff]
    simp only [outcome]

/-- The outcome of a projection does not depend on the order of its pairs, but for those of the same
field, whether it changes the rows of a table or makes up new rows of another. -/
theorem orderedByTable (d : Dialect) (m : Mapping) (p : Projection) :
    p.OrderedByTable m (AssignedValue.ofOwnExpr m)
        (fun q => AssignmentSet.ofMutation d m (.projection q)) ∧
      ∀ target, p.OrderedByTable target (fun _ => AssignedValue.ofExpr m)
        fun q => AssignmentSet.ofTransfer d m target q := by
  have updates (q : Projection) : AssignmentSet.ofMutation d m (.projection q) =
      (Assignment.ofPairs m (AssignedValue.ofOwnExpr m) q.assignments).map
        fun assignments => ⟨d, assignments⟩ := by
    rw [AssignmentSet.ofMutation, Assignment.ofMutation_projection]
  have inserts (target : Mapping) (q : Projection) : AssignmentSet.ofTransfer d m target q =
      (Assignment.ofPairs target (fun _ => AssignedValue.ofExpr m) q.assignments).map
        fun assignments => ⟨d, assignments⟩ := by
    rw [AssignmentSet.ofTransfer, Assignment.ofTransfer_eq]
  constructor
  · rw [funext updates]
    exact orderedByTable_ofPairs
      (fun _ _ _ failed => (AssignedValue.ofOwnExpr_fault failed).unsupported) d p
  · intro target
    rw [funext (inserts target)]
    exact orderedByTable_ofPairs
      (fun _ _ _ failed => (AssignedValue.ofExpr_fault failed).unsupported) d p

/-- The name stands after both values of the price, or between them. -/
theorem orderedByTable_interleaved :
    let m : Mapping :=
      ⟨⟨none, "items", [⟨"id", "Id", .integer, true⟩, ⟨"name", "Name", .text, false⟩,
        ⟨"price", "Price", .real, false⟩]⟩, by decide⟩
    let raised := Expr.binary (.field "price") .add (.literal (.integer 1))
    let p : Projection :=
      ⟨[("price", .param (.integer 5)), ("price", raised), ("name", .param (.text "x"))]⟩
    let q : Projection :=
      ⟨[("price", .param (.integer 5)), ("name", .param (.text "x")), ("price", raised)]⟩
    let s : AssignmentSet := ⟨Backend.mySql.dialect, [⟨"name", "Name", .param (.text "x")⟩,
      ⟨"price", "Price", .derived .add (.literal (.integer 1))⟩]⟩
    p.Reordered q ∧ s.LastOf m (AssignedValue.ofOwnExpr m) p ∧
      AssignmentSet.ofMutation Backend.mySql.dialect m (.projection q) = .ok s := by
  intro m raised p q s
  have same : p.Reordered q := by
    refine ⟨.cons _ (.swap _ _ _), fun field => ?_⟩
    by_cases price : "price" = field
    · have name : ¬ "name" = field := by
        rintro rfl
        exact absurd price (by decide)
      simp [p, q, price, name]
    · simp [p, q, List.filter_cons, price]
  have compiled : AssignmentSet.ofMutation Backend.mySql.dialect m (.projection p) = .ok s := rfl
  have law := (orderedByTable Backend.mySql.dialect m p).1
  exact ⟨same, law.lastOf s compiled, (law.reordered q same s).mp compiled⟩

end Projection

end BulkDml
