import BulkDml.Proofs.Statement.Numbered
import BulkDml.Proofs.Statement.Outline

namespace BulkDml

def Filter.rendered (d : Dialect) (m : Mapping) (f : Filter) : Except Error Statement :=
  (Clause.ofFilter m f).map fun c => d.render (c.toFragment d)

namespace AssignmentSet

def ofMutation (d : Dialect) (m : Mapping) (change : Mutation) : Except Error AssignmentSet :=
  (Assignment.ofMutation m change).map fun assignments => ⟨d, assignments⟩

def ofTransfer (d : Dialect) (source target : Mapping) (p : Projection) :
    Except Error AssignmentSet :=
  (Assignment.ofTransfer source target p).map fun assignments => ⟨d, assignments⟩

structure Parallel (s t : AssignmentSet) : Prop where
  assignments : s.assignments = t.assignments
  value : ∀ a ∈ s.assignments, (s.dialect.render (a.valueFragment s.dialect)).params =
    (t.dialect.render (a.valueFragment t.dialect)).params
  setClause : (s.dialect.render s.setClause).params = (t.dialect.render t.setClause).params
  selectList : (s.dialect.render s.selectList).params = (t.dialect.render t.selectList).params

end AssignmentSet

def Plan.SameParams (p q : Plan) : Prop :=
  ∃ r r', p = .single r ∧ q = .single r' ∧ r.statement.params = r'.statement.params

theorem Agree.of_same {α β : Type} {x : Except Error α} {f g : α → β} {related : β → β → Prop}
    (each : ∀ a, x = .ok a → related (f a) (g a)) : Agree related (x.map f) (x.map g) := by
  cases x with
  | error e => rfl
  | ok a => exact each a rfl

theorem Clause.params_render (d : Dialect) (c : Clause) :
    (d.render (c.toFragment d)).params = c.bound := by
  rw [Dialect.params_render (c.stream_toFragment d), c.params_written]

namespace AssignmentSet

theorem params_valueFragment {d : Dialect} (spelled : d.Spelled) (a : Assignment) :
    (d.render (a.valueFragment d)).params = a.value.bound := by
  rw [Dialect.params_render (stream_valueFragment spelled a)]
  exact a.value.params_written

variable {s t : AssignmentSet}

theorem params_setClause (spelled : s.dialect.Spelled) :
    (s.dialect.render s.setClause).params = Assignment.bound s.assignments := by
  rw [Dialect.params_render (stream_setClause spelled), params_setTokens]

theorem params_selectList (spelled : s.dialect.Spelled) :
    (s.dialect.render s.selectList).params = Assignment.bound s.assignments := by
  rw [Dialect.params_render (stream_selectList spelled), params_selectTokens]

theorem parallel_of_spelled (left : s.dialect.Spelled) (right : t.dialect.Spelled)
    (same : s.assignments = t.assignments) : Parallel s t where
  assignments := same
  value a _ := by rw [params_valueFragment left, params_valueFragment right]
  setClause := by rw [params_setClause left, params_setClause right, same]
  selectList := by rw [params_selectList left, params_selectList right, same]

end AssignmentSet

namespace Bulk

def command (d : Dialect) (o : Bulk) (condition : Option Condition)
    (assignments : List Assignment) : Command :=
  match o with
  | delete q => .delete q.mapping.tableRef condition none
  | update q _ => .update q.mapping.tableRef ⟨d, assignments⟩ condition none
  | insert q target _ => .insert target.tableRef ⟨d, assignments⟩ q.mapping.tableRef condition none

def parts (o : Bulk) : Except Error (Option Condition × List Assignment) := do
  let condition ← o.query.condition
  return (condition, ← o.assignments)

theorem plan_unlimited (d : Dialect) {o : Bulk} (unlimited : o.query.limit? = none) :
    o.plan d = o.parts.map fun (condition, assignments) =>
      .single ⟨d, o.command d condition assignments⟩ := by
  have required (kind : StatementKind) (assignments : List Assignment) :
      Plan.requireAssignments d kind (some ⟨d, assignments⟩) = .ok ⟨d, assignments⟩ :=
    if_pos rfl
  cases o with
  | delete q =>
    change q.limit? = none at unlimited
    rw [plan, Query.deletePlan, unlimited]
    change q.condition >>= _ = (q.condition >>= _).map _
    cases q.condition <;> rfl
  | update q change =>
    change q.limit? = none at unlimited
    rw [plan, Query.updatePlan, unlimited]
    change q.condition >>= _ = (q.condition >>= fun _ => Assignment.ofMutation _ _ >>= _).map _
    cases q.condition with
    | error e => rfl
    | ok condition =>
      cases Assignment.ofMutation q.mapping change with
      | error e => rfl
      | ok assignments =>
        change Plan.requireAssignments d .update _ >>= _ = _
        rw [required]
        rfl
  | insert q target p =>
    change q.limit? = none at unlimited
    rw [plan, Query.insertPlan, unlimited]
    change q.condition >>= _ = (q.condition >>= fun _ => Assignment.ofTransfer _ _ _ >>= _).map _
    cases q.condition with
    | error e => rfl
    | ok condition =>
      cases Assignment.ofTransfer q.mapping target p with
      | error e => rfl
      | ok assignments =>
        change Plan.requireAssignments d (.insert target) _ >>= _ = _
        rw [required]
        rfl

theorem composed_command (d : Dialect) {o : Bulk} {condition : Option Condition}
    {assignments : List Assignment} (compiled : o.parts = .ok (condition, assignments)) :
    (o.command d condition assignments).Composed d := by
  obtain ⟨filtered, condition, rest⟩ := bind_eq_ok_iff.mp compiled
  obtain ⟨assigned, _, same⟩ := bind_eq_ok_iff.mp rest
  cases same
  obtain ⟨-, wellFormed⟩ := Query.bound_condition condition
  cases o with
  | delete q => exact ⟨rfl, by rintro set ⟨⟩, wellFormed⟩
  | update q change => exact ⟨rfl, by rintro set ⟨⟩; rfl, wellFormed⟩
  | insert q target p => exact ⟨rfl, by rintro set ⟨⟩; rfl, wellFormed⟩

/-- The values that a command binds do not depend on the dialect that writes it. -/
theorem bound_command (d d' : Dialect) (o : Bulk) (condition : Option Condition)
    (assignments : List Assignment) :
    (o.command d condition assignments).bound = (o.command d' condition assignments).bound := by
  cases o <;> rfl

end Bulk

/-- The backends agree on everything but spelling. -/
theorem Backend.agree (b b' : Backend) :
    (∀ m f, Agree (fun s s' => s.params = s'.params) (Filter.rendered b.dialect m f)
      (Filter.rendered b'.dialect m f)) ∧
    (∀ m change, Agree AssignmentSet.Parallel (AssignmentSet.ofMutation b.dialect m change)
      (AssignmentSet.ofMutation b'.dialect m change)) ∧
    (∀ source target p, Agree AssignmentSet.Parallel
      (AssignmentSet.ofTransfer b.dialect source target p)
      (AssignmentSet.ofTransfer b'.dialect source target p)) ∧
    ∀ o : Bulk, o.query.limit? = none →
      Agree Plan.SameParams (o.plan b.dialect) (o.plan b'.dialect) := by
  have spelled := Dialect.spelled b
  have spelled' := Dialect.spelled b'
  refine ⟨?_, ?_, ?_, ?_⟩
  · intro m f
    refine Agree.of_same fun c _ => ?_
    rw [c.params_render, c.params_render]
  · intro m change
    exact Agree.of_same fun _ _ => AssignmentSet.parallel_of_spelled spelled spelled' rfl
  · intro source target p
    exact Agree.of_same fun _ _ => AssignmentSet.parallel_of_spelled spelled spelled' rfl
  · intro o unlimited
    rw [Bulk.plan_unlimited b.dialect unlimited, Bulk.plan_unlimited b'.dialect unlimited]
    refine Agree.of_same fun (condition, assignments) compiled => ⟨_, _, rfl, rfl, ?_⟩
    have params := (Request.statement_numbered (Bulk.composed_command b.dialect compiled)).2
    have params' := (Request.statement_numbered (Bulk.composed_command b'.dialect compiled)).2
    rw [params, params']
    exact Bulk.bound_command b.dialect b'.dialect o condition assignments

theorem Backend.agree_concatenation :
    let m : Mapping := ⟨⟨none, "t", [⟨"a", "a", .text, true⟩, ⟨"b", "b", .bool, false⟩]⟩,
      by decide⟩
    let greeting :=
      Expr.binary (.binary (.param (.text "x")) .add (.field "a")) .concat (.literal (.text "y"))
    let change := Mutation.projection ⟨[("b", .literal (.bool true)), ("a", greeting)]⟩
    let o := Bulk.update ⟨m, some (.isIn "a" [.text "z", .null]), some 0⟩ change
    o.query.limit? = none ∧
      Agree Plan.SameParams (o.plan Backend.mySql.dialect) (o.plan Backend.postgreSql.dialect) ∧
      ∃ r, o.plan Backend.mySql.dialect = .ok (.single r) ∧
        r.statement.params = [.text "x", .text "y", .text "z"] := by
  intro m greeting change o
  have compiled : o.plan Backend.mySql.dialect = .ok (.single ⟨Backend.mySql.dialect,
      .update ⟨none, "t"⟩ ⟨Backend.mySql.dialect,
        [⟨"a", "a", .binary (.binary (.param (.text "x")) .concat (.column "a")) .concat
          (.literal (.text "y"))⟩, ⟨"b", "b", .literal (.bool true)⟩]⟩
        (some (.clause (.member "a" [.text "z"] true))) none⟩) := by
    rfl
  exact ⟨rfl, (Backend.agree .mySql .postgreSql).2.2.2 o rfl, _, compiled, by decide⟩

end BulkDml
