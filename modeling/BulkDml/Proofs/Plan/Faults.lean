import BulkDml.Proofs.Plan.Compiled

namespace BulkDml

def FailsEarly {α : Type} (x : Except Error α) : Prop :=
  ∀ e, x = .error e → e.isCompileTime = true

namespace FailsEarly

variable {α β : Type} {x : Except Error α}

theorem ok (a : α) : FailsEarly (.ok a) := by
  intro e failed
  cases failed

theorem error {e : Error} (early : e.isCompileTime = true) : FailsEarly (α := α) (.error e) := by
  intro _ failed
  cases failed
  exact early

theorem bind (first : FailsEarly x) {next : α → Except Error β} (rest : ∀ a, FailsEarly (next a)) :
    FailsEarly (x >>= next) := by
  cases x with
  | error e => exact .error (first e rfl)
  | ok a => exact rest a

theorem map (first : FailsEarly x) (f : α → β) : FailsEarly (x.map f) := by
  cases x with
  | error e => exact .error (first e rfl)
  | ok a => exact .ok (f a)

theorem mapM {f : α → Except Error β} (each : ∀ a, FailsEarly (f a)) (as : List α) :
    FailsEarly (as.mapM f) := by
  induction as with
  | nil => exact .ok []
  | cons a as ih =>
    rw [List.mapM_cons]
    exact (each a).bind fun b => ih.bind fun bs => .ok (b :: bs)

end FailsEarly

theorem Mapping.resolveColumn_failsEarly (m : Mapping) (field : String) :
    FailsEarly (m.resolveColumn field) := by
  refine FailsEarly.map ?_ Prod.snd
  unfold resolve
  split
  · exact .ok _
  · exact .error rfl

namespace Clause

theorem comparison_failsEarly (field column : String) (op : CompareOp) (v : Value) :
    FailsEarly (ofFilter.comparison field column op v) := by
  unfold ofFilter.comparison
  split
  · split
    · exact .ok _
    · exact .ok _
    · exact .error rfl
  · exact .ok _

theorem ofFilter_failsEarly (m : Mapping) (f : Filter) : FailsEarly (ofFilter m f) := by
  induction f with
  | compare field op operand =>
    refine (m.resolveColumn_failsEarly field).bind fun c => ?_
    cases operand with
    | field other => exact (m.resolveColumn_failsEarly other).bind fun _ => .ok _
    | value v => exact comparison_failsEarly field c.name op v
    | param v => exact comparison_failsEarly field c.name op v
  | and left right ihLeft ihRight => exact ihLeft.bind fun _ => ihRight.bind fun _ => .ok _
  | or left right ihLeft ihRight => exact ihLeft.bind fun _ => ihRight.bind fun _ => .ok _
  | not inner ih => exact ih.bind fun _ => .ok _
  | isIn field values => exact (m.resolveColumn_failsEarly field).bind fun _ => .ok _
  | any values field => exact (m.resolveColumn_failsEarly field).bind fun _ => .ok _
  | isNull field => exact (m.resolveColumn_failsEarly field).bind fun _ => .ok _
  | isNotNull field => exact (m.resolveColumn_failsEarly field).bind fun _ => .ok _
  | «local» field label _ => exact .error rfl

end Clause

theorem ArithmeticOp.onOperands_failsEarly (textual : Bool) (op : ArithmeticOp) :
    FailsEarly (op.onOperands textual) := by
  cases op with
  | concat => exact .ok _
  | add => exact .ok _
  | _ =>
    cases textual with
    | true => exact .error rfl
    | false => exact .ok _

namespace Expr

variable (m : Mapping)

theorem type?_failsEarly (e : Expr) : FailsEarly (e.type? m) := by
  induction e with
  | literal v => exact .ok _
  | param v => exact .ok _
  | field name => exact (m.resolveColumn_failsEarly name).bind fun _ => .ok _
  | binary left op right ihLeft ihRight =>
    refine ihLeft.bind fun leftType => ?_
    split
    · exact (op.onOperands_failsEarly true).bind fun _ => .ok _
    · exact ihRight.bind fun _ => (op.onOperands_failsEarly _).bind fun _ => .ok _

theorem resolveOp_failsEarly (op : ArithmeticOp) (left right : Expr) :
    FailsEarly (resolveOp m op left right) := by
  have either : FailsEarly (eitherText m left right) := by
    refine (left.type?_failsEarly m).bind fun leftType => ?_
    split
    · exact .ok _
    · exact (right.type?_failsEarly m).bind fun _ => .ok _
  exact either.bind fun textual => op.onOperands_failsEarly textual

end Expr

namespace AssignedValue

variable (m : Mapping)

theorem ofExpr_failsEarly (e : Expr) : FailsEarly (ofExpr m e) := by
  induction e with
  | literal v => exact .ok _
  | param v => exact .ok _
  | field name => exact (m.resolveColumn_failsEarly name).bind fun _ => .ok _
  | binary left op right ihLeft ihRight =>
    exact (Expr.resolveOp_failsEarly m op left right).bind fun _ =>
      ihLeft.bind fun _ => ihRight.bind fun _ => .ok _

theorem ofOwnExpr_failsEarly (field : String) (e : Expr) : FailsEarly (ofOwnExpr m field e) := by
  unfold ofOwnExpr
  split
  · next name op right =>
    split
    · exact (Expr.resolveOp_failsEarly m op (.field name) right).bind fun _ =>
        (ofExpr_failsEarly m right).bind fun _ => .ok _
    · exact ofExpr_failsEarly m _
  · exact ofExpr_failsEarly m e

end AssignedValue

namespace Assignment

variable (m : Mapping)

theorem collect_failsEarly (target : Mapping) (writes : List FieldWrite) :
    FailsEarly (collect target writes) := by
  unfold collect
  dsimp only
  split
  · exact .error rfl
  · exact .ok _

theorem templateWrites_failsEarly (t : Template) : FailsEarly (templateWrites m t) := by
  have entry (e : TemplateEntry) : FailsEarly (entryWrite m t e) := by
    refine (m.resolveColumn_failsEarly e.field).bind fun c => ?_
    split
    · exact .ok _
    · exact .error rfl
  have included (field : String) : FailsEarly (includeWrite m field) :=
    (m.resolveColumn_failsEarly field).bind fun _ => .ok _
  exact (FailsEarly.mapM entry t.entries).bind fun _ =>
    (FailsEarly.mapM included _).bind fun _ => .ok _

theorem ofMutation_failsEarly (change : Mutation) : FailsEarly (ofMutation m change) := by
  cases change with
  | template t => exact (templateWrites_failsEarly m t).bind fun _ => collect_failsEarly m _
  | projection p =>
    refine FailsEarly.bind (.mapM ?_ p.assignments) fun _ => collect_failsEarly m _
    rintro ⟨field, e⟩
    exact (m.resolveColumn_failsEarly field).bind fun _ =>
      (AssignedValue.ofOwnExpr_failsEarly m field e).bind fun _ => .ok _

theorem ofTransfer_failsEarly (source target : Mapping) (p : Projection) :
    FailsEarly (ofTransfer source target p) := by
  refine FailsEarly.bind (.mapM ?_ p.assignments) fun _ => collect_failsEarly target _
  rintro ⟨field, e⟩
  exact (target.resolveColumn_failsEarly field).bind fun _ =>
    (AssignedValue.ofExpr_failsEarly source e).bind fun _ => .ok _

end Assignment

namespace Plan

variable (d : Dialect) (kind : StatementKind) (m : Mapping) (condition : Option Condition)

theorem mutation_failsEarly (action : KeyedAction) (limit : Option UInt64) :
    FailsEarly (mutation d action kind m condition limit) := by
  unfold mutation
  split
  · exact .ok _
  · split
    · exact .ok _
    · split
      · exact .ok _
      · exact .error rfl

theorem transfer_failsEarly (target : Mapping) (set : AssignmentSet) (limit : Option UInt64) :
    FailsEarly (transfer d m target condition set limit) := by
  unfold transfer
  split
  · exact .ok _
  · split
    · exact .ok _
    · exact .error rfl

theorem build_failsEarly (set : Option AssignmentSet) (limit : Option UInt64) :
    FailsEarly (build d kind m condition set limit) := by
  have required : FailsEarly (requireAssignments d kind set) := by
    unfold requireAssignments
    split
    · exact .error rfl
    · split
      · exact .ok _
      · exact .error rfl
  cases kind with
  | delete => exact mutation_failsEarly d _ m condition _ _
  | update => exact required.bind fun _ => mutation_failsEarly d _ m condition _ _
  | insert target => exact required.bind fun _ => transfer_failsEarly d m condition target _ _

end Plan

namespace Query

theorem condition_failsEarly (q : Query) : FailsEarly q.condition := by
  unfold Query.condition
  split
  · exact .ok _
  · exact (Clause.ofFilter_failsEarly q.mapping _).bind fun _ => .ok _

variable (d : Dialect) (q : Query)

theorem deletePlan_failsEarly : FailsEarly (q.deletePlan d) :=
  q.condition_failsEarly.bind fun condition => Plan.build_failsEarly d _ _ condition _ _

theorem updatePlan_failsEarly (change : Mutation) : FailsEarly (q.updatePlan d change) :=
  q.condition_failsEarly.bind fun condition =>
    (Assignment.ofMutation_failsEarly q.mapping change).bind fun _ =>
      Plan.build_failsEarly d _ _ condition _ _

theorem insertPlan_failsEarly (target : Mapping) (p : Projection) :
    FailsEarly (q.insertPlan d target p) :=
  q.condition_failsEarly.bind fun condition =>
    (Assignment.ofTransfer_failsEarly q.mapping target p).bind fun _ =>
      Plan.build_failsEarly d _ _ condition _ _

end Query

end BulkDml
