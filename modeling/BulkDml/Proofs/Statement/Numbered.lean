import BulkDml.Proofs.Assignment.Compiled
import BulkDml.Proofs.Session.Protocol
import BulkDml.Proofs.Statement.Tokens

namespace BulkDml

structure Request.Binds (d : Dialect) (values : List Value) (r : Request) : Prop where
  dialect : r.dialect = d
  numbers : d.Numbers r.statement
  params : r.statement.params = values

/-- Its statements bind what is assigned and then what is restricted, with the keys in place of the
restriction where rows are mutated by their keys. -/
def Plan.Binds (d : Dialect) (assigned restricted : List Value) : Plan → Prop
  | .single r => r.Binds d (assigned ++ restricted)
  | .keyed p =>
    p.selectKeys.Binds d restricted ∧
      ∀ keys : List (List Value), (∀ key ∈ keys, key.length = p.keyColumns.length) →
        ∃ r, p.mutationFor keys = .ok r ∧ r.Binds d (assigned ++ keys.flatten)

theorem Request.binds_bound {b : Backend} {c : Command} (composed : c.Composed b.dialect) :
    Request.Binds b.dialect c.bound ⟨b.dialect, c⟩ :=
  have numbered := Request.statement_numbered composed
  ⟨rfl, numbered.1, numbered.2⟩

def KeyedAction.set? : KeyedAction → Option AssignmentSet
  | delete => none
  | update set => some set

namespace Query

def bound (q : Query) : List Value := q.filter.elim [] Filter.bound

theorem bound_condition {q : Query} {condition : Option Condition}
    (filtered : q.condition = .ok condition) :
    condition.elim [] Condition.bound = q.bound ∧ ∀ p ∈ condition, p.simplified.WellFormed := by
  unfold bound
  obtain ⟨none, rfl⟩ | ⟨f, c, some, compiled, rfl⟩ := condition_eq_ok filtered
  · rw [none]
    exact ⟨rfl, nofun⟩
  · have normal := Filter.normal_of_compiled compiled
    rw [some]
    refine ⟨Clause.bound_of_normal normal, ?_⟩
    rintro p ⟨⟩
    exact normal.listed

end Query

namespace Plan

variable {b : Backend} {m : Mapping} {condition : Option Condition} {limit : Option UInt64}
  {plan : Plan}

theorem composed_mutationCommand {d : Dialect} {action : KeyedAction} {table : TableRef}
    {clause : Option RowLimit} (dialect : ∀ set ∈ action.set?, set.dialect = d)
    (wellFormed : ∀ p ∈ condition, p.simplified.WellFormed) :
    (mutationCommand action table condition clause).Composed d := by
  have parts : (mutationCommand action table condition clause).isRaw = false ∧
      (mutationCommand action table condition clause).set? = action.set? ∧
      (mutationCommand action table condition clause).condition = condition := by
    cases action <;> exact ⟨rfl, rfl, rfl⟩
  obtain ⟨notRaw, assigned, restricted⟩ := parts
  exact ⟨notRaw, by rwa [assigned], by rwa [restricted]⟩

theorem bound_mutationCommand (action : KeyedAction) (table : TableRef)
    (clause : Option RowLimit) :
    (mutationCommand action table condition clause).bound =
      action.set?.elim [] (Assignment.bound ·.assignments) ++
        condition.elim [] Condition.bound := by
  cases action <;> rfl

theorem mutation_binds {action : KeyedAction} {kind : StatementKind}
    (dialect : ∀ set ∈ action.set?, set.dialect = b.dialect)
    (wellFormed : ∀ p ∈ condition, p.simplified.WellFormed)
    (built : mutation b.dialect action kind m condition limit = .ok plan) :
    plan.Binds b.dialect (action.set?.elim [] (Assignment.bound ·.assignments))
      (condition.elim [] Condition.bound) := by
  have binds {c : Option Condition} (clause : Option RowLimit)
      (wellFormed : ∀ p ∈ c, p.simplified.WellFormed) :
      Request.Binds b.dialect _ ⟨b.dialect, mutationCommand action m.tableRef c clause⟩ :=
    Request.binds_bound (composed_mutationCommand dialect wellFormed)
  simp only [bound_mutationCommand] at binds
  obtain ⟨-, rfl⟩ | ⟨n, -, ⟨clause, -, rfl⟩ | ⟨-, hasKey, rfl⟩⟩ := mutation_eq_ok built
  · exact binds none wellFormed
  · exact binds (some clause) wellFormed
  · have selection : Command.Composed b.dialect (.selectKeys (m.keyColumns.map (·.name)) m.tableRef
        condition (RowLimit.ofStyle? b.dialect.selectLimit n)) :=
      ⟨rfl, by rintro set ⟨⟩, wellFormed⟩
    refine ⟨Request.binds_bound selection, ?_⟩
    intro keys widths
    have columns : m.keyColumns.map (·.name) ≠ [] :=
      mt List.map_eq_nil_iff.mp (Mapping.keyColumns_ne_nil hasKey)
    -- The list of keys may be empty; then the condition is the one that never holds.
    have chosen : ∀ p ∈ some (Condition.keys (m.keyColumns.map (·.name)) keys),
        p.simplified.WellFormed := by
      rintro p ⟨⟩
      exact Condition.wellFormed_keys columns widths
    refine ⟨_, KeyedPlan.mutationFor_eq_ok widths, ?_⟩
    rw [KeyedPlan.mutationDialect, Dialect.withNativeMarkers_dialect]
    exact binds none chosen

theorem transfer_binds {target : Mapping} {assignments : List Assignment}
    (wellFormed : ∀ p ∈ condition, p.simplified.WellFormed)
    (built : transfer b.dialect m target condition ⟨b.dialect, assignments⟩ limit = .ok plan) :
    plan.Binds b.dialect (Assignment.bound assignments) (condition.elim [] Condition.bound) := by
  have composed (clause : Option RowLimit) : Command.Composed b.dialect
      (.insert target.tableRef ⟨b.dialect, assignments⟩ m.tableRef condition clause) := by
    refine ⟨rfl, ?_, wellFormed⟩
    rintro set ⟨⟩
    rfl
  obtain ⟨-, rfl⟩ | ⟨n, clause, -, -, rfl⟩ := transfer_eq_ok built
  · exact Request.binds_bound (composed none)
  · exact Request.binds_bound (composed (some clause))

end Plan

namespace Bulk

def query : Bulk → Query
  | delete q => q
  | update q _ => q
  | insert q _ _ => q

def target : Bulk → Mapping
  | delete q => q.mapping
  | update q _ => q.mapping
  | insert _ target _ => target

def assignments : Bulk → Except Error (List Assignment)
  | delete _ => .ok []
  | update q change => Assignment.ofMutation q.mapping change
  | insert q target p => Assignment.ofTransfer q.mapping target p

/-- Every statement of a plan that compiles binds the values of its assignments, which are in the
order of the table's columns, and then those of its filter or of the given keys. -/
theorem plan_binds (b : Backend) {o : Bulk} {plan : Plan}
    (compiled : o.plan b.dialect = .ok plan) :
    ∃ assignments, o.assignments = .ok assignments ∧
      (assignments.map (·.field)).Sublist (o.target.columns.map (·.field)) ∧
      plan.Binds b.dialect (Assignment.bound assignments) o.query.bound := by
  cases o with
  | delete q =>
    obtain ⟨condition, filtered, built⟩ := Query.deletePlan_eq_ok compiled
    obtain ⟨bound, wellFormed⟩ := Query.bound_condition filtered
    have dialect : ∀ set ∈ KeyedAction.delete.set?, set.dialect = b.dialect := by rintro set ⟨⟩
    have binds := Plan.mutation_binds dialect wellFormed built
    rw [bound] at binds
    exact ⟨[], rfl, List.nil_sublist _, binds⟩
  | update q change =>
    obtain ⟨condition, assignments, filtered, assigned, built⟩ := Query.updatePlan_eq_ok compiled
    obtain ⟨bound, wellFormed⟩ := Query.bound_condition filtered
    obtain ⟨writes, collected⟩ := Assignment.ofMutation_eq_ok assigned
    have dialect : ∀ set ∈ (KeyedAction.update ⟨b.dialect, assignments⟩).set?,
        set.dialect = b.dialect := by
      rintro set ⟨⟩
      rfl
    have binds := Plan.mutation_binds dialect wellFormed built
    rw [bound] at binds
    exact ⟨assignments, assigned, Assignment.fields_sublist collected, binds⟩
  | insert q target p =>
    obtain ⟨condition, assignments, filtered, assigned, built⟩ := Query.insertPlan_eq_ok compiled
    obtain ⟨bound, wellFormed⟩ := Query.bound_condition filtered
    obtain ⟨writes, collected⟩ := Assignment.ofTransfer_eq_ok assigned
    have binds := Plan.transfer_binds wellFormed built
    rw [bound] at binds
    exact ⟨assignments, assigned, Assignment.fields_sublist collected, binds⟩

def markerNames : Mapping :=
  ⟨⟨some "?1", "t$1", [⟨"a", "\" = ?2", .integer, true⟩, ⟨"b", "@p0", .text, false⟩]⟩, by decide⟩

theorem plan_binds_markerNames :
    let filter := Filter.and (.compare "b" .ne (.value .null))
      (.isIn "b" [.text "x", .null, .text "y"])
    let change := Mutation.projection ⟨[("b", .binary (.field "b") .add (.param (.text "z")))]⟩
    let o := update ⟨markerNames, some filter, some 5⟩ change
    ∃ plan, o.plan Backend.sqlite.dialect = .ok plan ∧
      ∃ assignments, o.assignments = .ok assignments ∧
        (assignments.map (·.field)).Sublist (o.target.columns.map (·.field)) ∧
        plan.Binds Backend.sqlite.dialect (Assignment.bound assignments) o.query.bound := by
  intro filter change o
  have compiled : o.plan Backend.sqlite.dialect = .ok (.keyed
      { dialect := Backend.sqlite.dialect
        action := .update ⟨Backend.sqlite.dialect,
          [⟨"b", "@p0", .derived .concat (.param (.text "z"))⟩]⟩
        table := ⟨some "?1", "t$1"⟩
        keyColumns := ["\" = ?2"]
        condition := some (.clause (.and (.isNotNull "@p0")
          (.member "@p0" [.text "x", .text "y"] true)))
        limit := 5 }) := by
    rfl
  exact ⟨_, compiled, plan_binds .sqlite compiled⟩

end Bulk

end BulkDml
