import BulkDml.Query

namespace BulkDml

theorem bind_eq_ok_iff {ε α β : Type} {x : Except ε α} {next : α → Except ε β} {b : β} :
    (x >>= next) = .ok b ↔ ∃ a, x = .ok a ∧ next a = .ok b := by
  cases x with
  | error e => simp [bind, Except.bind]
  | ok a => simp [bind, Except.bind]

def Command.isRaw : Command → Bool
  | raw _ => true
  | _ => false

theorem Request.statement_eq_render {d : Dialect} {c : Command} (notRaw : c.isRaw = false) :
    Request.statement ⟨d, c⟩ = d.render (c.toFragment d) := by
  cases c with
  | raw => cases notRaw
  | _ => rfl

theorem Mapping.keyColumns_ne_nil {m : Mapping} (hasKey : m.hasKey) : m.keyColumns ≠ [] := by
  obtain ⟨column, listed, key⟩ := List.any_eq_true.mp hasKey
  exact List.ne_nil_of_mem (List.mem_filter.mpr ⟨listed, key⟩)

namespace KeyedPlan

variable {p : KeyedPlan}

theorem mutationFor_eq_ok {keys : List (List Value)}
    (widths : ∀ key ∈ keys, key.length = p.keyColumns.length) :
    p.mutationFor keys = .ok ⟨p.mutationDialect,
      Plan.mutationCommand p.action p.table (some (.keys p.keyColumns keys)) none⟩ := by
  have fits : keys.find? (·.length != p.keyColumns.length) = none :=
    List.find?_eq_none.mpr fun key member => by simp [widths key member]
  rw [mutationFor, fits]
  cases p.action <;> rfl

theorem mutationFor_eq {keys : List (List Value)} {r : Request}
    (written : p.mutationFor keys = .ok r) :
    r = ⟨p.mutationDialect,
      Plan.mutationCommand p.action p.table (some (.keys p.keyColumns keys)) none⟩ := by
  unfold mutationFor at written
  split at written
  · cases written
  · cases written
    cases p.action <;> rfl

theorem mutationFor_isRaw {keys : List (List Value)} {r : Request}
    (written : p.mutationFor keys = .ok r) : r.command.isRaw = false := by
  rw [mutationFor_eq written]
  cases p.action <;> rfl

end KeyedPlan

namespace Plan

variable {d : Dialect} {m : Mapping} {condition : Option Condition} {limit : Option UInt64}
  {plan : Plan}

/-- A mutation is limited by a clause where the dialect has one, and by its keys elsewhere. -/
theorem mutation_eq_ok {action : KeyedAction} {kind : StatementKind}
    (built : mutation d action kind m condition limit = .ok plan) :
    (limit = none ∧ plan = .single ⟨d, mutationCommand action m.tableRef condition none⟩) ∨
      ∃ n, limit = some n ∧
        ((∃ clause, RowLimit.ofStyle? d.mutationLimit n = some clause ∧
            plan = .single ⟨d, mutationCommand action m.tableRef condition (some clause)⟩) ∨
          (RowLimit.ofStyle? d.mutationLimit n = none ∧ m.hasKey ∧
            plan = .keyed ⟨d, action, m.tableRef, m.keyColumns.map (·.name), condition, n⟩)) := by
  unfold mutation at built
  split at built
  · cases built
    exact .inl ⟨rfl, rfl⟩
  · next n =>
    refine .inr ⟨n, rfl, ?_⟩
    split at built
    · next clause style =>
      cases built
      exact .inl ⟨clause, style, rfl⟩
    · next style =>
      split at built
      · next key =>
        cases built
        exact .inr ⟨style, key, rfl⟩
      · cases built

theorem transfer_eq_ok {target : Mapping} {set : AssignmentSet}
    (built : transfer d m target condition set limit = .ok plan) :
    (limit = none ∧
        plan = .single ⟨d, .insert target.tableRef set m.tableRef condition none⟩) ∨
      ∃ n clause, limit = some n ∧ RowLimit.ofStyle? d.selectLimit n = some clause ∧
        plan = .single ⟨d, .insert target.tableRef set m.tableRef condition (some clause)⟩ := by
  unfold transfer at built
  split at built
  · cases built
    exact .inl ⟨rfl, rfl⟩
  · next n =>
    split at built
    · next clause style =>
      cases built
      exact .inr ⟨n, clause, rfl, style, rfl⟩
    · cases built

theorem mutation_isRaw {action : KeyedAction} {kind : StatementKind} {r : Request}
    (built : mutation d action kind m condition limit = .ok (.single r)) :
    r.command.isRaw = false := by
  have notRaw (clause : Option RowLimit) :
      (mutationCommand action m.tableRef condition clause).isRaw = false := by
    cases action <;> rfl
  obtain ⟨-, single⟩ | ⟨n, -, ⟨clause, -, single⟩ | ⟨-, -, keyed⟩⟩ := mutation_eq_ok built
  · cases single
    exact notRaw none
  · cases single
    exact notRaw (some clause)
  · cases keyed

theorem statement_mutationCommand (action : KeyedAction) (table : TableRef) (c : Condition) :
    Request.statement ⟨d, mutationCommand action table (some c) none⟩ =
      d.render (((mutationCommand action table none none).head d).pushSql " WHERE " ++
        c.toFragment d) := by
  cases action <;> simp [mutationCommand, Request.statement, Command.toFragment,
    Command.head, Command.condition, Command.limit, Condition.appendTo, RowLimit.atEnd,
    Fragment.pushSql]

theorem mutation_unlimited {action : KeyedAction} {kind : StatementKind} :
    mutation d action kind m condition none =
      .ok (.single ⟨d, mutationCommand action m.tableRef condition none⟩) := rfl

/-- Where a mutation cannot be limited, a limit gives a keyed plan. -/
theorem mutation_keyed (keyed : d.mutationLimit = .keyed) {action : KeyedAction}
    {kind : StatementKind} {n : UInt64}
    (built : mutation d action kind m condition (some n) = .ok plan) :
    m.hasKey ∧
      plan = .keyed ⟨d, action, m.tableRef, m.keyColumns.map (·.name), condition, n⟩ := by
  obtain ⟨absent, -⟩ | ⟨_, same, limited⟩ := mutation_eq_ok built
  · cases absent
  · cases same
    obtain ⟨clause, style, -⟩ | ⟨-, key, plan⟩ := limited
    · rw [keyed] at style
      cases style
    · exact ⟨key, plan⟩

end Plan

namespace Query

variable {d : Dialect} {q : Query} {plan : Plan}

theorem condition_eq_ok {condition : Option Condition} (filtered : q.condition = .ok condition) :
    (q.filter = none ∧ condition = none) ∨
      ∃ f c, q.filter = some f ∧ Clause.ofFilter q.mapping f = .ok c ∧
        condition = some (.clause c) := by
  unfold Query.condition at filtered
  split at filtered
  · next none =>
    cases filtered
    exact .inl ⟨none, rfl⟩
  · next f some =>
    obtain ⟨c, compiled, done⟩ := bind_eq_ok_iff.mp filtered
    cases done
    exact .inr ⟨f, c, some, compiled, rfl⟩

theorem limit?_filter (q : Query) : q.limit?.filter (· > 0) = q.limit? := by
  rw [limit?, Option.filter_filter]
  simp

theorem deletePlan_eq_ok (compiled : q.deletePlan d = .ok plan) :
    ∃ condition, q.condition = .ok condition ∧
      Plan.mutation d .delete .delete q.mapping condition q.limit? = .ok plan := by
  obtain ⟨condition, filtered, built⟩ := bind_eq_ok_iff.mp compiled
  exact ⟨condition, filtered, by simpa [Plan.delete, Plan.build, limit?_filter] using built⟩

theorem updatePlan_eq_ok {change : Mutation} (compiled : q.updatePlan d change = .ok plan) :
    ∃ condition assignments, q.condition = .ok condition ∧
      Assignment.ofMutation q.mapping change = .ok assignments ∧
      Plan.mutation d (.update ⟨d, assignments⟩) .update q.mapping condition q.limit? =
        .ok plan := by
  obtain ⟨condition, filtered, rest⟩ := bind_eq_ok_iff.mp compiled
  obtain ⟨assignments, assigned, built⟩ := bind_eq_ok_iff.mp rest
  refine ⟨condition, assignments, filtered, assigned, ?_⟩
  simpa [Plan.update, Plan.build, Plan.requireAssignments, limit?_filter, bind, Except.bind]
    using built

theorem insertPlan_eq_ok {target : Mapping} {p : Projection}
    (compiled : q.insertPlan d target p = .ok plan) :
    ∃ condition assignments, q.condition = .ok condition ∧
      Assignment.ofTransfer q.mapping target p = .ok assignments ∧
      Plan.transfer d q.mapping target condition ⟨d, assignments⟩ q.limit? = .ok plan := by
  obtain ⟨condition, filtered, rest⟩ := bind_eq_ok_iff.mp compiled
  obtain ⟨assignments, assigned, built⟩ := bind_eq_ok_iff.mp rest
  refine ⟨condition, assignments, filtered, assigned, ?_⟩
  simpa [Plan.insert, Plan.build, Plan.requireAssignments, limit?_filter, bind, Except.bind]
    using built

theorem insertPlan_single {target : Mapping} {p : Projection}
    (compiled : q.insertPlan d target p = .ok plan) :
    ∃ r, plan = .single r ∧ r.command.isRaw = false := by
  obtain ⟨condition, assignments, -, -, built⟩ := insertPlan_eq_ok compiled
  obtain ⟨-, single⟩ | ⟨n, clause, -, -, single⟩ := Plan.transfer_eq_ok built
  · exact ⟨_, single, rfl⟩
  · exact ⟨_, single, rfl⟩

end Query

end BulkDml
