import BulkDml.Proofs.Store.Rows

namespace BulkDml

namespace Bulk

def mutated? : Bulk → Option Query
  | delete q => some q
  | update q _ => some q
  | insert .. => none

def change? (d : Dialect) : Bulk → Option RowChange
  | delete _ => some .delete
  | update q change =>
    (Assignment.ofMutation q.mapping change).toOption.map fun assignments =>
      .assign (assignments.map (Assignment.normal d))
  | insert .. => none

theorem plan_eq_ok {b : Bulk} {q : Query} (about : b.mutated? = some q) {d : Dialect} {plan : Plan}
    (compiled : b.plan d = .ok plan) :
    ∃ action kind condition, b.change? d = some (action.change d) ∧ action.Composed d ∧
      q.condition = .ok condition ∧
      Plan.mutation d action kind q.mapping condition q.limit? = .ok plan := by
  cases b with
  | delete q =>
    cases about
    obtain ⟨condition, filtered, built⟩ := Query.deletePlan_eq_ok compiled
    exact ⟨.delete, .delete, condition, rfl, by rintro set ⟨⟩, filtered, built⟩
  | update q change =>
    cases about
    obtain ⟨condition, assignments, filtered, assigned, built⟩ := Query.updatePlan_eq_ok compiled
    obtain ⟨writes, collected⟩ := Assignment.ofMutation_eq_ok assigned
    obtain ⟨filled, -⟩ := Assignment.collect_eq_ok collected
    have changes : change? d (update q change) =
        some ((KeyedAction.update ⟨d, assignments⟩).change d) := by
      simp [change?, assigned, Except.toOption, KeyedAction.change]
    refine ⟨.update ⟨d, assignments⟩, .update, condition, changes, ?_, filtered, built⟩
    rintro set ⟨⟩
    exact ⟨rfl, filled⟩
  | insert => cases about

end Bulk

namespace Query

def keyNames (q : Query) : List String := q.mapping.keyColumns.map (·.name)

theorem keyNames_ne_nil {q : Query} (hasKey : q.mapping.hasKey) : q.keyNames ≠ [] :=
  mt List.map_eq_nil_iff.mp (Mapping.keyColumns_ne_nil hasKey)

theorem limit?_taken {q : Query} {n : UInt64} (limited : q.limit? = some n) :
    q.taken = some n :=
  (Option.filter_eq_some_iff.mp limited).1

end Query

namespace TableView

variable {σ ρ : Type} (v : TableView σ ρ)

def belongs (q : Query) (r : ρ) : Bool :=
  q.filter.all fun f => (f.truth v.order v.bind q.mapping.columnName (v.get r)).holds

theorem satisfies_eq_belongs {q : Query} {condition : Option Condition}
    (filtered : q.condition = .ok condition) (r : ρ) :
    v.satisfies r (condition.map Condition.stated) = v.belongs q r := by
  unfold belongs
  obtain ⟨none, rfl⟩ | ⟨f, c, some, compiled, rfl⟩ := Query.condition_eq_ok filtered
  · rw [none]
    rfl
  · have normal := Filter.normal_of_compiled compiled
    rw [some, Option.all_some, ← normal.truth_eq, satisfies, Option.map_some, Option.all_some]
    change ((c.written.mapValues v.bind).truth _ _).holds = _
    rw [← Clause.mapValues_written, Clause.truth_written]

end TableView

theorem Backend.selectLimit_trailing {b : Backend} (keyed : b.dialect.mutationLimit = .keyed) :
    b.dialect.selectLimit = .trailing := by
  cases b with
  | sqlServer => cases keyed
  | _ => rfl

namespace TableLaws

variable {σ ρ : Type} [DecidableEq ρ] {c : Connection σ} {b : Backend} {q : Query}
  {v : TableView σ ρ}

theorem unlimited_exact (laws : TableLaws c b.dialect q.mapping.tableRef q.keyNames v)
    {action : KeyedAction} (composed : action.Composed b.dialect) {condition : Option Condition}
    (wellFormed : ∀ p ∈ condition, p.simplified.WellFormed) {count : UInt64} {s t : σ}
    (happens : (Exchange.execute
      ⟨b.dialect, Plan.mutationCommand action q.mapping.tableRef condition none⟩
      (.ok count)).Happens c s t)
    (enforced : v.KeyEnforced q.keyNames (v.rows s)) :
    let touched := v.scan s (condition.map Condition.stated)
    (v.rows t).Perm ((v.rows s).filterMap (v.mutate (action.change b.dialect) (· ∈ touched))) ∧
      count = touched.length.toUInt64 := by
  obtain ⟨counted, changed, _⟩ := laws.mutated_command composed wellFormed happens enforced
  have scanned := laws.scan_perm s (condition.map Condition.stated)
  refine ⟨?_, ?_⟩
  · rwa [mutate_chosen scanned] at changed
  · rw [counted, scanned.length_eq, List.countP_eq_length_filter]

/-- A mutation that succeeds, limited or not, has touched the first rows of its condition. -/
theorem protocol_exact (laws : TableLaws c b.dialect q.mapping.tableRef q.keyNames v)
    (keyed : b.dialect.mutationLimit = .keyed)
    (small : ∀ n, q.limit? = some n → n.toNat < 2 ^ 63) {action : KeyedAction}
    (composed : action.Composed b.dialect) {kind : StatementKind} {condition : Option Condition}
    (wellFormed : ∀ p ∈ condition, p.simplified.WellFormed) {plan : Plan}
    (built : Plan.mutation b.dialect action kind q.mapping condition q.limit? = .ok plan)
    {size : Nat} {xs : List Exchange} {count : UInt64}
    (protocol : Protocol size (.ok plan) xs (.ok count)) {s t : σ} (talk : Conversation c s xs t)
    (enforced : v.KeyEnforced q.keyNames (v.rows s))
    (survives : v.KeySurvives q.keyNames (v.rows s)) :
    let touched := upTo (q.limit?.map UInt64.toNat) (v.scan s (condition.map Condition.stated))
    (v.rows t).Perm ((v.rows s).filterMap (v.mutate (action.change b.dialect) (· ∈ touched))) ∧
      count = touched.length.toUInt64 := by
  cases limit : q.limit? with
  | none =>
    rw [limit, Plan.mutation_unlimited] at built
    cases built
    cases protocol with
    | single compiled =>
      cases compiled
      exact laws.unlimited_exact composed wellFormed talk.of_single enforced
    | keyed compiled => cases compiled
  | some n =>
    rw [limit] at built
    obtain ⟨hasKey, rfl⟩ := Plan.mutation_keyed keyed built
    cases protocol with
    | single compiled => cases compiled
    | keyed compiled inside =>
      cases compiled
      exact laws.keyed_exact rfl composed (Query.keyNames_ne_nil hasKey)
        (Backend.selectLimit_trailing keyed) wellFormed (small n limit) inside talk enforced
        survives

end TableLaws

namespace Session

variable {σ ρ : Type} [DecidableEq ρ]

/-- What a delete or an update was compiled to where it reports a number of rows. -/
theorem perform_counted (s : Session σ) {b : Bulk} {q : Query} (about : b.mutated? = some q)
    {before : Progress σ} {count : UInt64}
    (ended : ((s.perform b).on before).1 = .ok (some count)) :
    ∃ plan xs, b.plan s.dialect = .ok plan ∧
      Protocol s.config.maxKeysPerStatement.toNat (.ok plan) xs (.ok count) ∧
      Conversation s.connection before.state xs ((s.perform b).on before).2.state := by
  obtain ⟨xs, result, protocol, outcome, talk⟩ := s.perform_protocol b before
  rw [outcome] at ended
  cases result with
  | error e => cases ended
  | ok rows =>
    have counted : rows = count := by
      cases b with
      | insert => cases about
      | _ =>
        cases ended
        rfl
    subst counted
    cases planned : b.plan s.dialect with
    | error e =>
      rw [planned] at protocol
      cases protocol with
      | single compiled => cases compiled
      | keyed compiled => cases compiled
    | ok plan => exact ⟨plan, xs, rfl, planned ▸ protocol, talk⟩

/-- A delete or an update that succeeds has changed exactly the first rows of its query, each of
them once, and reports their number, also where its limit needs keys. -/
theorem perform_exact (s : Session σ) (keyed : s.dialect.mutationLimit = .keyed) {b : Bulk}
    {q : Query} (about : b.mutated? = some q) (v : TableView σ ρ)
    (laws : TableLaws s.connection s.dialect q.mapping.tableRef q.keyNames v)
    (before : Progress σ) (enforced : v.KeyEnforced q.keyNames (v.rows before.state))
    (survives : v.KeySurvives q.keyNames (v.rows before.state))
    (small : ∀ n, q.taken = some n → n.toNat < 2 ^ 63) {count : UInt64}
    (ended : ((s.perform b).on before).1 = .ok (some count)) :
    ∃ change condition, b.change? s.dialect = some change ∧ q.condition = .ok condition ∧
      let matching := v.scan before.state (condition.map Condition.stated)
      let touched := upTo (q.limit?.map UInt64.toNat) matching
      let m := (v.rows before.state).countP (v.belongs q)
      matching.Perm ((v.rows before.state).filter (v.belongs q)) ∧
        (∀ n, q.limit? = some n → count.toNat = min n.toNat m ∧
          touched = matching.take count.toNat) ∧
        (q.limit? = none → count = m.toUInt64 ∧ touched = matching) ∧
        (v.rows ((s.perform b).on before).2.state).Perm
          ((v.rows before.state).filterMap (v.mutate change (· ∈ touched))) := by
  obtain ⟨plan, xs, planned, protocol, talk⟩ := s.perform_counted about ended
  obtain ⟨action, kind, condition, changes, composed, filtered, built⟩ :=
    Bulk.plan_eq_ok about planned
  obtain ⟨-, wellFormed⟩ := Query.bound_condition filtered
  obtain ⟨changed, counted⟩ := laws.protocol_exact keyed
    (fun n limit => small n (Query.limit?_taken limit)) composed wellFormed built protocol talk
    enforced survives
  refine ⟨_, condition, changes, filtered, ?_⟩
  intro matching touched m
  have same : (v.satisfies · (condition.map Condition.stated)) = v.belongs q :=
    funext (v.satisfies_eq_belongs filtered)
  have scanned : matching.Perm ((v.rows before.state).filter (v.belongs q)) :=
    same ▸ laws.scan_perm before.state (condition.map Condition.stated)
  have total : matching.length = m := by
    rw [scanned.length_eq, ← List.countP_eq_length_filter]
  refine ⟨scanned, ?_, ?_, changed⟩
  · intro n limit
    have first : touched = matching.take n.toNat := by simp [touched, limit, upTo]
    have length : touched.length = min n.toNat m := by rw [first, List.length_take, total]
    have exact : count.toNat = min n.toNat m := by
      rw [counted]
      change touched.length % 2 ^ 64 = _
      have := small n (Query.limit?_taken limit)
      -- No more rows were counted than the limit has, so the count did not wrap.
      omega
    refine ⟨exact, ?_⟩
    rw [first, exact, ← total, List.take_eq_take_iff]
    omega
  · intro unlimited
    have all : touched = matching := by simp [touched, unlimited, upTo]
    exact ⟨by rw [counted, ← total, ← all], all⟩

section Example

open Store

def firstTwo : Query := (Query.all keyedTable).take 2

def movingDown : Bulk :=
  .update firstTwo (.projection ⟨[("k", .binary (.field "k") .sub (.param (.integer 1)))]⟩)

def closeRows : Database :=
  { Database.new with tables := [⟨"t", [⟨2, .text "a"⟩, ⟨3, .text "b"⟩, ⟨5, .text "c"⟩]⟩] }

/-- The first two rows move, one key at a time, and the second one takes the key of the first. -/
theorem perform_exact_movingDown :
    let view := tableView keyedTable.tableRef
    let before : Progress (Handle Database) := ⟨handle closeRows, []⟩
    let after := (oneKeyAtATime.perform movingDown).on before
    view.KeyEnforced firstTwo.keyNames (view.rows before.state) ∧
      view.KeySurvives firstTwo.keyNames (view.rows before.state) ∧
      after.1 = .ok (some 2) ∧
      ∃ change, movingDown.change? oneKeyAtATime.dialect = some change ∧
        (view.rows after.2.state).Perm ((view.rows before.state).filterMap
          (view.mutate change (· ∈ [⟨2, .text "a"⟩, ⟨3, .text "b"⟩]))) := by
  intro view before after
  have rows : view.rows before.state = closeRows.rowsOf keyedTable.tableRef := rfl
  have enforced : view.KeyEnforced firstTwo.keyNames (view.rows before.state) := by
    rw [rows]
    exact keyEnforced_iff.mpr (by decide +kernel)
  have survives : view.KeySurvives firstTwo.keyNames (view.rows before.state) := keySurvives _
  have reports : (match after.1 with | .ok rows => rows | .error _ => none) = some 2 := by
    decide +kernel
  have ended : after.1 = .ok (some 2) := by
    cases outcome : after.1 with
    | error e =>
      rw [outcome] at reports
      cases reports
    | ok rows =>
      rw [outcome] at reports
      exact congrArg _ reports
  refine ⟨enforced, survives, ended, ?_⟩
  obtain ⟨change, condition, changes, filtered, _, _, _, changed⟩ :=
    perform_exact oneKeyAtATime rfl (b := movingDown) rfl view (tableLaws _) before enforced
      survives (by rintro n ⟨⟩; decide) ended
  cases filtered
  have touched : upTo (firstTwo.limit?.map UInt64.toNat) (view.scan before.state none) =
      [⟨2, .text "a"⟩, ⟨3, .text "b"⟩] := by decide +kernel
  rw [Option.map_none, touched] at changed
  exact ⟨change, changes, changed⟩

end Example

end Session

end BulkDml
