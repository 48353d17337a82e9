import Mathlib.Data.List.Basic
import BulkDml.Assignment.Basic
import BulkDml.Proofs.Plan.Compiled

namespace BulkDml.Assignment

variable {m source target : Mapping} {writes : List FieldWrite} {assignments : List Assignment}

theorem ofMutation_eq_ok {change : Mutation} (compiled : ofMutation m change = .ok assignments) :
    ∃ writes, collect m writes = .ok assignments := by
  cases change with
  | template t =>
    obtain ⟨writes, _, collected⟩ := bind_eq_ok_iff.mp compiled
    exact ⟨writes, collected⟩
  | projection p =>
    obtain ⟨writes, _, collected⟩ := bind_eq_ok_iff.mp compiled
    exact ⟨writes, collected⟩

theorem ofTransfer_eq_ok {p : Projection}
    (compiled : ofTransfer source target p = .ok assignments) :
    ∃ writes, collect target writes = .ok assignments := by
  obtain ⟨writes, _, collected⟩ := bind_eq_ok_iff.mp compiled
  exact ⟨writes, collected⟩

theorem collect_eq_ok (collected : collect target writes = .ok assignments) :
    assignments ≠ [] ∧
      assignments = target.columns.filterMap fun c =>
        (lastWrite? writes c.field).map fun value => ⟨c.field, c.name, value⟩ := by
  unfold collect at collected
  dsimp only at collected
  split at collected
  · cases collected
  · next filled =>
    cases collected
    exact ⟨by simpa using filled, rfl⟩

theorem fields_sublist (collected : collect target writes = .ok assignments) :
    (assignments.map (·.field)).Sublist (target.columns.map (·.field)) := by
  obtain ⟨-, rfl⟩ := collect_eq_ok collected
  induction target.columns with
  | nil => exact .slnil
  | cons c columns ih =>
    cases written : lastWrite? writes c.field with
    | none => simpa [written] using ih.cons c.field
    | some value => simpa [written] using ih

/-- A change of every written value changes the last one, which is what counts. -/
theorem lastWrite?_map (change : String → AssignedValue → AssignedValue)
    (writes : List FieldWrite) (field : String) :
    lastWrite? (writes.map fun w => (w.1, change w.1 w.2)) field =
      (lastWrite? writes field).map (change field) := by
  rw [lastWrite?, lastWrite?, ← List.map_reverse, List.find?_map]
  change ((writes.reverse.find? (·.1 == field)).map _).map _ = _
  cases found : writes.reverse.find? (·.1 == field) with
  | none => rfl
  | some w =>
    have named : w.1 = field := by simpa using List.find?_some found
    simp [named]

theorem collect_map (change : String → AssignedValue → AssignedValue)
    {changed : Assignment → Assignment}
    (each : ∀ c ∈ target.columns, ∀ v,
      changed ⟨c.field, c.name, v⟩ = ⟨c.field, c.name, change c.field v⟩)
    (writes : List FieldWrite) :
    collect target (writes.map fun w => (w.1, change w.1 w.2)) =
      (collect target writes).map (List.map changed) := by
  have listed : (target.columns.filterMap fun c =>
        (lastWrite? (writes.map fun w => (w.1, change w.1 w.2)) c.field).map fun v =>
          (⟨c.field, c.name, v⟩ : Assignment)) =
      (target.columns.filterMap fun c =>
        (lastWrite? writes c.field).map fun v => ⟨c.field, c.name, v⟩).map changed := by
    rw [List.map_filterMap]
    refine List.filterMap_congr fun c member => ?_
    rw [lastWrite?_map, Option.map_map, Option.map_map]
    exact congrArg (Option.map · _) (funext fun v => (each c member v).symm)
  simp only [collect, listed, List.isEmpty_map]
  split <;> rfl

end BulkDml.Assignment
