import BulkDml.Proofs.Assignment.Compiled
import BulkDml.Proofs.Mapping.Lookup
import BulkDml.Proofs.Traversal

namespace BulkDml

def Latest {β : Type} (pairs : List (String × β)) (field : String) (b : β) : Prop :=
  ∃ before after, pairs = before ++ (field, b) :: after ∧ ∀ pair ∈ after, pair.1 ≠ field

namespace Latest

variable {β γ : Type} {pairs : List (String × β)} {field : String} {b : β}

theorem mem (latest : Latest pairs field b) : (field, b) ∈ pairs := by
  obtain ⟨before, after, rfl, -⟩ := latest
  simp

theorem cons_iff {pair : String × β} :
    Latest (pair :: pairs) field b ↔
      Latest pairs field b ∨ pair = (field, b) ∧ ∀ other ∈ pairs, other.1 ≠ field := by
  constructor
  · rintro ⟨before, after, split, none⟩
    rcases List.cons_eq_append_iff.mp split with ⟨-, same⟩ | ⟨rest, -, tail⟩
    · obtain ⟨rfl, rfl⟩ := List.cons.inj same
      exact .inr ⟨rfl, none⟩
    · exact .inl ⟨rest, after, tail, none⟩
  · rintro (⟨before, after, rfl, none⟩ | ⟨rfl, none⟩)
    · exact ⟨pair :: before, after, rfl, none⟩
    · exact ⟨[], pairs, rfl, none⟩

theorem exists_iff : (∃ b, Latest pairs field b) ↔ field ∈ pairs.map Prod.fst := by
  induction pairs with
  | nil => simp [Latest]
  | cons pair pairs ih =>
    rw [List.map_cons, List.mem_cons, ← ih]
    constructor
    · rintro ⟨b, latest⟩
      rcases cons_iff.mp latest with later | ⟨rfl, -⟩
      · exact .inr ⟨b, later⟩
      · exact .inl rfl
    · rintro (rfl | ⟨b, later⟩)
      · by_cases again : pair.1 ∈ pairs.map Prod.fst
        · obtain ⟨b, later⟩ := ih.mpr again
          exact ⟨b, cons_iff.mpr (.inl later)⟩
        · refine ⟨pair.2, cons_iff.mpr (.inr ⟨rfl, fun other member same => again ?_⟩)⟩
          exact same ▸ List.mem_map_of_mem member
      · exact ⟨b, cons_iff.mpr (.inl later)⟩

theorem unique {b' : β} (left : Latest pairs field b) (right : Latest pairs field b') : b = b' := by
  induction pairs with
  | nil => simp [Latest] at left
  | cons pair pairs ih =>
    rcases cons_iff.mp left with left | ⟨rfl, none⟩
    · rcases cons_iff.mp right with right | ⟨-, none⟩
      · exact ih left right
      · exact absurd rfl (none _ left.mem)
    · rcases cons_iff.mp right with right | ⟨same, -⟩
      · exact absurd rfl (none _ right.mem)
      · exact (Prod.mk.inj same).2

/-- Of two lists that pair by pair are for the same fields, the last pairs belong together. -/
theorem of_forall₂ {related : String × γ → String × β → Prop} {others : List (String × γ)}
    (lists : List.Forall₂ related others pairs) (fields : ∀ x y, related x y → x.1 = y.1)
    (latest : Latest pairs field b) :
    ∃ c, Latest others field c ∧ related (field, c) (field, b) := by
  induction lists with
  | nil => simp [Latest] at latest
  | @cons x y others pairs first rest ih =>
    have sameFields : others.map Prod.fst = pairs.map Prod.fst := by
      rw [← List.forall₂_eq_eq_eq, List.forall₂_map_left_iff, List.forall₂_map_right_iff]
      exact rest.imp fields
    rcases cons_iff.mp latest with later | ⟨rfl, none⟩
    · obtain ⟨c, last, together⟩ := ih later
      exact ⟨c, cons_iff.mpr (.inl last), together⟩
    · obtain ⟨named, c⟩ := x
      obtain rfl : named = field := fields _ _ first
      refine ⟨c, cons_iff.mpr (.inr ⟨rfl, fun other member same => ?_⟩), first⟩
      have among : named ∈ pairs.map Prod.fst := by
        rw [← sameFields, ← same]
        exact List.mem_map_of_mem member
      obtain ⟨pair, inside, again⟩ := List.mem_map.mp among
      exact none pair inside again

end Latest

namespace Assignment

variable {m source target : Mapping} {writes : List FieldWrite} {assignments : List Assignment}

theorem lastWrite?_eq_some_iff {field : String} {v : AssignedValue} :
    lastWrite? writes field = some v ↔ Latest writes field v := by
  rw [lastWrite?, Option.map_eq_some_iff]
  constructor
  · rintro ⟨⟨named, v⟩, found, rfl⟩
    obtain ⟨matching, after, before, split, none⟩ := List.find?_eq_some_iff_append.mp found
    obtain rfl : named = field := by simpa using matching
    refine ⟨before.reverse, after.reverse, ?_, by simpa using none⟩
    simpa using congrArg List.reverse split
  · rintro ⟨before, after, rfl, none⟩
    refine ⟨(field, v), List.find?_eq_some_iff_append.mpr ⟨by simp, after.reverse,
      before.reverse, by simp, by simpa using none⟩, rfl⟩

/-- The assignments that writes leave are those of the last values, to the columns of the fields. -/
theorem mem_of_collect (collected : collect target writes = .ok assignments) {a : Assignment} :
    a ∈ assignments ↔
      ∃ c ∈ target.columns, a = ⟨c.field, c.name, a.value⟩ ∧ Latest writes c.field a.value := by
  obtain ⟨-, rfl⟩ := collect_eq_ok collected
  simp only [List.mem_filterMap, Option.map_eq_some_iff, lastWrite?_eq_some_iff]
  constructor
  · rintro ⟨c, member, v, latest, rfl⟩
    exact ⟨c, member, rfl, latest⟩
  · rintro ⟨c, member, same, latest⟩
    exact ⟨c, member, a.value, latest, same.symm⟩

/-- Names of columns are distinct, so what is assigned to a column was written to its own field. -/
theorem latest_of_column (collected : collect target writes = .ok assignments) {c : Column}
    (member : c ∈ target.columns) {a : Assignment} (assigned : a ∈ assignments)
    (named : a.column = c.name) : Latest writes c.field a.value := by
  obtain ⟨other, place, same, latest⟩ := (mem_of_collect collected).mp assigned
  have column : a.column = other.name := congrArg Assignment.column same
  have names : other.name = c.name := column.symm.trans named
  obtain rfl : other = c := Mapping.eq_of_name place member names
  exact latest

theorem column_mem_iff (collected : collect target writes = .ok assignments) {c : Column}
    (member : c ∈ target.columns) :
    c.name ∈ assignments.map (·.column) ↔ c.field ∈ writes.map Prod.fst := by
  rw [List.mem_map]
  constructor
  · rintro ⟨a, assigned, named⟩
    exact Latest.exists_iff.mp ⟨a.value, latest_of_column collected member assigned named⟩
  · intro written
    obtain ⟨v, latest⟩ := Latest.exists_iff.mpr written
    exact ⟨⟨c.field, c.name, v⟩, (mem_of_collect collected).mpr ⟨c, member, rfl, latest⟩, rfl⟩

theorem collect_eq_error {e : Error} (failed : collect target writes = .error e) :
    e = .noAssignments target.table ∧ ∀ c ∈ target.columns, c.field ∉ writes.map Prod.fst := by
  unfold collect at failed
  dsimp only at failed
  split at failed
  · next none =>
    cases failed
    refine ⟨rfl, fun c member written => ?_⟩
    obtain ⟨v, latest⟩ := Latest.exists_iff.mpr written
    rw [List.isEmpty_iff, List.filterMap_eq_nil_iff] at none
    have unwritten := none c member
    rw [lastWrite?_eq_some_iff.mpr latest] at unwritten
    cases unwritten
  · cases failed

def fieldWrite (table : Mapping) (value : String → Expr → Except Error AssignedValue)
    (x : String × Expr) : Except Error FieldWrite := do
  let _ ← table.resolveColumn x.1
  return (x.1, ← value x.1 x.2)

theorem transferWrites_eq (source target : Mapping) (p : Projection) :
    transferWrites source target p =
      p.assignments.mapM (fieldWrite target fun _ => AssignedValue.ofExpr source) := rfl

theorem projectionWrites_eq (m : Mapping) (p : Projection) :
    projectionWrites m p = p.assignments.mapM (fieldWrite m (AssignedValue.ofOwnExpr m)) := rfl

variable {table : Mapping} {value : String → Expr → Except Error AssignedValue}

theorem fieldWrite_eq_ok_iff {x : String × Expr} {w : FieldWrite} :
    fieldWrite table value x = .ok w ↔
      x.1 = w.1 ∧ (∃ c ∈ table.columns, c.field = x.1) ∧ value x.1 x.2 = .ok w.2 := by
  rw [fieldWrite, bind_eq_ok_iff]
  constructor
  · rintro ⟨c, resolved, rest⟩
    obtain ⟨v, compiled, done⟩ := bind_eq_ok_iff.mp rest
    cases done
    exact ⟨rfl, ⟨c, table.resolveColumn_eq_ok_iff.mp resolved⟩, compiled⟩
  · rintro ⟨named, ⟨c, place⟩, compiled⟩
    refine ⟨c, table.resolveColumn_eq_ok_iff.mpr place, ?_⟩
    rw [compiled, named]
    rfl

theorem fieldWrite_eq_error {x : String × Expr} {e : Error}
    (failed : fieldWrite table value x = .error e) :
    (e = .unmappedField x.1 table.table ∧ ∀ c ∈ table.columns, c.field ≠ x.1) ∨
      value x.1 x.2 = .error e := by
  rcases bind_eq_error_iff.mp failed with unmapped | ⟨c, -, rest⟩
  · exact .inl (table.resolveColumn_eq_error_iff.mp unmapped)
  · rcases bind_eq_error_iff.mp rest with refused | ⟨v, -, done⟩
    · exact .inr refused
    · cases done

/-- Where writes are collected, each assignment holds the value of the field's last expression. -/
theorem latest_of_collect {xs : List (String × Expr)}
    (written : xs.mapM (fieldWrite table value) = .ok writes)
    (collected : collect table writes = .ok assignments) {a : Assignment}
    (member : a ∈ assignments) :
    ∃ c ∈ table.columns, a = ⟨c.field, c.name, a.value⟩ ∧
      ∃ e, Latest xs c.field e ∧ value c.field e = .ok a.value := by
  obtain ⟨c, place, same, latest⟩ := (mem_of_collect collected).mp member
  have lists := (mapM_eq_ok_iff.mp written).imp fun _ _ => fieldWrite_eq_ok_iff.mp
  obtain ⟨e, last, -, -, compiled⟩ := latest.of_forall₂ lists fun _ _ pair => pair.1
  exact ⟨c, place, same, e, last, compiled⟩

theorem field_mem_iff {xs : List (String × Expr)}
    (written : xs.mapM (fieldWrite table value) = .ok writes)
    (collected : collect table writes = .ok assignments) {field : String} :
    field ∈ assignments.map (·.field) ↔ field ∈ xs.map Prod.fst := by
  constructor
  · intro assigned
    obtain ⟨a, member, rfl⟩ := List.mem_map.mp assigned
    obtain ⟨c, -, same, e, last, -⟩ := latest_of_collect written collected member
    rw [congrArg Assignment.field same]
    exact Latest.exists_iff.mp ⟨e, last⟩
  · intro named
    obtain ⟨x, inside, rfl⟩ := List.mem_map.mp named
    obtain ⟨w, among, one⟩ := exists_ok_of_mapM written inside
    obtain ⟨same, ⟨c, place, own⟩, -⟩ := fieldWrite_eq_ok_iff.mp one
    obtain ⟨v, latest⟩ := Latest.exists_iff.mpr (List.mem_map_of_mem among)
    rw [← same, ← own] at latest
    have assigned : (⟨c.field, c.name, v⟩ : Assignment) ∈ assignments :=
      (mem_of_collect collected).mpr ⟨c, place, rfl, latest⟩
    exact List.mem_map.mpr ⟨_, assigned, own⟩

end Assignment

end BulkDml
