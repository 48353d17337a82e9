import BulkDml.Mapping.Basic

namespace BulkDml

namespace MappingDraft

def NamesSound (before columns : List Column) : Prop :=
  (∀ c ∈ columns, c.field ≠ "" ∧ c.name ≠ "") ∧
    ((before ++ columns).map Column.field).Nodup ∧ ((before ++ columns).map Column.name).Nodup

theorem columnFault?_eq_none_iff (table : String) {before columns : List Column}
    (fields : (before.map Column.field).Nodup) (names : (before.map Column.name).Nodup) :
    columnFault? table before columns = none ↔ NamesSound before columns := by
  induction columns generalizing before with
  | nil => simp [columnFault?, NamesSound, fields, names]
  | cons c rest ih =>
    have moved : NamesSound before (c :: rest) ↔
        (c.field ≠ "" ∧ c.name ≠ "") ∧ NamesSound (before ++ [c]) rest := by
      simp [NamesSound, and_assoc]
    rw [moved, columnFault?]
    by_cases blank : c.field = "" ∨ c.name = ""
    · simp only [blank, if_true, reduceCtorEq, false_iff]
      grind
    by_cases field : c.field ∈ before.map Column.field
    · simp only [blank, field, if_true, if_false, reduceCtorEq, false_iff]
      rintro ⟨-, -, distinct, -⟩
      rw [List.append_assoc, List.map_append] at distinct
      grind
    by_cases name : c.name ∈ before.map Column.name
    · simp only [blank, field, name, if_true, if_false, reduceCtorEq, false_iff]
      rintro ⟨-, -, -, distinct⟩
      rw [List.append_assoc, List.map_append] at distinct
      grind
    simp only [blank, field, name, if_false]
    rw [ih (by grind) (by grind)]
    grind

theorem fault?_eq_none_iff (d : MappingDraft) :
    d.fault? = none ↔ d.table ≠ "" ∧ d.columns ≠ [] ∧ NamesSound [] d.columns := by
  rw [← columnFault?_eq_none_iff d.table (by simp) (by simp), fault?]
  by_cases blank : d.table = ""
  · simp [blank]
  · by_cases none : d.columns = [] <;> simp [blank, none]

end MappingDraft

namespace Mapping

theorem namesSound (m : Mapping) : MappingDraft.NamesSound [] m.columns :=
  (m.draft.fault?_eq_none_iff.mp m.sound).2.2

theorem fields_nodup (m : Mapping) : (m.columns.map Column.field).Nodup := m.namesSound.2.1

theorem names_nodup (m : Mapping) : (m.columns.map Column.name).Nodup := m.namesSound.2.2

/-- The column at a position is the one that its field resolves to, with that position. -/
theorem position?_eq_some_iff (m : Mapping) {field : String} {position : Nat} :
    m.position? field = some position ↔ ∃ c, m.columns[position]? = some c ∧ c.field = field := by
  have distinct := m.fields_nodup
  rw [position?, List.findIdx?_eq_some_iff_getElem]
  constructor
  · rintro ⟨inside, found, -⟩
    exact ⟨m.columns[position], by simp [inside], by simpa using found⟩
  · rintro ⟨c, at_, named⟩
    obtain ⟨inside, rfl⟩ := List.getElem?_eq_some_iff.mp at_
    refine ⟨inside, by simpa using named, fun earlier before => ?_⟩
    simp only [beq_iff_eq]
    have := List.pairwise_iff_getElem.mp distinct earlier position (by simp; omega) (by simpa)
      before
    simp only [List.getElem_map] at this
    grind

theorem column?_eq_bind (m : Mapping) (field : String) :
    m.column? field = (m.position? field).bind (m.columns[·]?) :=
  List.find?_eq_bind_findIdx?_getElem?

theorem column?_eq_some_iff (m : Mapping) {field : String} {c : Column} :
    m.column? field = some c ↔ c ∈ m.columns ∧ c.field = field := by
  rw [column?_eq_bind, Option.bind_eq_some_iff]
  constructor
  · rintro ⟨position, found, at_⟩
    obtain ⟨d, placed, named⟩ := m.position?_eq_some_iff.mp found
    obtain rfl : d = c := Option.some.inj (placed.symm.trans at_)
    exact ⟨List.mem_of_getElem? placed, named⟩
  · rintro ⟨member, named⟩
    obtain ⟨position, placed⟩ := List.mem_iff_getElem?.mp member
    exact ⟨position, m.position?_eq_some_iff.mpr ⟨c, placed, named⟩, placed⟩

/-- The pass over the numbered columns stops at the column of the field, which no other has. -/
theorem find?_zipIdx_eq_some_iff (m : Mapping) {field : String} {position : Nat} {c : Column} :
    m.columns.zipIdx.find? (·.1.field == field) = some (c, position) ↔
      m.columns[position]? = some c ∧ c.field = field := by
  have sound : ∀ {d : Column} {n : Nat},
      m.columns.zipIdx.find? (·.1.field == field) = some (d, n) →
        m.columns[n]? = some d ∧ d.field = field := fun found =>
    ⟨List.mk_mem_zipIdx_iff_getElem?.mp (List.mem_of_find?_eq_some found),
      by simpa using List.find?_some found⟩
  refine ⟨sound, fun placed => ?_⟩
  cases found : m.columns.zipIdx.find? (·.1.field == field) with
  | none =>
    have unnamed := List.find?_eq_none.mp found _ (List.mk_mem_zipIdx_iff_getElem?.mpr placed.1)
    simp [placed.2] at unnamed
  | some entry =>
    obtain ⟨d, n⟩ := entry
    have first := m.position?_eq_some_iff.mpr ⟨d, sound found⟩
    have second := m.position?_eq_some_iff.mpr ⟨c, placed⟩
    obtain rfl : n = position := Option.some.inj (first.symm.trans second)
    obtain rfl : d = c := Option.some.inj ((sound found).1.symm.trans placed.1)
    rfl

theorem resolve_eq_ok_iff (m : Mapping) {field : String} {position : Nat} {c : Column} :
    m.resolve field = .ok (position, c) ↔ m.columns[position]? = some c ∧ c.field = field := by
  rw [← find?_zipIdx_eq_some_iff, resolve]
  cases m.columns.zipIdx.find? (·.1.field == field) with
  | none => simp
  | some entry => simp [Prod.ext_iff, and_comm]

theorem resolve_eq_error_iff (m : Mapping) {field : String} {e : Error} :
    m.resolve field = .error e ↔
      e = .unmappedField field m.table ∧ ∀ c ∈ m.columns, c.field ≠ field := by
  rw [resolve]
  cases found : m.columns.zipIdx.find? (·.1.field == field) with
  | none =>
    have absent : ∀ c ∈ m.columns, c.field ≠ field := by
      intro c member named
      obtain ⟨position, placed⟩ := List.mem_iff_getElem?.mp member
      rw [m.find?_zipIdx_eq_some_iff.mpr ⟨placed, named⟩] at found
      cases found
    simpa [eq_comm] using fun _ => absent
  | some entry =>
    obtain ⟨placed, named⟩ := m.find?_zipIdx_eq_some_iff.mp found
    refine iff_of_false nofun fun absent => ?_
    exact absent.2 entry.1 (List.mem_of_getElem? placed) named

theorem resolveColumn_eq_ok_iff (m : Mapping) {field : String} {c : Column} :
    m.resolveColumn field = .ok c ↔ c ∈ m.columns ∧ c.field = field := by
  rw [resolveColumn]
  constructor
  · intro resolved
    cases found : m.resolve field with
    | error e =>
      rw [found] at resolved
      cases resolved
    | ok place =>
      obtain ⟨position, d⟩ := place
      rw [found] at resolved
      obtain rfl : d = c := Except.ok.inj resolved
      obtain ⟨placed, named⟩ := m.resolve_eq_ok_iff.mp found
      exact ⟨List.mem_of_getElem? placed, named⟩
  · rintro ⟨member, named⟩
    obtain ⟨position, placed⟩ := List.mem_iff_getElem?.mp member
    rw [m.resolve_eq_ok_iff.mpr ⟨placed, named⟩]
    rfl

theorem resolveColumn_eq_error_iff (m : Mapping) {field : String} {e : Error} :
    m.resolveColumn field = .error e ↔
      e = .unmappedField field m.table ∧ ∀ c ∈ m.columns, c.field ≠ field := by
  rw [resolveColumn, ← resolve_eq_error_iff]
  cases m.resolve field with
  | error other => simp [Except.map]
  | ok place => simp [Except.map]

def Lacks (m : Mapping) (field : String) (e : Error) : Prop :=
  e = .unmappedField field m.table ∧ ∀ c ∈ m.columns, c.field ≠ field

theorem not_lacks_iff {m : Mapping} {field : String} :
    (∀ e, ¬ m.Lacks field e) ↔ ∃ c ∈ m.columns, c.field = field := by
  simp [Lacks]

end Mapping

end BulkDml
