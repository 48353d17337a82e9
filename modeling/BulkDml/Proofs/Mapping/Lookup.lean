import Mathlib.Data.List.Nodup
import BulkDml.Mapping.Names

namespace BulkDml

namespace MappingDraft

inductive Step where
  | schema (name : String)
  | column (field : String) (type : ColumnType)
  | columnNamed (field name : String) (type : ColumnType)
  | key (field : String) (type : ColumnType)
  | keyNamed (field name : String) (type : ColumnType)
deriving DecidableEq

namespace Step

def apply (d : MappingDraft) : Step → MappingDraft
  | schema name => d.withSchema name
  | column field type => d.column field type
  | columnNamed field name type => d.columnNamed field name type
  | key field type => d.key field type
  | keyNamed field name type => d.keyNamed field name type

def schema? : Step → Option String
  | schema name => some name
  | _ => none

def column? : Step → Option Column
  | schema _ => none
  | column field type => some ⟨field, field, type, false⟩
  | columnNamed field name type => some ⟨field, name, type, false⟩
  | key field type => some ⟨field, field, type, true⟩
  | keyNamed field name type => some ⟨field, name, type, true⟩

end Step

def ofSteps (table : String) (steps : List Step) : MappingDraft :=
  steps.foldl Step.apply (new table)

theorem table_foldl (d : MappingDraft) (steps : List Step) :
    (steps.foldl Step.apply d).table = d.table := by
  induction steps generalizing d with
  | nil => rfl
  | cons step steps ih => cases step <;> exact ih _

theorem columns_foldl (d : MappingDraft) (steps : List Step) :
    (steps.foldl Step.apply d).columns = d.columns ++ steps.filterMap Step.column? := by
  induction steps generalizing d with
  | nil => simp
  | cons step steps ih =>
    cases step <;> simp [ih, List.filterMap_cons, Step.apply, Step.column?, withSchema, column,
      columnNamed, key, keyNamed, push]

/-- Of several schemas the last one counts. -/
theorem schema_foldl (d : MappingDraft) (steps : List Step) :
    (steps.foldl Step.apply d).schema = (steps.filterMap Step.schema?).getLast?.or d.schema := by
  induction steps generalizing d with
  | nil => rfl
  | cons step steps ih =>
    cases step with
    | schema name =>
      have named : (steps.foldl Step.apply (d.withSchema name)).schema =
          (steps.filterMap Step.schema?).getLast?.or (some name) := ih _
      change (steps.foldl Step.apply (d.withSchema name)).schema =
        (name :: steps.filterMap Step.schema?).getLast?.or d.schema
      rw [named, List.getLast?_cons]
      cases (steps.filterMap Step.schema?).getLast? <;> rfl
    | _ => exact ih _

variable {d : MappingDraft}

theorem build_eq_ok_iff {m : Mapping} : d.build = .ok m ↔ m.draft = d := by
  unfold build
  split
  · constructor
    · intro done
      cases done
      rfl
    · rintro rfl
      rfl
  · next fault =>
    refine iff_of_false nofun ?_
    rintro rfl
    rw [m.sound] at fault
    cases fault

theorem build_eq_error_iff {e : Error} : d.build = .error e ↔ d.fault? = some e := by
  unfold build
  split
  · next sound => simp [sound]
  · next fault => simp [fault]

theorem exists_build_iff : (∃ m, d.build = .ok m) ↔ d.fault? = none := by
  simp only [build_eq_ok_iff]
  constructor
  · rintro ⟨m, rfl⟩
    exact m.sound
  · exact fun sound => ⟨⟨d, sound⟩, rfl⟩

theorem columnFault?_invalidArgument {table : String} {before columns : List Column} {e : Error}
    (fault : columnFault? table before columns = some e) : ∃ what, e = .invalidArgument what := by
  induction columns generalizing before with
  | nil => cases fault
  | cons c rest ih =>
    rw [columnFault?] at fault
    split at fault
    · exact ⟨_, (Option.some.inj fault).symm⟩
    split at fault
    · exact ⟨_, (Option.some.inj fault).symm⟩
    split at fault
    · exact ⟨_, (Option.some.inj fault).symm⟩
    · exact ih fault

theorem fault?_invalidArgument {e : Error} (fault : d.fault? = some e) :
    ∃ what, e = .invalidArgument what := by
  unfold fault? at fault
  split at fault
  · exact ⟨_, (Option.some.inj fault).symm⟩
  split at fault
  · exact ⟨_, (Option.some.inj fault).symm⟩
  · exact columnFault?_invalidArgument fault

structure WellNamed (table : String) (columns : List Column) : Prop where
  table : table ≠ ""
  mapped : columns ≠ []
  present : ∀ c ∈ columns, c.field ≠ "" ∧ c.name ≠ ""
  fields : (columns.map Column.field).Nodup
  names : (columns.map Column.name).Nodup

theorem fault?_eq_none_iff_wellNamed : d.fault? = none ↔ WellNamed d.table d.columns := by
  rw [fault?_eq_none_iff]
  constructor
  · rintro ⟨table, mapped, present, fields, names⟩
    exact ⟨table, mapped, present, fields, names⟩
  · intro named
    exact ⟨named.table, named.mapped, named.present, named.fields, named.names⟩

end MappingDraft

namespace Mapping

inductive Found (m : Mapping) (field : String) : Prop where
  | none (absent : ∀ c ∈ m.columns, c.field ≠ field) (column : m.column? field = none)
      (position : m.position? field = none) {what : String}
      (resolved : m.resolve field = .error (.unsupportedExpression what))
  | one {position : Nat} {c : Column} (placed : m.columns[position]? = some c)
      (named : c.field = field) (column : m.column? field = some c)
      (index : m.position? field = some position) (resolved : m.resolve field = .ok (position, c))

structure Bijective (m : Mapping) : Prop where
  found : ∀ field, m.Found field
  placed : ∀ position c, m.columns[position]? = some c → m.resolve c.field = .ok (position, c)
  apart : ∀ field other position position' c c',
    m.resolve field = .ok (position, c) → m.resolve other = .ok (position', c') →
      field ≠ other → position ≠ position' ∧ c.name ≠ c'.name
  keys : m.keyColumns.Sublist m.columns ∧
    ∀ c, c ∈ m.keyColumns ↔ c ∈ m.columns ∧ c.isKey = true
  hasKey_iff : m.hasKey = true ↔ m.keyColumns ≠ []

theorem eq_of_field {m : Mapping} {c c' : Column} (left : c ∈ m.columns) (right : c' ∈ m.columns)
    (same : c.field = c'.field) : c = c' :=
  List.inj_on_of_nodup_map m.fields_nodup left right same

theorem eq_of_name {m : Mapping} {c c' : Column} (left : c ∈ m.columns) (right : c' ∈ m.columns)
    (same : c.name = c'.name) : c = c' :=
  List.inj_on_of_nodup_map m.names_nodup left right same

variable (m : Mapping)

theorem position?_eq_none_iff {field : String} :
    m.position? field = none ↔ ∀ c ∈ m.columns, c.field ≠ field := by
  simp [position?, List.findIdx?_eq_none_iff]

theorem found (field : String) : m.Found field := by
  cases resolved : m.resolve field with
  | error e =>
    obtain ⟨rfl, absent⟩ := m.resolve_eq_error_iff.mp resolved
    have position := m.position?_eq_none_iff.mpr absent
    have column : m.column? field = none := by rw [column?_eq_bind, position, Option.bind_none]
    exact .none absent column position resolved
  | ok place =>
    obtain ⟨position, c⟩ := place
    obtain ⟨placed, named⟩ := m.resolve_eq_ok_iff.mp resolved
    have column := m.column?_eq_some_iff.mpr ⟨List.mem_of_getElem? placed, named⟩
    exact .one placed named column (m.position?_eq_some_iff.mpr ⟨c, placed, named⟩) resolved

theorem apart {field other : String} {position position' : Nat} {c c' : Column}
    (first : m.resolve field = .ok (position, c)) (second : m.resolve other = .ok (position', c'))
    (differ : field ≠ other) : position ≠ position' ∧ c.name ≠ c'.name := by
  obtain ⟨placed, rfl⟩ := m.resolve_eq_ok_iff.mp first
  obtain ⟨placed', rfl⟩ := m.resolve_eq_ok_iff.mp second
  constructor
  · rintro rfl
    exact differ (congrArg Column.field (Option.some.inj (placed.symm.trans placed')))
  · intro same
    have member := List.mem_of_getElem? placed
    have member' := List.mem_of_getElem? placed'
    exact differ (congrArg Column.field (eq_of_name member member' same))

theorem hasKey_iff : m.hasKey = true ↔ m.keyColumns ≠ [] := by
  simp [hasKey, keyColumns]

theorem bijective : m.Bijective where
  found := m.found
  placed _ _ placed := m.resolve_eq_ok_iff.mpr ⟨placed, rfl⟩
  apart _ _ _ _ _ _ := m.apart
  keys := ⟨List.filter_sublist, fun _ => List.mem_filter⟩
  hasKey_iff := m.hasKey_iff

end Mapping

namespace MappingDraft

/-- A declaration makes a mapping exactly if its names are present and distinct; the mapping has the
columns as they were declared, and they correspond to their fields one to one. -/
theorem build_bijective (table : String) (steps : List Step) :
    ((∃ m, (ofSteps table steps).build = .ok m) ↔
      WellNamed table (steps.filterMap Step.column?)) ∧
    (∀ e, (ofSteps table steps).build = .error e → ∃ what, e = .invalidArgument what) ∧
    ∀ m, (ofSteps table steps).build = .ok m →
      m.table = table ∧ m.schema = (steps.filterMap Step.schema?).getLast? ∧
        m.columns = steps.filterMap Step.column? ∧ m.Bijective := by
  have columns : (ofSteps table steps).columns = steps.filterMap Step.column? :=
    columns_foldl (new table) steps
  refine ⟨?_, fun e failed => fault?_invalidArgument (build_eq_error_iff.mp failed), ?_⟩
  · rw [exists_build_iff, fault?_eq_none_iff_wellNamed, columns, ofSteps, table_foldl]
    rfl
  · intro m built
    have draft := build_eq_ok_iff.mp built
    have schema := schema_foldl (new table) steps
    rw [new, Option.or_none] at schema
    exact ⟨(congrArg MappingDraft.table draft).trans (table_foldl (new table) steps),
      (congrArg MappingDraft.schema draft).trans schema,
      (congrArg MappingDraft.columns draft).trans columns, m.bijective⟩

/-- Each field is stored in the column that has the name of the other. -/
theorem build_bijective_crossedNames :
    let steps : List Step := [.schema "old", .keyNamed "id" "name" .integer,
      .columnNamed "name" "id" .text, .schema "new"]
    ∃ m, (ofSteps "items" steps).build = .ok m ∧ m.schema = some "new" ∧ m.Bijective ∧
      m.resolve "name" = .ok (1, ⟨"name", "id", .text, false⟩) ∧ m.keyColumns.length = 1 := by
  intro steps
  have law := build_bijective "items" steps
  obtain ⟨m, built⟩ := law.1.mpr ⟨by decide, by decide, by decide, by decide, by decide⟩
  obtain ⟨-, schema, columns, bijective⟩ := law.2.2 m built
  refine ⟨m, built, schema, bijective, ?_, ?_⟩
  · exact bijective.placed 1 ⟨"name", "id", .text, false⟩ (by rw [columns]; rfl)
  · rw [Mapping.keyColumns, columns]
    rfl

end MappingDraft

end BulkDml
