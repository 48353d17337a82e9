import BulkDml.Proofs.Assignment.Writes
import BulkDml.Proofs.Statement.Backends

namespace BulkDml

namespace Template

theorem foldl_including (t : Template) (names : List String) :
    names.foldl including t = { t with included := t.included ++ names } := by
  induction names generalizing t with
  | nil => simp
  | cons name names ih => simp [ih, including]

theorem ofRow_including (row : List (String × Value)) (names : List String) :
    names.foldl including (ofRow row) = { ofRow row with included := names } :=
  foldl_including (ofRow row) names

theorem explicit_of_ofRow {row : List (String × Value)} :
    ∀ e ∈ (ofRow row).entries, e.explicit = false := by
  intro e entry
  obtain ⟨pair, -, rfl⟩ := List.mem_map.mp entry
  rfl

theorem absent_of_ofRow {row : List (String × Value)} {field : String} :
    (∀ e ∈ (ofRow row).entries, e.field ≠ field) ↔ field ∉ row.map Prod.fst := by
  have fields : (ofRow row).entries.map TemplateEntry.field = row.map Prod.fst := List.map_map
  rw [← fields, List.mem_map]
  simp

end Template

namespace Assignment

variable {m : Mapping} {t : Template} {writes : List FieldWrite} {field : String}

theorem entryWrite_eq_some {e : TemplateEntry} {w : FieldWrite}
    (written : entryWrite m t e = .ok (some w)) :
    ∃ c ∈ m.columns, c.field = e.field ∧ entryAssigns t c e = true ∧
      w = (e.field, .param e.value) := by
  obtain ⟨c, resolved, rest⟩ := bind_eq_ok_iff.mp written
  obtain ⟨member, named⟩ := m.resolveColumn_eq_ok_iff.mp resolved
  split at rest
  · by_cases assigns : entryAssigns t c e = true
    · rw [if_pos assigns] at rest
      cases rest
      exact ⟨c, member, named, assigns, rfl⟩
    · rw [if_neg assigns] at rest
      cases rest
  · cases rest

theorem includeWrite_eq_ok {w : FieldWrite} (written : includeWrite m field = .ok w) :
    ∃ c ∈ m.columns, c.field = field ∧ w = (field, .param c.type.default) := by
  obtain ⟨c, resolved, done⟩ := bind_eq_ok_iff.mp written
  obtain ⟨member, named⟩ := m.resolveColumn_eq_ok_iff.mp resolved
  exact ⟨c, member, named, (Except.ok.inj done).symm⟩

/-- A write is that of an entry, or that of an included field that no entry is about. -/
theorem mem_templateWrites (written : templateWrites m t = .ok writes) {w : FieldWrite}
    (member : w ∈ writes) :
    (∃ e ∈ t.entries, entryWrite m t e = .ok (some w)) ∨
      ∃ name ∈ t.included, (∀ e ∈ t.entries, e.field ≠ name) ∧ includeWrite m name = .ok w := by
  obtain ⟨entries, ofEntries, rest⟩ := bind_eq_ok_iff.mp written
  obtain ⟨others, ofOthers, done⟩ := bind_eq_ok_iff.mp rest
  cases done
  rcases List.mem_append.mp member with entry | other
  · obtain ⟨w?, inside, same⟩ := List.mem_filterMap.mp entry
    obtain rfl : w? = some w := same
    exact .inl ((mem_iff_of_mapM ofEntries).mp inside)
  · obtain ⟨name, missing, included⟩ := (mem_iff_of_mapM ofOthers).mp other
    obtain ⟨among, absent⟩ := List.mem_filter.mp missing
    exact .inr ⟨name, among, by simpa using absent, included⟩

theorem mem_fields_of_included (written : templateWrites m t = .ok writes)
    (included : field ∈ t.included) (absent : ∀ e ∈ t.entries, e.field ≠ field) :
    field ∈ writes.map Prod.fst := by
  obtain ⟨entries, -, rest⟩ := bind_eq_ok_iff.mp written
  obtain ⟨others, ofOthers, done⟩ := bind_eq_ok_iff.mp rest
  cases done
  have missing : field ∈ t.included.filter fun name => !(t.entries.any (·.field == name)) :=
    List.mem_filter.mpr ⟨included, by simpa using absent⟩
  obtain ⟨w, inside, reset⟩ := exists_ok_of_mapM ofOthers missing
  obtain ⟨c, -, -, rfl⟩ := includeWrite_eq_ok reset
  exact List.mem_map.mpr ⟨_, List.mem_append_right _ inside, rfl⟩

/-- An entry that was not set one by one leaves a key alone, so only an included key without an
entry is written. -/
theorem mem_writes_of_key {c : Column} (key : c ∈ m.keyColumns)
    (implicit : ∀ e ∈ t.entries, e.explicit = false) (written : templateWrites m t = .ok writes)
    {v : AssignedValue} (member : (c.field, v) ∈ writes) :
    (c.field ∈ t.included ∧ ∀ e ∈ t.entries, e.field ≠ c.field) ∧ v = .param c.type.default := by
  obtain ⟨place, isKey⟩ := List.mem_filter.mp key
  have only {other : Column} (among : other ∈ m.columns) (named : other.field = c.field) :
      other = c := Mapping.eq_of_field among place named
  rcases mem_templateWrites written member with ⟨e, entry, wrote⟩ | ⟨name, included, absent, reset⟩
  · obtain ⟨other, among, named, assigns, same⟩ := entryWrite_eq_some wrote
    have field : c.field = e.field := congrArg Prod.fst same
    obtain rfl := only among (named.trans field.symm)
    have skipped : entryAssigns t other e = false := by simp [entryAssigns, isKey, implicit e entry]
    rw [skipped] at assigns
    cases assigns
  · obtain ⟨other, among, named, same⟩ := includeWrite_eq_ok reset
    obtain ⟨rfl, rfl⟩ := Prod.mk.inj same
    obtain rfl := only among named
    exact ⟨⟨included, absent⟩, rfl⟩

/-- Without entries that were set one by one, the keys that are assigned are those that are included
and have no entry. -/
theorem key_assigned_iff {assignments : List Assignment}
    (compiled : ofMutation m (.template t) = .ok assignments)
    (implicit : ∀ e ∈ t.entries, e.explicit = false) {c : Column} (key : c ∈ m.keyColumns) :
    (c.name ∈ assignments.map (·.column) ↔
        c.field ∈ t.included ∧ ∀ e ∈ t.entries, e.field ≠ c.field) ∧
      ∀ a ∈ assignments, a.column = c.name → a.value = .param c.type.default := by
  obtain ⟨writes, written, collected⟩ := bind_eq_ok_iff.mp compiled
  have member : c ∈ m.columns := List.mem_of_mem_filter key
  have reset {v : AssignedValue} (wrote : (c.field, v) ∈ writes) :=
    mem_writes_of_key key implicit written wrote
  constructor
  · rw [column_mem_iff collected member]
    constructor
    · intro wrote
      obtain ⟨⟨field, v⟩, inside, rfl⟩ := List.mem_map.mp wrote
      exact (reset inside).1
    · rintro ⟨included, missing⟩
      exact mem_fields_of_included written included missing
  · intro a assigned named
    have latest := latest_of_column collected member assigned named
    exact (reset latest.mem).2

end Assignment

namespace AssignmentSet

variable {m : Mapping} {d : Dialect} {row : List (String × Value)} {names : List String}
  {s : AssignmentSet}

theorem ofMutation_eq_ok {change : Mutation} (compiled : ofMutation d m change = .ok s) :
    Assignment.ofMutation m change = .ok s.assignments := by
  unfold ofMutation at compiled
  cases assigned : Assignment.ofMutation m change with
  | error e =>
    rw [assigned] at compiled
    cases compiled
  | ok assignments =>
    rw [assigned] at compiled
    cases compiled
    rfl

/-- A template from a row with fields included on top assigns a key column only where the key is
included and missing from the row, and resets it there. -/
theorem ofRow_assigns_key_iff
    (compiled : ofMutation d m (.template (names.foldl Template.including (.ofRow row))) = .ok s)
    {c : Column} (key : c ∈ m.keyColumns) :
    (c.name ∈ s.columns ↔ c.field ∈ names ∧ c.field ∉ row.map Prod.fst) ∧
      ∀ a ∈ s.assignments, a.column = c.name → a.value = .param c.type.default := by
  rw [Template.ofRow_including] at compiled
  have assigned := Assignment.key_assigned_iff (ofMutation_eq_ok compiled)
    Template.explicit_of_ofRow key
  rw [Template.absent_of_ofRow] at assigned
  exact assigned

def stock : Mapping :=
  ⟨⟨none, "stock", [⟨"shop", "shop", .integer, true⟩, ⟨"item", "item", .text, true⟩,
    ⟨"count", "count", .integer, false⟩]⟩, by decide⟩

/-- Both keys are included, and the row has one of them. -/
theorem ofRow_assigns_key_iff_partialRow :
    let row := [("shop", Value.integer 7), ("count", .integer 0)]
    let names := ["shop", "item", "count"]
    let d := Backend.sqlite.dialect
    ∃ s, ofMutation d stock (.template (names.foldl Template.including (.ofRow row))) = .ok s ∧
      s.columns = ["item", "count"] ∧
      (⟨"shop", "shop", .integer, true⟩ : Column) ∈ stock.keyColumns ∧
      ("shop" ∈ s.columns ↔ "shop" ∈ names ∧ "shop" ∉ row.map Prod.fst) ∧
      ∀ a ∈ s.assignments, a.column = "shop" → a.value = .param (.integer 0) := by
  intro row names d
  have compiled : ofMutation d stock (.template (names.foldl Template.including (.ofRow row))) =
      .ok ⟨d, [⟨"item", "item", .param .null⟩, ⟨"count", "count", .param (.integer 0)⟩]⟩ := by
    rfl
  have key : (⟨"shop", "shop", .integer, true⟩ : Column) ∈ stock.keyColumns := by decide
  exact ⟨_, compiled, rfl, key, ofRow_assigns_key_iff compiled key⟩

/-- A key that is included and missing from the row is assigned all the same. -/
theorem ofRow_assigns_includedKey :
    let m : Mapping :=
      ⟨⟨none, "t", [⟨"id", "id", .integer, true⟩, ⟨"name", "name", .text, false⟩]⟩, by decide⟩
    let row := [("name", Value.text "x")]
    ∃ s, ofMutation Backend.sqlite.dialect m
        (.template (["id"].foldl Template.including (.ofRow row))) = .ok s ∧
      (∃ c ∈ m.keyColumns, c.name ∈ s.columns) ∧
      Backend.sqlite.dialect.render s.setClause =
        ⟨"\"id\" = ?1, \"name\" = ?2", [.integer 0, .text "x"]⟩ := by
  intro m row
  exact ⟨⟨Backend.sqlite.dialect, [⟨"id", "id", .param (.integer 0)⟩,
    ⟨"name", "name", .param (.text "x")⟩]⟩, rfl, by decide, by decide⟩

end AssignmentSet

end BulkDml
