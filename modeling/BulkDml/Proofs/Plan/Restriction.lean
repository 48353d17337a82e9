import BulkDml.Plan.Build
import BulkDml.Proofs.Statement.Tokens

namespace BulkDml

namespace Condition

variable {order : Collation} {row : String → Value}

/-- The columns of the row equal the key place by place, where null is equal to null. -/
def HasKey (order : Collation) (row : String → Value) (columns : List String)
    (key : List Value) : Prop :=
  ∀ part ∈ columns.zip key, (row part.1).isNull ∧ part.2.isNull ∨
    Clause.compareTruth order [part.1] .eq (row part.1) part.2 = .true

def Keyed (row : String → Value) (columns : List String) : Prop :=
  ∀ column ∈ columns, (row column).isNull = false

theorem tupleTruth_eq_true_iff_zip {columns : List String} {key : List Value} :
    tupleTruth order row columns key = .true ↔
      ∀ part ∈ columns.zip key,
        Clause.compareTruth order [part.1] .eq (row part.1) part.2 = .true := by
  induction columns generalizing key with
  | nil => simp [tupleTruth]
  | cons column columns ih =>
    cases key with
    | nil => simp [tupleTruth]
    | cons v key => rw [tupleTruth, and_eq_true_iff, ih, List.zip_cons_cons, List.forall_mem_cons]

theorem tupleTruth_eq_true_iff_hasKey {columns : List String} {key : List Value}
    (width : key.length = columns.length) :
    tupleTruth order row columns key = .true ↔
      HasKey order row columns key ∧ Keyed row columns := by
  rw [tupleTruth_eq_true_iff_zip]
  constructor
  · intro equal
    refine ⟨fun part listed => .inr (equal part listed), ?_⟩
    intro column member
    obtain ⟨i, inside, rfl⟩ := List.mem_iff_getElem.mp member
    have within : i < (columns.zip key).length := by
      rw [List.length_zip]
      omega
    have part := equal _ (List.getElem_mem within)
    rw [List.getElem_zip] at part
    exact (compareTruth_eq_true_iff.mp part).1
  · rintro ⟨hasKey, keyed⟩ part listed
    have present := keyed part.1 (List.of_mem_zip listed).1
    rcases hasKey part listed with ⟨null, -⟩ | equal
    · rw [present] at null
      cases null
    · exact equal

theorem keysTruth_eq_true_iff_hasKey {columns : List String} {keys : List (List Value)}
    (widths : ∀ key ∈ keys, key.length = columns.length) :
    keysTruth order row columns keys = .true ↔
      (∃ key ∈ keys, HasKey order row columns key) ∧ Keyed row columns := by
  rw [keysTruth_eq_true_iff]
  constructor
  · rintro ⟨key, member, holds⟩
    obtain ⟨hasKey, keyed⟩ := (tupleTruth_eq_true_iff_hasKey (widths key member)).mp holds
    exact ⟨⟨key, member, hasKey⟩, keyed⟩
  · rintro ⟨⟨key, member, hasKey⟩, keyed⟩
    exact ⟨key, member, (tupleTruth_eq_true_iff_hasKey (widths key member)).mpr ⟨hasKey, keyed⟩⟩

/-- Also without a key, the condition is read as the disjunction over the keys. -/
theorem truth_simplified_keys (bind : Value → Value) {columns : List String} (some : columns ≠ [])
    {keys : List (List Value)} (widths : ∀ key ∈ keys, key.length = columns.length) :
    ((Condition.keys columns keys).simplified.written.mapValues bind).truth order row =
      keysTruth order row columns (keys.map (·.map bind)) := by
  have wellFormed := (wellFormed_keys some widths).mapValues bind
  rw [← mapValues_written, truth_written order row wellFormed]
  cases keys <;> rfl

/-- What the restriction to keys says: the row has one of them, and no null in its own. -/
theorem truth_simplified_keys_eq_true_iff (order : Collation) (bind : Value → Value)
    (row : String → Value) {columns : List String} (some : columns ≠ []) {keys : List (List Value)}
    (widths : ∀ key ∈ keys, key.length = columns.length) :
    ((Condition.keys columns keys).simplified.written.mapValues bind).truth order row = .true ↔
      (∃ key ∈ keys, HasKey order row columns (key.map bind)) ∧ Keyed row columns := by
  have bound : ∀ key ∈ keys.map (·.map bind), key.length = columns.length := by
    intro key member
    obtain ⟨given, listed, rfl⟩ := List.mem_map.mp member
    rw [List.length_map]
    exact widths given listed
  rw [truth_simplified_keys bind some widths, keysTruth_eq_true_iff_hasKey bound]
  simp only [List.mem_map, exists_exists_and_eq_and]

theorem membershipTruth_eq_true_iff {bind : Value → Value} {column : String} {v : Value}
    {values : List Value} (present : v.isNull = false) :
    Filter.membershipTruth order bind column v values = .true ↔
      ∃ w ∈ values, w.isNull = false ∧
        Clause.compareTruth order [column] .eq v (bind w) = .true := by
  unfold Filter.membershipTruth
  simp only [present, Bool.false_eq_true, false_and, or_false]
  split
  · next equal => simp only [equal]
  · next apart =>
    refine iff_of_false ?_ apart
    split <;> simp

/-- A key of one column restricts as membership in the list of the keys does, but for null. -/
theorem keysTruth_eq_true_iff_membership {bind : Value → Value} (null : bind .null = .null)
    (column : String) {keys : List (List Value)} (widths : ∀ key ∈ keys, key.length = 1) :
    keysTruth order row [column] (keys.map (·.map bind)) = .true ↔
      ((Clause.membership column keys.flatten).mapValues bind).truth order row = .true ∧
        (row column).isNull = false := by
  have listed : ∀ v, v ∈ keys.flatten ↔ [v] ∈ keys := by
    intro v
    rw [List.mem_flatten]
    constructor
    · rintro ⟨key, member, inKey⟩
      obtain ⟨w, rfl⟩ := List.length_eq_one_iff.mp (widths key member)
      obtain rfl := List.mem_singleton.mp inKey
      exact member
    · intro member
      exact ⟨[v], member, List.mem_singleton_self v⟩
  have normal : Filter.Normal (fun _ => column) (.isIn column keys.flatten)
      (Clause.membership column keys.flatten) := Filter.normal_membership rfl
  rw [normal.truth_eq order bind row, Filter.truth, keysTruth_eq_true_iff]
  constructor
  · rintro ⟨_, chosen, holds⟩
    obtain ⟨key, member, rfl⟩ := List.mem_map.mp chosen
    obtain ⟨v, rfl⟩ := List.length_eq_one_iff.mp (widths key member)
    have equal : Clause.compareTruth order [column] .eq (row column) (bind v) = .true :=
      tupleTruth_eq_true_iff_zip.mp holds (column, bind v) List.mem_cons_self
    obtain ⟨present, bound, -⟩ := compareTruth_eq_true_iff.mp equal
    have notNull : v.isNull = false := by
      cases v with
      | null =>
        rw [null] at bound
        cases bound
      | _ => rfl
    exact ⟨(membershipTruth_eq_true_iff present).mpr ⟨v, (listed v).mpr member, notNull, equal⟩,
      present⟩
  · rintro ⟨holds, present⟩
    obtain ⟨v, member, -, equal⟩ := (membershipTruth_eq_true_iff present).mp holds
    refine ⟨[bind v], List.mem_map.mpr ⟨[v], (listed v).mp member, rfl⟩, ?_⟩
    rw [tupleTruth_eq_true_iff_zip]
    rintro part inKey
    obtain rfl := List.mem_singleton.mp inKey
    exact equal

/-- A row has its own key, also after the key was read from it and bound again. -/
theorem hasKey_self (equal : ∀ column v, order [column] v v = .eq) {bind read : Value → Value}
    {columns : List String} (survives : ∀ column ∈ columns, bind (read (row column)) = row column) :
    HasKey order row columns ((columns.map fun column => read (row column)).map bind) := by
  intro part listed
  rw [List.map_map, List.zip_map_right, List.mem_map] at listed
  obtain ⟨⟨column, same⟩, twice, rfl⟩ := listed
  have member := (List.of_mem_zip twice).1
  obtain rfl : column = same := by
    obtain ⟨i, inside, both⟩ := List.mem_iff_getElem.mp twice
    rw [List.getElem_zip] at both
    obtain ⟨rfl, rfl⟩ := Prod.mk.inj both
    rfl
  simp only [Prod.map, id, Function.comp_apply, survives column member]
  cases null : (row column).isNull with
  | true => exact .inl ⟨rfl, rfl⟩
  | false => exact .inr (compareTruth_eq_true_iff.mpr ⟨null, null, equal column _⟩)

end Condition

theorem Mapping.resolveColumn_of_mem {m : Mapping} {c : Column} (member : c ∈ m.columns) :
    m.resolveColumn c.field = .ok c :=
  m.resolveColumn_eq_ok_iff.mpr ⟨member, rfl⟩

namespace Plan

variable {d : Dialect} {kind : StatementKind} {m : Mapping} {condition : Option Condition}
  {set : Option AssignmentSet} {limit : Option UInt64} {p : KeyedPlan}

theorem keyed_of_build (built : build d kind m condition set limit = .ok (.keyed p)) :
    p.dialect = d ∧ p.keyColumns = m.keyColumns.map (·.name) ∧ m.keyColumns ≠ [] := by
  have mutated {action : KeyedAction}
      (built : mutation d action kind m condition (limit.filter (· > 0)) = .ok (.keyed p)) :
      p.dialect = d ∧ p.keyColumns = m.keyColumns.map (·.name) ∧ m.keyColumns ≠ [] := by
    obtain ⟨-, single⟩ | ⟨n, -, ⟨clause, -, single⟩ | ⟨-, hasKey, keyed⟩⟩ := mutation_eq_ok built
    · cases single
    · cases single
    · cases keyed
      exact ⟨rfl, rfl, Mapping.keyColumns_ne_nil hasKey⟩
  cases kind with
  | delete => exact mutated built
  | update =>
    obtain ⟨set, -, built⟩ := bind_eq_ok_iff.mp built
    exact mutated built
  | insert target =>
    obtain ⟨set, -, built⟩ := bind_eq_ok_iff.mp built
    obtain ⟨-, single⟩ | ⟨n, clause, -, -, single⟩ := transfer_eq_ok built
    · cases single
    · cases single

/-- Whether a mutation by keys touches a row. -/
structure Touches (p : KeyedPlan) (m : Mapping) (keys : List (List Value)) (order : Collation)
    (bind : Value → Value) (row : String → Value) (touched : Prop) : Prop where
  byKey : touched ↔
    (∃ key ∈ keys, Condition.HasKey order row p.keyColumns (key.map bind)) ∧
      Condition.Keyed row p.keyColumns
  /-- A key of one column is looked up as a membership filter looks it up. -/
  asMember : ∀ c, m.keyColumns = [c] →
    ∃ clause, Clause.ofFilter m (.isIn c.field keys.flatten) = .ok clause ∧
      (touched ↔ (clause.mapValues bind).truth order row = .true ∧
        Condition.Keyed row p.keyColumns)
  /-- A row whose key was read by the selection is touched. -/
  ofSelected : ∀ read : Value → Value, (∀ column v, order [column] v v = .eq) →
    (∀ column ∈ p.keyColumns, bind (read (row column)) = row column) →
    (p.keyColumns.map fun column => read (row column)) ∈ keys →
    Condition.Keyed row p.keyColumns → touched

/-- The condition that a keyed plan writes for given keys is true of the rows that have one of them
and no null in their own. -/
theorem build_restricts (clear : d.withNativeMarkers.Clear)
    (built : build d kind m condition set limit = .ok (.keyed p)) {keys : List (List Value)}
    (widths : ∀ key ∈ keys, key.length = p.keyColumns.length) :
    let e := d.withNativeMarkers
    ∃ r w, p.mutationFor keys = .ok r ∧
      r.statement = e.render ((r.command.head e).pushSql " WHERE " ++
        (Condition.keys p.keyColumns keys).toFragment e) ∧
      e.readCondition? (e.render ((Condition.keys p.keyColumns keys).toFragment e)) = some w ∧
      ∀ order bind row, bind .null = .null →
        Touches p m keys order bind row ((w.mapValues bind).truth order row = .true) := by
  intro e
  obtain ⟨rfl, columns, hasKey⟩ := keyed_of_build built
  have some : p.keyColumns ≠ [] := by simpa [columns] using hasKey
  have written := KeyedPlan.mutationFor_eq_ok widths
  have reads := Condition.readCondition?_toFragment clear (Condition.wellFormed_keys some widths)
  rw [Condition.toFragment_simplified] at reads
  refine ⟨_, _, written, ?_, reads, ?_⟩
  · cases p.action <;> simp [e, KeyedPlan.mutationDialect, mutationCommand, Request.statement,
      Command.toFragment, Command.condition, Command.limit, Condition.appendTo, RowLimit.atEnd,
      Fragment.pushSql]
  intro order bind row null
  have holds := Condition.truth_simplified_keys_eq_true_iff order bind row some widths
  refine ⟨holds, ?_, ?_⟩
  · intro c single
    have member : c ∈ m.columns := by
      have listed : c ∈ m.keyColumns := by simp [single]
      exact List.mem_of_mem_filter listed
    have compiled : Clause.ofFilter m (.isIn c.field keys.flatten) =
        .ok (Clause.membership c.name keys.flatten) := by
      rw [Clause.ofFilter, Mapping.resolveColumn_of_mem member]
      rfl
    have one : p.keyColumns = [c.name] := by rw [columns, single]; rfl
    have each : ∀ key ∈ keys, key.length = 1 := by simpa [one] using widths
    refine ⟨_, compiled, ?_⟩
    rw [Condition.truth_simplified_keys bind some widths, one,
      Condition.keysTruth_eq_true_iff_membership null c.name each]
    simp [Condition.Keyed]
  · intro read equal survives selected present
    exact holds.mpr ⟨⟨_, selected, Condition.hasKey_self equal survives⟩, present⟩

def tenantTable : Mapping :=
  ⟨⟨none, "t", [⟨"tenant", "tenant_id", .text, true⟩, ⟨"code", "code", .text, true⟩]⟩, by decide⟩

/-- In a dialect of which only the limit styles are the caller's, and where one of the selected keys
has null in its second column. -/
theorem build_restricts_tenantKey :
    let d := Dialect.custom .postgreSql .keyed (some .top)
    let e := d.withNativeMarkers
    let p : KeyedPlan := ⟨d, .delete, ⟨none, "t"⟩, ["tenant_id", "code"], none, 5⟩
    let keys : List (List Value) := [[.text "a", .text "b"], [.text "a", .null]]
    build d .delete tenantTable none none (some 5) = .ok (.keyed p) ∧
      (∀ key ∈ keys, key.length = p.keyColumns.length) ∧
      ∃ r w, p.mutationFor keys = .ok r ∧
        r.statement = e.render ((r.command.head e).pushSql " WHERE " ++
          (Condition.keys p.keyColumns keys).toFragment e) ∧
        e.readCondition? (e.render ((Condition.keys p.keyColumns keys).toFragment e)) = some w ∧
        ∀ order bind row, bind .null = .null →
          Touches p tenantTable keys order bind row
            ((w.mapValues bind).truth order row = .true) := by
  intro d e p keys
  have widths : ∀ key ∈ keys, key.length = p.keyColumns.length := by decide
  have built : build d .delete tenantTable none none (some 5) = .ok (.keyed p) := rfl
  have clear : d.withNativeMarkers.Clear := by
    rw [Dialect.withNativeMarkers_custom]
    exact Dialect.clear_custom .postgreSql .keyed (some .top)
  exact ⟨built, widths, build_restricts clear built widths⟩

/-- A row with null for its key has the key that was selected and is a member of the list of the
selected keys, and the mutation by this key does not touch it. -/
theorem build_restricts_missesNull :
    let d := Backend.sqlite.dialect
    let m : Mapping := ⟨⟨none, "t", [⟨"id", "id", .text, true⟩]⟩, by decide⟩
    let p : KeyedPlan := ⟨d, .delete, ⟨none, "t"⟩, ["id"], none, 5⟩
    let keys : List (List Value) := [[.null]]
    let row : String → Value := fun _ => .null
    ∃ r clause w, build d .delete m none none (some 5) = .ok (.keyed p) ∧
      p.mutationFor keys = .ok r ∧
      r.statement = ⟨"DELETE FROM \"t\" WHERE \"id\" IN (?1)", [.null]⟩ ∧
      d.readCondition? (d.render ((Condition.keys p.keyColumns keys).toFragment d)) = some w ∧
      Clause.ofFilter m (.isIn "id" keys.flatten) = .ok clause ∧
      p.keyColumns.map row ∈ keys ∧
      ∀ order, Condition.HasKey order row p.keyColumns (p.keyColumns.map row) ∧
        clause.truth order row = .true ∧ w.truth order row ≠ .true := by
  intro d m p keys row
  refine ⟨⟨d, .delete p.table (some (.keys p.keyColumns keys)) none⟩, .isNull "id",
    .among "id" [.null], rfl, rfl, by decide, ?_, rfl, List.mem_cons_self, ?_⟩
  · have wellFormed : (Condition.keys p.keyColumns keys).WellFormed := ⟨by decide, by decide⟩
    exact Condition.readCondition?_toFragment (Dialect.clear .sqlite) wellFormed
  · intro order
    refine ⟨?_, rfl, ?_⟩
    · rintro part inKey
      obtain rfl := List.mem_singleton.mp inKey
      exact .inl ⟨rfl, rfl⟩
    · intro equal
      cases equal

end Plan

end BulkDml
