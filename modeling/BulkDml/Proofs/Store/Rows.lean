import BulkDml.Proofs.Session.Table
import BulkDml.Proofs.Store.Savepoint

namespace BulkDml.Store

theorem compareCells_integer {a b : Int64} :
    compareCells (.integer a) (.integer b) = .eq ↔ a = b := by
  change compare (a.toInt * Binary64.unitsOfOne) (b.toInt * Binary64.unitsOfOne) = .eq ↔ a = b
  have scale : (Binary64.unitsOfOne : Int) ≠ 0 := by decide
  rw [Std.compare_eq_iff_eq, ← Int64.toInt_inj]
  exact ⟨Int.eq_of_mul_eq_mul_right scale, fun same => by rw [same]⟩

theorem collation_integer {columns : List String} {a b : Int64} :
    collation columns (.integer a) (.integer b) = .eq ↔ a = b := by
  unfold collation
  split <;> exact compareCells_integer

theorem compareCells_self (v : Value) : compareCells v v = .eq := by
  cases v with
  | integer n => exact compareCells_integer.mpr rfl
  | real x => exact Std.ReflOrd.compare_self (a := x.rank)
  | text s => exact Std.ReflOrd.compare_self (a := s)
  | blob bytes =>
    have same : List.compareLex compare bytes bytes = .eq := Std.ReflCmp.compare_self
    exact same
  | _ => rfl

theorem collation_self (columns : List String) (v : Value) : collation columns v v = .eq := by
  unfold collation
  split <;> exact compareCells_self _

theorem sameName_self (name : String) : sameName name name = true := beq_self_eq_true _

namespace Row

theorem get_key (r : Row) : r.get keyName = .integer r.key := by
  rw [get, sameName_self, if_pos rfl]

def valueOf? (r : Row) (values : List (String × AssignedValue)) (column : String) : Option Value :=
  (values.find? (sameName column ·.1)).map fun a => r.eval a.1 a.2

def assign (values : List (String × AssignedValue)) (r : Row) : Row :=
  ⟨(keyOf? ((r.valueOf? values keyName).getD (.integer r.key))).getD r.key,
    (r.valueOf? values valueName).getD r.value⟩

/-- How a value is spelled in a text makes no difference to what it is. -/
theorem eval_normal (r : Row) (own : String) (v : AssignedValue) :
    r.eval own (v.normal Backend.sqlite.dialect own) = r.eval own v := by
  have plain (op : ArithmeticOp) : Backend.sqlite.dialect.readOp op = op := by cases op <;> rfl
  induction v with
  | literal v => cases v <;> rfl
  | param v => rfl
  | column name => rfl
  | derived op operand ih =>
    change combine _ (r.get own) _ = combine op _ _
    rw [plain, ih]
  | binary left op right ihLeft ihRight =>
    change combine _ _ _ = combine op _ _
    rw [plain, ihLeft, ihRight]

theorem valueOf?_normal (r : Row) (set : AssignmentSet) (column : String) :
    r.valueOf? (set.assignments.map (Assignment.normal Backend.sqlite.dialect)) column =
      r.assigned? set column := by
  rw [valueOf?, assigned?, List.find?_map, Option.map_map]
  congr 1
  funext a
  exact r.eval_normal a.column a.value

def satisfies (condition : Option Written) (r : Row) : Bool :=
  condition.all fun w => ((w.mapValues stored).truth collation r.get).holds

theorem satisfies_stated {condition : Option Condition}
    (wellFormed : ∀ p ∈ condition, p.simplified.WellFormed) (r : Row) :
    satisfies (condition.map Condition.stated) r = condition.all fun c => (r.truth c).holds := by
  cases condition with
  | none => rfl
  | some c =>
    have same : ((c.simplified.mapValues stored).truth collation r.get) = r.truth c := by
      unfold Condition.simplified
      split <;> rfl
    have read : (c.stated.mapValues stored).truth collation r.get = r.truth c := by
      rw [Condition.stated, ← Condition.mapValues_written,
        Condition.truth_written _ _ ((wellFormed c rfl).mapValues stored), same]
    rw [satisfies, Option.map_some, Option.all_some, Option.all_some, read]

end Row

def Database.rowsOf (db : Database) (ref : TableRef) : List Row :=
  match db.table ref with
  | .ok t => t.rows
  | .error _ => []

def closeness : ArithmeticOp → Nat
  | .concat => 3
  | .mul => 2
  | .div => 2
  | .add => 1
  | .sub => 1

def tableView (ref : TableRef) : TableView (Handle Database) Row where
  rows h := h.engine.rowsOf ref
  scan h condition := (h.engine.rowsOf ref).filter (Row.satisfies condition)
  get := Row.get
  order := collation
  bind := stored
  read := id
  closeness := closeness
  assign := Row.assign

theorem sameKey_iff {ref : TableRef} {r r' : Row} :
    (tableView ref).sameKey [keyName] r r' ↔ r.key = r'.key := by
  rw [TableView.sameKey, List.forall_mem_singleton]
  change collation _ (r.get keyName) (r'.get keyName) = .eq ↔ _
  rw [Row.get_key, Row.get_key]
  exact collation_integer

theorem keyEnforced_iff {ref : TableRef} {rows : List Row} :
    (tableView ref).KeyEnforced [keyName] rows ↔ (rows.map Row.key).Nodup := by
  constructor
  · intro enforced
    exact enforced.distinct.map_on fun r left r' right same =>
      enforced.unique r left r' right (sameKey_iff.mpr same)
  · intro distinct
    refine ⟨?_, distinct.of_map, ?_⟩
    · intro r _ column part
      rw [List.mem_singleton.mp part]
      change (r.get keyName).isNull = false
      rw [Row.get_key]
      rfl
    · intro r left r' right same
      exact List.inj_on_of_nodup_map distinct left right (sameKey_iff.mp same)

theorem keySurvives {ref : TableRef} (rows : List Row) :
    (tableView ref).KeySurvives [keyName] rows := by
  intro r _ column part
  rw [List.mem_singleton.mp part]
  change stored (r.get keyName) = r.get keyName
  rw [Row.get_key]
  rfl

theorem mutate_single (ref : TableRef) (change : RowChange) {old : Row} {rows rest : List Row}
    (same : rows.Perm (old :: rest)) (absent : old ∉ rest) :
    (rows.filterMap ((tableView ref).mutate change (· ∈ [old]))).Perm
      (((tableView ref).effect old change).toList ++ rest) := by
  have stays : rest.filterMap ((tableView ref).mutate change (· ∈ [old])) = rest := by
    apply TableLaws.mutate_untouched
    intro r member
    have apart : r ≠ old := fun same => absent (same ▸ member)
    simpa using apart
  have touched : (tableView ref).mutate change (· ∈ [old]) old =
      (tableView ref).effect old change := by
    simp [TableView.mutate]
  refine (same.filterMap _).trans (.of_eq ?_)
  rw [List.filterMap_cons, touched, stays]
  cases (tableView ref).effect old change <;> rfl

namespace Table

theorem rows_put (t : Table) (row : Row) : (t.put row).rows.Perm (row :: t.rows) := by
  have parts : (t.put row).rows.Perm
      (row :: (t.rows.takeWhile (·.key < row.key) ++ t.rows.dropWhile (·.key < row.key))) :=
    List.perm_middle
  rwa [List.takeWhile_append_dropWhile] at parts

theorem rows_erase {t : Table} (distinct : (t.rows.map Row.key).Nodup) {old : Row}
    (member : old ∈ t.rows) :
    t.rows.Perm (old :: (t.erase old.key).rows) ∧ old ∉ (t.erase old.key).rows := by
  have absent : old ∉ (t.erase old.key).rows := by simp [erase]
  have rest : (t.erase old.key).rows.Nodup := distinct.of_map.filter _
  refine ⟨?_, absent⟩
  rw [List.perm_ext_iff_of_nodup distinct.of_map (List.nodup_cons.mpr ⟨absent, rest⟩)]
  intro r
  rw [List.mem_cons, erase, List.mem_filter]
  constructor
  · intro listed
    by_cases same : r.key = old.key
    · exact .inl (List.inj_on_of_nodup_map distinct listed member same)
    · exact .inr ⟨listed, by simpa using same⟩
  · rintro (rfl | ⟨listed, _⟩)
    · exact member
    · exact listed

structure Exact (ref : TableRef) (change : RowChange) (t : Table) (rows : List Row)
    (after : Table) : Prop where
  name : after.name = t.name
  rows : after.rows.Perm (t.rows.filterMap ((tableView ref).mutate change (· ∈ rows)))
  keys : (after.rows.map Row.key).Nodup

theorem erase_exact {ref : TableRef} {t : Table} (distinct : (t.rows.map Row.key).Nodup)
    {old : Row} (member : old ∈ t.rows) : Exact ref .delete t [old] (t.erase old.key) := by
  obtain ⟨same, absent⟩ := rows_erase distinct member
  exact ⟨rfl, (mutate_single ref .delete same absent).symm,
    distinct.sublist (List.filter_sublist.map _)⟩

theorem checked_eq_ok {t : Table} {key value : Value} {row : Row}
    (added : t.checked key value = .ok row) :
    keyOf? key = some row.key ∧ row.value = value ∧ row.key ∉ t.rows.map Row.key := by
  unfold checked at added
  cases read : keyOf? key with
  | none =>
    rw [read] at added
    cases added
  | some k =>
    rw [read] at added
    dsimp only at added
    split at added
    · cases added
    · split at added
      · cases added
      · next free =>
        cases added
        exact ⟨rfl, rfl, by simpa [has] using free⟩

def stated (set : AssignmentSet) : RowChange :=
  (KeyedAction.update set).change Backend.sqlite.dialect

theorem updateRow_exact {ref : TableRef} {set : AssignmentSet} {t after : Table}
    (distinct : (t.rows.map Row.key).Nodup) {old : Row} (member : old ∈ t.rows)
    (changed : t.updateRow set old = .ok after) : Exact ref (stated set) t [old] after := by
  obtain ⟨row, added, done⟩ := bind_eq_ok_iff.mp changed
  cases done
  obtain ⟨key, value, free⟩ := checked_eq_ok added
  have assigned : row =
      old.assign (set.assignments.map (Assignment.normal Backend.sqlite.dialect)) := by
    obtain ⟨k, w⟩ := row
    simp only at key value
    rw [Row.assign, Row.valueOf?_normal, Row.valueOf?_normal, key, ← value]
    rfl
  obtain ⟨same, absent⟩ := rows_erase distinct member
  have placed := rows_put (t.erase old.key) row
  have others : ((t.erase old.key).rows.map Row.key).Nodup :=
    distinct.sublist (List.filter_sublist.map _)
  refine ⟨rfl, ?_, (placed.map _).nodup_iff.mpr (List.nodup_cons.mpr ⟨free, others⟩)⟩
  rw [assigned] at placed ⊢
  exact placed.trans (mutate_single ref (stated set) same absent).symm

/-- Changing rows one after the other changes each of them once. -/
theorem foldlM_exact {ref : TableRef} {change : RowChange}
    {step : Table → Row → Except Failure Table}
    (single : ∀ (t : Table) (old : Row) (after : Table), (t.rows.map Row.key).Nodup →
      old ∈ t.rows → step t old = .ok after → Exact ref change t [old] after)
    {t after : Table} (enforced : (t.rows.map Row.key).Nodup) {rows : List Row}
    (listed : ∀ r ∈ rows, r ∈ t.rows) (distinct : rows.Nodup)
    (changed : rows.foldlM step t = .ok after) : Exact ref change t rows after := by
  induction rows generalizing t with
  | nil =>
    cases changed
    have untouched : ∀ r ∈ after.rows, decide (r ∈ ([] : List Row)) = false := by simp
    exact ⟨rfl, .of_eq (TableLaws.mutate_untouched untouched).symm, enforced⟩
  | cons old rows ih =>
    rw [List.foldlM_cons] at changed
    obtain ⟨middle, first, later⟩ := bind_eq_ok_iff.mp changed
    obtain ⟨own, rest⟩ := List.forall_mem_cons.mp listed
    obtain ⟨absent, apart⟩ := List.nodup_cons.mp distinct
    have one := single t old middle enforced own first
    -- Only `old` was moved, so the rows that remain to be changed are still there.
    have still : ∀ r ∈ rows, r ∈ middle.rows := by
      intro r member
      have differs : r ≠ old := fun same => absent (same ▸ member)
      rw [one.rows.mem_iff]
      exact TableLaws.mem_mutate_of_spared (rest r member) (by simpa using differs)
    have others := ih one.keys still apart later
    refine ⟨others.name.trans one.name, ?_, others.keys⟩
    refine (others.rows.trans (one.rows.filterMap _)).trans (.of_eq ?_)
    rw [List.filterMap_filterMap]
    apply List.filterMap_congr
    intro r member
    exact TableLaws.mutate_mutate (one.rows.nodup one.keys.of_map) listed distinct member

theorem delete_exact {ref : TableRef} {t : Table} (enforced : (t.rows.map Row.key).Nodup)
    {rows : List Row} (listed : ∀ r ∈ rows, r ∈ t.rows) (distinct : rows.Nodup) :
    Exact ref .delete t rows (t.delete rows) := by
  have always : rows.foldlM (fun t row => (.ok (t.erase row.key) : Except Failure Table)) t =
      .ok (t.delete rows) := List.foldlM_pure
  apply foldlM_exact ?_ enforced listed distinct always
  rintro t old _ keys member ⟨⟩
  exact erase_exact keys member

theorem update_exact {ref : TableRef} {set : AssignmentSet} {t after : Table}
    (enforced : (t.rows.map Row.key).Nodup) {rows : List Row} (listed : ∀ r ∈ rows, r ∈ t.rows)
    (distinct : rows.Nodup) (changed : t.update set rows = .ok after) :
    Exact ref (stated set) t rows after :=
  foldlM_exact (fun _ _ _ keys member one => updateRow_exact keys member one) enforced listed
    distinct changed

end Table

namespace Database

variable {db : Database} {ref : TableRef} {t : Table}

theorem rowsOf_eq (found : db.table ref = .ok t) : db.rowsOf ref = t.rows := by
  rw [rowsOf, found]

theorem table_eq_ok_iff :
    db.table ref = .ok t ↔
      ref.schema.all (sameName "main") = true ∧
        db.tables.find? (fun t => sameName ref.name t.name) = some t := by
  unfold table
  split
  · next local_ =>
    cases found : db.tables.find? (fun t => sameName ref.name t.name) <;> simp [local_]
  · next foreign => simp [foreign]

theorem table_replaced (found : db.table ref = .ok t) {changed : Table}
    (name : changed.name = t.name) (changes : Nat) :
    ({ db with tables := db.replaced changed, changes } : Database).table ref = .ok changed := by
  rw [table_eq_ok_iff] at found ⊢
  refine ⟨found.1, ?_⟩
  have sameNames : (fun t : Table => sameName ref.name t.name) ∘
      (fun old => if old.name = changed.name then changed else old) =
        fun t => sameName ref.name t.name := by
    funext old
    simp only [Function.comp_apply]
    split
    · next same => rw [same]
    · rfl
  change (db.tables.map _).find? _ = _
  rw [List.find?_map, sameNames, found.2, Option.map_some, if_pos name.symm]

theorem selected_eq (t : Table) {condition : Option Condition}
    (wellFormed : ∀ p ∈ condition, p.simplified.WellFormed) {limit : Option RowLimit}
    (small : ∀ n ∈ RowLimit.rows? limit, n < 2 ^ 63) :
    t.selected condition limit = .ok (upTo (RowLimit.rows? limit)
      (t.rows.filter (Row.satisfies (condition.map Condition.stated)))) := by
  have same : (fun r : Row => condition.all fun c => (r.truth c).holds) =
      Row.satisfies (condition.map Condition.stated) :=
    funext fun r => (r.satisfies_stated wellFormed).symm
  unfold Table.selected
  rw [same]
  cases limit with
  | none => rfl
  | some l => exact if_pos (small _ rfl)

theorem change_ok {result : Except Failure (List Table × Nat)} {after : Database}
    {rows : List (List Value)} (done : change result db = (.ok rows, after)) :
    ∃ tables count, result = .ok (tables, count) ∧
      after = { db with tables, changes := count } := by
  cases result with
  | error f => cases done
  | ok changed =>
    cases done
    exact ⟨changed.1, changed.2, rfl, rfl⟩

theorem execute_ok {c : Command} {after : Database} {count : UInt64}
    (done : execute c db = (.ok count, after)) :
    run c db = (.ok [], after) ∧ count = after.changes.toUInt64 := by
  unfold execute at done
  split at done
  · next ran =>
    cases done
    exact ⟨ran, rfl⟩
  · cases done
  · cases done

theorem replaced_exact {change : RowChange} {condition : Option Written}
    (found : db.table ref = .ok t) {changed : Table}
    (exact : Table.Exact ref change t (t.rows.filter (Row.satisfies condition)) changed)
    (changes : Nat) :
    (rowsOf { db with tables := db.replaced changed, changes } ref).Perm
        (t.rows.filterMap ((tableView ref).mutate change (Row.satisfies condition))) ∧
      ((rowsOf { db with tables := db.replaced changed, changes } ref).map Row.key).Nodup := by
  rw [rowsOf_eq (table_replaced found exact.name changes)]
  rw [TableLaws.mutate_chosen (.refl _)]
  exact ⟨exact.rows, exact.keys⟩

theorem mutation_exact {c : Command} (composed : c.Composed Backend.sqlite.dialect)
    {change : RowChange} {condition : Option Written}
    (told : c.stated? Backend.sqlite.dialect = some (.mutate change ref condition none))
    {after : Database} {count : UInt64} (enforced : ((db.rowsOf ref).map Row.key).Nodup)
    (done : execute c db = (.ok count, after)) :
    count = ((db.rowsOf ref).countP (Row.satisfies condition)).toUInt64 ∧
      (after.rowsOf ref).Perm
        ((db.rowsOf ref).filterMap ((tableView ref).mutate change (Row.satisfies condition))) ∧
      ((after.rowsOf ref).map Row.key).Nodup := by
  obtain ⟨action, p, clause, rfl, rfl, rfl, unlimited⟩ := Command.eq_of_stated?_mutate told
  obtain rfl := Option.map_eq_none_iff.mp unlimited.symm
  obtain ⟨ran, rfl⟩ := execute_ok done
  have listed : ∀ t : Table, ∀ r ∈ t.rows.filter (Row.satisfies (p.map Condition.stated)),
      r ∈ t.rows :=
    fun t r member => List.mem_of_mem_filter member
  have all (t : Table) (wellFormed : ∀ q ∈ p, q.simplified.WellFormed) :
      t.selected p none = .ok (t.rows.filter (Row.satisfies (p.map Condition.stated))) :=
    selected_eq t wellFormed (by rintro n ⟨⟩)
  cases action with
  | delete =>
    obtain ⟨tables, count, deleted, rfl⟩ := change_ok ran
    obtain ⟨t, found, rest⟩ := bind_eq_ok_iff.mp deleted
    rw [all t composed.condition] at rest
    cases rest
    rw [rowsOf_eq found] at enforced ⊢
    refine ⟨by rw [List.countP_eq_length_filter], replaced_exact found ?_ _⟩
    exact Table.delete_exact enforced (listed t) (enforced.of_map.filter _)
  | update set =>
    obtain ⟨tables, count, updated, rfl⟩ := change_ok ran
    obtain ⟨t, found, rest⟩ := bind_eq_ok_iff.mp updated
    dsimp only at rest
    split at rest
    · cases rest
    · obtain ⟨rows, selected, rest⟩ := bind_eq_ok_iff.mp rest
      rw [all t composed.condition] at selected
      cases selected
      obtain ⟨changed, one, last⟩ := bind_eq_ok_iff.mp rest
      cases last
      rw [rowsOf_eq found] at enforced ⊢
      refine ⟨by rw [List.countP_eq_length_filter], replaced_exact found ?_ _⟩
      exact Table.update_exact enforced (listed t) (enforced.of_map.filter _) one

theorem selection_exact {c : Command} (composed : c.Composed Backend.sqlite.dialect)
    {columns : List String} {condition : Option Written} {limit : Option Nat}
    (told : c.stated? Backend.sqlite.dialect = some (.select columns ref condition limit))
    (small : ∀ n ∈ limit, n < 2 ^ 63) {after : Database} {keys : List (List Value)}
    (ran : run c db = (.ok keys, after)) :
    after = db ∧ keys = (upTo limit ((db.rowsOf ref).filter (Row.satisfies condition))).map
      fun r => columns.map r.get := by
  obtain ⟨p, clause, rfl, rfl, rfl⟩ := Command.eq_of_stated?_select told
  obtain ⟨answered, rfl⟩ := Prod.mk.inj ran
  obtain ⟨t, found, rest⟩ := bind_eq_ok_iff.mp answered
  have wellFormed : ∀ q ∈ p, q.simplified.WellFormed := composed.condition
  rw [selected_eq t wellFormed small] at rest
  cases rest
  rw [rowsOf_eq found]
  exact ⟨rfl, rfl⟩

end Database

/-- The embedded database runs statements on a table as sessions rely on. -/
theorem tableLaws (ref : TableRef) :
    TableLaws engine.connection Backend.sqlite.dialect ref [keyName] (tableView ref) where
  equal := collation_self
  begun h k begins := by
    change Handle.begin engine h = (.ok (), k) at begins
    cases begins
    exact ⟨rfl, rfl⟩
  committed h k commits := by
    change Handle.commit engine h = (.ok (), k) at commits
    unfold Handle.commit at commits
    split at commits
    · next after released =>
      cases commits
      change reported (Database.release _) _ = _ at released
      have closed := reported_ok released
      unfold Database.release at closed
      split at closed <;> cases closed
      rfl
    · cases commits
  scan_perm _ _ := .refl _
  selected h k r columns condition limit keys own composed told small selects := by
    obtain ⟨answered, rfl⟩ := Prod.mk.inj selects
    have ran := reported_ok (Prod.ext answered rfl)
    obtain ⟨d, command⟩ := r
    obtain rfl : d = Backend.sqlite.dialect := own
    rw [Request.readCommand?_statement composed] at told
    obtain ⟨same, returned⟩ := Database.selection_exact composed told small ran
    exact ⟨congrArg (Database.rowsOf · ref) same, returned⟩
  mutated h k r change condition count own composed told enforced executes := by
    obtain ⟨answered, rfl⟩ := Prod.mk.inj executes
    have ran := reported_ok (Prod.ext answered rfl)
    obtain ⟨d, command⟩ := r
    obtain rfl : d = Backend.sqlite.dialect := own
    rw [Request.readCommand?_statement composed] at told
    rw [keyEnforced_iff]
    exact Database.mutation_exact composed told (keyEnforced_iff.mp enforced) ran

end BulkDml.Store
