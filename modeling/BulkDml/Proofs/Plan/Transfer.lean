import BulkDml.Proofs.Assignment.Typing
import BulkDml.Proofs.Plan.Limit

namespace BulkDml

inductive AgreeInKind {α β : Type} (related : α → β → Prop) :
    Except Error α → Except Error β → Prop where
  | ok {a : α} {b : β} (same : related a b) : AgreeInKind related (.ok a) (.ok b)
  | error {e e' : Error} (kind : e.code = e'.code) : AgreeInKind related (.error e) (.error e')

namespace AgreeInKind

variable {α β γ δ : Type} {related : α → β → Prop} {x : Except Error α} {y : Except Error β}

theorem refl (x : Except Error α) : AgreeInKind Eq x x := by
  cases x with
  | error e => exact .error rfl
  | ok a => exact .ok rfl

theorem bind (first : AgreeInKind related x y) {f : α → Except Error γ} {g : β → Except Error δ}
    {goal : γ → δ → Prop}
    (next : ∀ a b, x = .ok a → y = .ok b → related a b → AgreeInKind goal (f a) (g b)) :
    AgreeInKind goal (x >>= f) (y >>= g) := by
  cases first with
  | ok same => exact next _ _ rfl rfl same
  | error kind => exact .error kind

theorem imp (agree : AgreeInKind related x y) {other : α → β → Prop}
    (each : ∀ a b, related a b → other a b) : AgreeInKind other x y := by
  cases agree with
  | ok same => exact .ok (each _ _ same)
  | error kind => exact .error kind

theorem mapM {f g : α → Except Error β} (each : ∀ a, AgreeInKind Eq (f a) (g a)) (as : List α) :
    AgreeInKind Eq (as.mapM f) (as.mapM g) := by
  induction as with
  | nil => exact .ok rfl
  | cons a as ih =>
    rw [List.mapM_cons, List.mapM_cons]
    refine (each a).bind fun b _ _ _ first => ih.bind fun bs _ _ _ rest => ?_
    rw [first, rest]
    exact .ok rfl

end AgreeInKind

namespace Mapping

def SameFields (m m' : Mapping) : Prop :=
  m.columns.map (·.field) = m'.columns.map (·.field)

variable {m m' : Mapping}

theorem SameFields.exists_iff (same : m.SameFields m') {field : String} :
    (∃ c ∈ m.columns, c.field = field) ↔ ∃ c ∈ m'.columns, c.field = field := by
  rw [← List.mem_map, ← List.mem_map]
  exact iff_of_eq (congrArg (field ∈ ·) same)

theorem SameFields.resolveColumn (same : m.SameFields m') (field : String) :
    AgreeInKind (fun _ _ => True) (m.resolveColumn field) (m'.resolveColumn field) := by
  by_cases mapped : ∃ c ∈ m.columns, c.field = field
  · obtain ⟨c', place'⟩ := same.exists_iff.mp mapped
    obtain ⟨c, place⟩ := mapped
    rw [m.resolveColumn_eq_ok_iff.mpr place, m'.resolveColumn_eq_ok_iff.mpr place']
    exact .ok trivial
  · have absent := mapped
    rw [same.exists_iff] at absent
    rw [m.resolveColumn_eq_error_iff.mpr ⟨rfl, by simpa using mapped⟩,
      m'.resolveColumn_eq_error_iff.mpr ⟨rfl, by simpa using absent⟩]
    exact .error rfl

def Holds (m : Mapping) (field name : String) : Prop :=
  ∃ c ∈ m.columns, c.field = field ∧ c.name = name

end Mapping

namespace AssignedValue

def columns : AssignedValue → List String
  | column name => [name]
  | derived _ operand => operand.columns
  | binary left _ right => left.columns ++ right.columns
  | _ => []

theorem columns_of_lowered {m : Mapping} {e : Expr} {v : AssignedValue} (lowered : e.Lowered m v) :
    List.Forall₂ m.Holds e.fields v.columns := by
  induction lowered with
  | literal v => exact .nil
  | param v => exact .nil
  | @field c member => exact .cons ⟨c, member, rfl, rfl⟩ .nil
  | concatenation _ _ _ ihLeft ihRight => exact List.rel_append ihLeft ihRight
  | operation _ _ _ ihLeft ihRight => exact List.rel_append ihLeft ihRight

/-- The column that a value is assigned to stands in the text of derived values only. -/
theorem toFragment_derivedFree (d : Dialect) {v : AssignedValue} (free : v.DerivedFree)
    (own own' : String) : v.toFragment d own = v.toFragment d own' := by
  induction v with
  | derived op operand => exact free.elim
  | binary left op right ihLeft ihRight =>
    rw [toFragment, toFragment, ihLeft free.1, ihRight free.2]
  | _ => rfl

end AssignedValue

namespace Assignment

def write (a : Assignment) : FieldWrite := (a.field, a.value)

variable {target target' : Mapping}

theorem transferWrites_agree (same : target.SameFields target') (source : Mapping)
    (p : Projection) :
    AgreeInKind Eq (transferWrites source target p) (transferWrites source target' p) := by
  rw [transferWrites_eq, transferWrites_eq]
  refine AgreeInKind.mapM (fun x => ?_) p.assignments
  exact (same.resolveColumn x.1).bind fun _ _ _ _ _ => .refl _

theorem collect_agree (same : target.SameFields target') (writes : List FieldWrite) :
    AgreeInKind (fun s t => s.map write = t.map write) (collect target writes)
      (collect target' writes) := by
  have listed (m : Mapping) :
      (m.columns.filterMap fun c => (lastWrite? writes c.field).map fun v =>
          (⟨c.field, c.name, v⟩ : Assignment)).map write =
        (m.columns.map (·.field)).filterMap fun field =>
          (lastWrite? writes field).map fun v => (field, v) := by
    rw [List.map_filterMap, List.filterMap_map]
    refine List.filterMap_congr fun c _ => ?_
    rw [Option.map_map]
    rfl
  have sameWrites := listed target
  rw [show target.columns.map (·.field) = _ from same, ← listed target'] at sameWrites
  unfold collect
  generalize target.columns.filterMap _ = assignments at sameWrites ⊢
  generalize target'.columns.filterMap _ = others at sameWrites ⊢
  have none : assignments.isEmpty = others.isEmpty := by
    have mapped : (assignments.map write).isEmpty = (others.map write).isEmpty := by rw [sameWrites]
    rwa [List.isEmpty_map, List.isEmpty_map] at mapped
  dsimp only
  rw [none]
  split
  · exact .error rfl
  · exact .ok sameWrites

theorem ofTransfer_agree (same : target.SameFields target') (source : Mapping) (p : Projection) :
    AgreeInKind (fun s t => s.map write = t.map write) (ofTransfer source target p)
      (ofTransfer source target' p) := by
  refine (transferWrites_agree same source p).bind fun writes _ _ _ equal => ?_
  rw [← equal]
  exact collect_agree same writes

end Assignment

namespace AssignmentSet

/-- No value is derived from the column that it is assigned to. Each names the columns of the source
for the fields in the last expression for its own field. -/
structure ReadsFrom (source : Mapping) (p : Projection) (s : AssignmentSet) : Prop where
  derivedFree : ∀ a ∈ s.assignments, a.value.DerivedFree
  columns : ∀ a ∈ s.assignments, ∃ e, Latest p.assignments a.field e ∧
    List.Forall₂ source.Holds e.fields a.value.columns

structure SameSelection (s t : AssignmentSet) : Prop where
  writes : s.assignments.map Assignment.write = t.assignments.map Assignment.write
  selectList : s.selectList = t.selectList

variable {d : Dialect} {source target : Mapping} {p : Projection}

theorem readsFrom_ofTransfer {s : AssignmentSet} (compiled : ofTransfer d source target p = .ok s) :
    s.ReadsFrom source p := by
  obtain ⟨assignments, assigned, rfl⟩ := map_eq_ok_iff.mp compiled
  refine ⟨Assignment.derivedFree_ofTransfer assigned, fun a member => ?_⟩
  obtain ⟨e, latest, lowered⟩ := Assignment.ofTransfer_lowered assigned member
  exact ⟨e, latest, AssignedValue.columns_of_lowered lowered⟩

theorem sameSelection_of_writes {as bs : List Assignment}
    (same : as.map Assignment.write = bs.map Assignment.write)
    (free : ∀ a ∈ as, a.value.DerivedFree) (free' : ∀ b ∈ bs, b.value.DerivedFree) :
    SameSelection ⟨d, as⟩ ⟨d, bs⟩ := by
  have text {as : List Assignment} (free : ∀ a ∈ as, a.value.DerivedFree) :
      as.map (·.valueFragment d) =
        (as.map Assignment.write).map fun w => w.2.toFragment d "" := by
    rw [List.map_map]
    exact List.map_congr_left fun a member =>
      AssignedValue.toFragment_derivedFree d (free a member) _ _
  refine ⟨same, ?_⟩
  simp only [selectList]
  rw [text free, text free', same]

theorem ofTransfer_agree (d : Dialect) (source : Mapping) (p : Projection) {target' : Mapping}
    (same : target.SameFields target') :
    AgreeInKind SameSelection (ofTransfer d source target p) (ofTransfer d source target' p) := by
  refine (Assignment.ofTransfer_agree same source p).bind fun as bs compiled compiled' writes => ?_
  exact .ok (sameSelection_of_writes writes (Assignment.derivedFree_ofTransfer compiled)
    (Assignment.derivedFree_ofTransfer compiled'))

end AssignmentSet

namespace Plan

def insertHead (d : Dialect) (target : TableRef) (s : AssignmentSet) : String :=
  "INSERT INTO " ++ d.quoteTable target ++ " (" ++ s.columnList ++ ")"

def InsertAlike (head head' : String) (plan plan' : Plan) : Prop :=
  ∃ r r' rest, plan = .single r ∧ plan' = .single r' ∧
    r.statement.sql = head ++ rest ∧ r'.statement.sql = head' ++ rest ∧
    r.statement.params = r'.statement.params

variable {d : Dialect} {s t : AssignmentSet}

theorem statement_insert {target source : TableRef} {condition : Option Condition}
    {limit : Option RowLimit} {body : Fragment}
    (read : (Command.insert target s source condition limit).body d = body) :
    Request.statement ⟨d, .insert target s source condition limit⟩ =
      ⟨insertHead d target s ++ (" SELECT " ++ RowLimit.afterVerb limit ++ (d.render body).sql ++
        RowLimit.atEnd limit), (d.render body).params⟩ := by
  have verb : (Command.insert target s source condition limit).verb d =
      insertHead d target s ++ " SELECT " := by
    simp only [Command.verb, insertHead, String.append_assoc]
    rfl
  rw [Command.statement_eq rfl, verb, read]
  simp only [String.append_assoc]
  rfl

theorem insertAlike_of_sameSelection (same : s.SameSelection t) (source target target' : TableRef)
    (condition : Option Condition) (limit : Option RowLimit) :
    InsertAlike (insertHead d target s) (insertHead d target' t)
      (.single ⟨d, .insert target s source condition limit⟩)
      (.single ⟨d, .insert target' t source condition limit⟩) := by
  have body : (Command.insert target' t source condition limit).body d =
      (Command.insert target s source condition limit).body d := by
    rw [Command.body, Command.body, same.selectList]
  have second := statement_insert body
  refine ⟨_, _, _, rfl, rfl, congrArg Statement.sql (statement_insert rfl),
    congrArg Statement.sql second, ?_⟩
  rw [second, statement_insert rfl]

theorem transfer_agree (same : s.SameSelection t) (source target target' : Mapping)
    (condition : Option Condition) (limit : Option UInt64) :
    AgreeInKind (InsertAlike (insertHead d target.tableRef s) (insertHead d target'.tableRef t))
      (transfer d source target condition s limit)
      (transfer d source target' condition t limit) := by
  have alike := insertAlike_of_sameSelection (d := d) same source.tableRef target.tableRef
    target'.tableRef condition
  cases limit with
  | none => exact .ok (alike none)
  | some n =>
    simp only [transfer]
    cases RowLimit.ofStyle? d.selectLimit n with
    | none => exact .error rfl
    | some clause => exact .ok (alike (some clause))

end Plan

namespace Query

theorem insertPlan_eq (d : Dialect) (q : Query) (target : Mapping) (p : Projection) :
    q.insertPlan d target p = (q.condition >>= fun condition =>
      AssignmentSet.ofTransfer d q.mapping target p >>= fun s =>
        Plan.transfer d q.mapping target condition s q.limit?) := by
  have required (s : AssignmentSet) (compiled : s.dialect = d) :
      Plan.requireAssignments d (.insert target) (some s) = .ok s :=
    if_pos (congrArg Dialect.backend compiled)
  rw [insertPlan, AssignmentSet.ofTransfer]
  cases q.condition with
  | error e => rfl
  | ok condition =>
    cases Assignment.ofTransfer q.mapping target p with
    | error e => rfl
    | ok assignments =>
      change Plan.requireAssignments d (.insert target) (some ⟨d, assignments⟩) >>= _ = _
      rw [required ⟨d, assignments⟩ rfl, limit?_filter]
      rfl

/-- An insert from a query reads the source only. -/
theorem insertPlan_readsSource (d : Dialect) (q : Query) (target : Mapping) (p : Projection) :
    (∀ s, AssignmentSet.ofTransfer d q.mapping target p = .ok s → s.ReadsFrom q.mapping p) ∧
      ∀ target', target.SameFields target' →
        AgreeInKind AssignmentSet.SameSelection (AssignmentSet.ofTransfer d q.mapping target p)
            (AssignmentSet.ofTransfer d q.mapping target' p) ∧
          AgreeInKind
            (fun plan plan' => ∃ s t, AssignmentSet.ofTransfer d q.mapping target p = .ok s ∧
              AssignmentSet.ofTransfer d q.mapping target' p = .ok t ∧
              Plan.InsertAlike (Plan.insertHead d target.tableRef s)
                (Plan.insertHead d target'.tableRef t) plan plan')
            (q.insertPlan d target p) (q.insertPlan d target' p) := by
  refine ⟨fun s => AssignmentSet.readsFrom_ofTransfer, fun target' same => ?_⟩
  have sets := AssignmentSet.ofTransfer_agree d q.mapping p same
  refine ⟨sets, ?_⟩
  rw [insertPlan_eq, insertPlan_eq]
  refine (AgreeInKind.refl q.condition).bind fun condition _ _ _ equal => ?_
  rw [← equal]
  refine sets.bind fun s t compiled compiled' selection => ?_
  exact (Plan.transfer_agree selection q.mapping target target' condition q.limit?).imp
    fun plan plan' alike => ⟨s, t, compiled, compiled', alike⟩

/-- The three tables have columns of each other's names for other fields. -/
theorem insertPlan_readsSource_crossedNames :
    let source : Mapping :=
      ⟨⟨none, "orders", [⟨"id", "number", .integer, true⟩, ⟨"name", "buyer", .text, false⟩,
        ⟨"total", "amount", .integer, false⟩]⟩, by decide⟩
    let target : Mapping :=
      ⟨⟨none, "sales", [⟨"total", "number", .real, false⟩, ⟨"name", "name", .text, true⟩]⟩,
        by decide⟩
    let target' : Mapping :=
      ⟨⟨some "old", "ledger", [⟨"total", "buyer", .text, true⟩, ⟨"name", "total", .blob, false⟩]⟩,
        by decide⟩
    let p : Projection := ⟨[("name", .binary (.field "name") .add (.param (.text "!"))),
      ("total", .binary (.field "total") .mul (.literal (.integer 2)))]⟩
    let d := Backend.sqlServer.dialect
    let s : AssignmentSet := ⟨d,
      [⟨"total", "number", .binary (.column "amount") .mul (.literal (.integer 2))⟩,
        ⟨"name", "name", .binary (.column "buyer") .concat (.param (.text "!"))⟩]⟩
    target.SameFields target' ∧ s.ReadsFrom source p ∧
      AgreeInKind AssignmentSet.SameSelection (.ok s)
        (AssignmentSet.ofTransfer d source target' p) ∧
      AgreeInKind
        (Plan.InsertAlike "INSERT INTO [sales] ([number], [name])"
          "INSERT INTO [old].[ledger] ([buyer], [total])")
        ((Query.all source).insertPlan d target p) ((Query.all source).insertPlan d target' p) := by
  intro source target target' p d s
  have law := insertPlan_readsSource d (.all source) target p
  have compiled : AssignmentSet.ofTransfer d source target p = .ok s := rfl
  have same : target.SameFields target' := rfl
  obtain ⟨sets, plans⟩ := law.2 target' same
  let t : AssignmentSet := ⟨d,
    [⟨"total", "buyer", .binary (.column "amount") .mul (.literal (.integer 2))⟩,
      ⟨"name", "total", .binary (.column "buyer") .concat (.param (.text "!"))⟩]⟩
  have compiled' : AssignmentSet.ofTransfer d source target' p = .ok t := rfl
  have sales : Plan.insertHead d target.tableRef s =
      "INSERT INTO [sales] ([number], [name])" := by decide
  have ledger : Plan.insertHead d target'.tableRef t =
      "INSERT INTO [old].[ledger] ([buyer], [total])" := by decide
  refine ⟨same, law.1 s compiled, compiled ▸ sets, plans.imp ?_⟩
  rintro plan plan' ⟨u, v, first, second, alike⟩
  obtain rfl : s = u := Except.ok.inj (compiled.symm.trans first)
  obtain rfl : t = v := Except.ok.inj (compiled'.symm.trans second)
  rw [sales, ledger] at alike
  exact alike

end Query

end BulkDml
