import Mathlib.Data.List.Forall2
import BulkDml.Proofs.Assignment.Compiled
import BulkDml.Proofs.Session.Protocol
import BulkDml.Proofs.Statement.Outline

namespace BulkDml

def Operand.sampled : Operand → Operand
  | value v => value v.presence
  | param v => param v.presence
  | field name => field name

def Filter.sampled : Filter → Filter
  | compare field op operand => compare field op operand.sampled
  | and left right => and left.sampled right.sampled
  | or left right => or left.sampled right.sampled
  | not inner => not inner.sampled
  | isIn field values => isIn field (values.map Value.presence)
  | any values field => any (values.map Value.presence) field
  | isNull field => isNull field
  | isNotNull field => isNotNull field
  | «local» field label predicate => «local» field label predicate

namespace Clause

theorem comparison_presence (field column : String) (op : CompareOp) (v : Value) :
    ofFilter.comparison field column op v.presence =
      (ofFilter.comparison field column op v).map (mapValues Value.presence) := by
  cases v <;> cases op <;> rfl

theorem isNull_presence (v : Value) : v.presence.isNull = v.isNull := by
  cases v <;> rfl

theorem membership_presence (column : String) (values : List Value) :
    membership column (values.map Value.presence) =
      (membership column values).mapValues Value.presence := by
  have listed : (values.map Value.presence).filter (!·.isNull) =
      (values.filter (!·.isNull)).map Value.presence := by
    rw [List.filter_map]
    simp [Function.comp_def, isNull_presence]
  have nulls : (values.map Value.presence).any Value.isNull = values.any Value.isNull := by
    simp [Function.comp_def, isNull_presence]
  simp only [membership, listed, nulls]
  cases values.filter (!·.isNull) with
  | nil => cases values.any Value.isNull <;> rfl
  | cons v present => rfl

theorem ofFilter_sampled (m : Mapping) (f : Filter) :
    ofFilter m f.sampled = (ofFilter m f).map (mapValues Value.presence) := by
  induction f with
  | compare field op operand =>
    simp only [Filter.sampled, ofFilter]
    cases m.resolveColumn field with
    | error e => rfl
    | ok column =>
      cases operand with
      | value v => exact comparison_presence field column.name op v
      | param v => exact comparison_presence field column.name op v
      | field other =>
        simp only [Operand.sampled]
        cases m.resolveColumn other <;> rfl
  | and left right ihLeft ihRight =>
    simp only [Filter.sampled, ofFilter, ihLeft, ihRight]
    cases ofFilter m left <;> cases ofFilter m right <;> rfl
  | or left right ihLeft ihRight =>
    simp only [Filter.sampled, ofFilter, ihLeft, ihRight]
    cases ofFilter m left <;> cases ofFilter m right <;> rfl
  | not inner ih =>
    simp only [Filter.sampled, ofFilter, ih]
    cases ofFilter m inner <;> rfl
  | isIn field values =>
    simp only [Filter.sampled, ofFilter, membership_presence]
    cases m.resolveColumn field <;> rfl
  | any values field =>
    simp only [Filter.sampled, ofFilter, membership_presence]
    cases m.resolveColumn field <;> rfl
  | isNull field =>
    simp only [Filter.sampled, ofFilter]
    cases m.resolveColumn field <;> rfl
  | isNotNull field =>
    simp only [Filter.sampled, ofFilter]
    cases m.resolveColumn field <;> rfl
  | «local» field label predicate => rfl

end Clause

def Expr.sampled : Expr → Expr
  | literal v => literal v.literalSample
  | param v => param v.sample
  | field name => field name
  | binary left op right => binary left.sampled op right.sampled

namespace Expr

theorem type?_sampled (m : Mapping) (e : Expr) : e.sampled.type? m = e.type? m := by
  induction e with
  | literal v => cases v <;> rfl
  | param v => cases v <;> rfl
  | field name => rfl
  | binary left op right ihLeft ihRight => simp only [sampled, type?, ihLeft, ihRight]

theorem resolveOp_sampled (m : Mapping) (op : ArithmeticOp) (left right : Expr) :
    resolveOp m op left.sampled right.sampled = resolveOp m op left right := by
  simp only [resolveOp, eitherText, type?_sampled]

end Expr

namespace AssignedValue

theorem ofExpr_sampled (m : Mapping) (e : Expr) :
    ofExpr m e.sampled = (ofExpr m e).map sampled := by
  induction e with
  | literal v => rfl
  | param v => rfl
  | field name =>
    simp only [Expr.sampled, ofExpr]
    cases m.resolveColumn name <;> rfl
  | binary left op right ihLeft ihRight =>
    simp only [Expr.sampled, ofExpr, Expr.resolveOp_sampled, ihLeft, ihRight]
    cases Expr.resolveOp m op left right <;> cases ofExpr m left <;> cases ofExpr m right <;> rfl

theorem ofOwnExpr_sampled (m : Mapping) (field : String) (e : Expr) :
    ofOwnExpr m field e.sampled = (ofOwnExpr m field e).map sampled := by
  have other := ofExpr_sampled m e
  cases e with
  | binary left op right =>
    cases left with
    | field name =>
      have resolved := Expr.resolveOp_sampled m op (.field name) right
      simp only [Expr.sampled] at other resolved ⊢
      simp only [ofOwnExpr]
      split
      · simp only [resolved, ofExpr_sampled]
        cases Expr.resolveOp m op (.field name) right <;> cases ofExpr m right <;> rfl
      · exact other
    | _ => exact other
  | _ => exact other

end AssignedValue

section
variable {ε α β γ δ : Type}

theorem map_bind_congr {x y : Except ε α} {sample : α → δ} (same : x.map sample = y.map sample)
    {f g : α → Except ε β} {result : β → γ}
    (next : ∀ a b, sample a = sample b → (f a).map result = (g b).map result) :
    (x >>= f).map result = (y >>= g).map result := by
  cases x with
  | error e =>
    cases y with
    | error e' =>
      cases same
      rfl
    | ok b => cases same
  | ok a =>
    cases y with
    | error e' => cases same
    | ok b => exact next a b (Except.ok.inj same)

theorem map_mapM_congr {related : α → β → Prop} {xs : List α} {ys : List β}
    (lists : List.Forall₂ related xs ys) {f : α → Except ε γ} {g : β → Except ε γ}
    {result : γ → δ} (each : ∀ x y, related x y → (f x).map result = (g y).map result) :
    (xs.mapM f).map (List.map result) = (ys.mapM g).map (List.map result) := by
  induction lists with
  | nil => rfl
  | cons first _ ih =>
    rw [List.mapM_cons, List.mapM_cons]
    refine map_bind_congr (each _ _ first) fun a b same => ?_
    refine map_bind_congr ih fun as bs sames => ?_
    exact congrArg Except.ok (congrArg₂ List.cons same sames)

end

namespace ColumnType

theorem accepts_sample (t : ColumnType) (v : Value) : t.accepts v.sample = t.accepts v := by
  cases t <;> cases v <;> rfl

end ColumnType

theorem Value.typeName_sample (v : Value) : v.sample.typeName = v.typeName := by
  cases v <;> rfl

/-- Entries that differ in the value at most, which is of the same type. In an entry of a row, both
values are the unset value of the column, or none is. -/
structure TemplateEntry.Alike (m : Mapping) (e e' : TemplateEntry) : Prop where
  field : e.field = e'.field
  explicit : e.explicit = e'.explicit
  sample : e.value.sample = e'.value.sample
  unset : e.explicit = false → ∀ c, m.resolveColumn e.field = .ok c →
    c.type.isUnset e.value = c.type.isUnset e'.value

structure Template.Alike (m : Mapping) (t t' : Template) : Prop where
  entries : List.Forall₂ (TemplateEntry.Alike m) t.entries t'.entries
  included : t.included = t'.included

theorem Template.Alike.fields_eq {m : Mapping} {t t' : Template} (alike : t.Alike m t') :
    t.entries.map (·.field) = t'.entries.map (·.field) := by
  rw [← List.forall₂_eq_eq_eq, List.forall₂_map_left_iff, List.forall₂_map_right_iff]
  exact alike.entries.imp fun _ _ related => related.field

namespace Projection

def sampled (p : Projection) : Projection :=
  ⟨p.assignments.map fun (field, e) => (field, e.sampled)⟩

theorem forall₂_of_sampled {p p' : Projection} (same : p.sampled = p'.sampled) :
    List.Forall₂ (fun x y : String × Expr => (x.1, x.2.sampled) = (y.1, y.2.sampled))
      p.assignments p'.assignments := by
  have lists := Projection.mk.inj same
  rw [← List.forall₂_eq_eq_eq, List.forall₂_map_left_iff, List.forall₂_map_right_iff] at lists
  exact lists

end Projection

inductive Mutation.Alike (m : Mapping) : Mutation → Mutation → Prop where
  | template {t t' : Template} (alike : t.Alike m t') : Alike m (.template t) (.template t')
  | projection {p p' : Projection} (same : p.sampled = p'.sampled) :
      Alike m (.projection p) (.projection p')

namespace Assignment

def sampledWrite (w : FieldWrite) : FieldWrite := (w.1, w.2.sampled)

theorem collect_sampled (m : Mapping) (writes : List FieldWrite) :
    collect m (writes.map sampledWrite) = (collect m writes).map (List.map sampled) :=
  collect_map (fun _ v => v.sampled) (fun _ _ _ => rfl) writes

/-- Writes to the fields of a table, with values that are compiled one by one. -/
theorem writes_congr (table : Mapping) {value : String → Expr → Except Error AssignedValue}
    (values : ∀ field e, value field e.sampled = (value field e).map AssignedValue.sampled)
    {p p' : Projection} (same : p.sampled = p'.sampled) :
    let write : String × Expr → Except Error FieldWrite := fun (field, e) => do
      let _ ← table.resolveColumn field
      return (field, ← value field e)
    (p.assignments.mapM write).map (List.map sampledWrite) =
      (p'.assignments.mapM write).map (List.map sampledWrite) := by
  refine map_mapM_congr (Projection.forall₂_of_sampled same) ?_
  rintro ⟨field, e⟩ ⟨field', e'⟩ alike
  obtain ⟨rfl, sampled⟩ := Prod.mk.inj alike
  have related : (value field e).map AssignedValue.sampled =
      (value field e').map AssignedValue.sampled := by
    rw [← values, ← values]
    exact congrArg (value field) sampled
  dsimp only
  cases table.resolveColumn field with
  | error e => rfl
  | ok c =>
    refine map_bind_congr related fun v w same => ?_
    exact congrArg (fun v => Except.ok (field, v)) same

variable {m : Mapping} {t t' : Template}

theorem entryAssigns_congr {c : Column} {e e' : TemplateEntry} (alike : e.Alike m e')
    (resolved : m.resolveColumn e.field = .ok c) (included : t.included = t'.included) :
    entryAssigns t c e = entryAssigns t' c e' := by
  unfold entryAssigns
  rw [← alike.explicit, ← alike.field, ← included]
  -- A value that was set one by one is assigned also where it is the unset value.
  cases explicit : e.explicit with
  | true => rfl
  | false => rw [alike.unset explicit c resolved]

theorem entryWrite_congr {e e' : TemplateEntry} (alike : e.Alike m e')
    (included : t.included = t'.included) :
    (entryWrite m t e).map (Option.map sampledWrite) =
      (entryWrite m t' e').map (Option.map sampledWrite) := by
  have accepts (c : Column) : c.type.accepts e'.value = c.type.accepts e.value := by
    rw [← ColumnType.accepts_sample, ← ColumnType.accepts_sample _ e.value, alike.sample]
  have typeName : e'.value.typeName = e.value.typeName := by
    rw [← Value.typeName_sample, ← Value.typeName_sample e.value, alike.sample]
  unfold entryWrite
  rw [← alike.field]
  cases resolved : m.resolveColumn e.field with
  | error _ => rfl
  | ok c =>
    have assigns := entryAssigns_congr alike resolved included
    simp only [bind, Except.bind, accepts, typeName, assigns]
    split
    · split
      · exact congrArg (fun v => Except.ok (some (e.field, AssignedValue.param v))) alike.sample
      · rfl
    · rfl

theorem templateWrites_congr (alike : t.Alike m t') :
    (templateWrites m t).map (List.map sampledWrite) =
      (templateWrites m t').map (List.map sampledWrite) := by
  have missing : (t.included.filter fun field => !(t.entries.any (·.field == field))) =
      t'.included.filter fun field => !(t'.entries.any (·.field == field)) := by
    have anyEntry (t : Template) (field : String) : t.entries.any (·.field == field) =
        (t.entries.map (·.field)).any (· == field) := by
      rw [List.any_map]
      rfl
    simp only [anyEntry, alike.fields_eq, alike.included]
  unfold templateWrites
  have each (e e' : TemplateEntry) (related : e.Alike m e') :=
    entryWrite_congr related alike.included
  refine map_bind_congr (map_mapM_congr alike.entries each) fun writes writes' same => ?_
  dsimp only
  rw [missing]
  cases (t'.included.filter fun field => !(t'.entries.any (·.field == field))).mapM
      (includeWrite m) with
  | error e => rfl
  | ok included =>
    have written (writes : List (Option FieldWrite)) :
        (writes.filterMap id ++ included).map sampledWrite =
          (writes.map (Option.map sampledWrite)).filterMap id ++ included.map sampledWrite := by
      rw [List.map_append, List.map_filterMap, List.filterMap_map]
      rfl
    change Except.ok ((writes.filterMap id ++ included).map sampledWrite) =
      Except.ok ((writes'.filterMap id ++ included).map sampledWrite)
    rw [written, written, same]

theorem collect_congr (m : Mapping) {writes writes' : List FieldWrite}
    (same : writes.map sampledWrite = writes'.map sampledWrite) :
    (collect m writes).map (List.map sampled) = (collect m writes').map (List.map sampled) := by
  rw [← collect_sampled, ← collect_sampled, same]

theorem ofMutation_congr {change change' : Mutation} (alike : change.Alike m change') :
    (ofMutation m change).map (List.map sampled) =
      (ofMutation m change').map (List.map sampled) := by
  cases alike with
  | template alike =>
    exact map_bind_congr (templateWrites_congr alike) fun _ _ => collect_congr m
  | projection same =>
    exact map_bind_congr (writes_congr m (AssignedValue.ofOwnExpr_sampled m) same)
      fun _ _ => collect_congr m

theorem ofTransfer_congr (source target : Mapping) {p p' : Projection}
    (same : p.sampled = p'.sampled) :
    (ofTransfer source target p).map (List.map sampled) =
      (ofTransfer source target p').map (List.map sampled) :=
  map_bind_congr (writes_congr target (fun _ => AssignedValue.ofExpr_sampled source) same)
    fun _ _ => collect_congr target

end Assignment

namespace Query

def sampled (q : Query) : Query := { q with filter := q.filter.map Filter.sampled }

theorem condition_sampled (q : Query) :
    q.sampled.condition = q.condition.map (Option.map Condition.sampled) := by
  obtain ⟨m, filter, taken⟩ := q
  cases filter with
  | none => rfl
  | some f =>
    simp only [sampled, condition, Option.map_some, Clause.ofFilter_sampled]
    cases Clause.ofFilter m f <;> rfl

variable {q q' : Query}

theorem mapping_eq (same : q.sampled = q'.sampled) : q.mapping = q'.mapping := by
  have mappings : q.sampled.mapping = q'.sampled.mapping := by rw [same]
  exact mappings

theorem limit?_eq (same : q.sampled = q'.sampled) : q.limit? = q'.limit? := by
  have limits : q.sampled.limit? = q'.sampled.limit? := by rw [same]
  exact limits

theorem condition_congr (same : q.sampled = q'.sampled) :
    q.condition.map (Option.map Condition.sampled) =
      q'.condition.map (Option.map Condition.sampled) := by
  rw [← condition_sampled, ← condition_sampled, same]

end Query

namespace Plan

variable (d : Dialect) (kind : StatementKind) (m : Mapping) (condition : Option Condition)
  (limit : Option UInt64)

theorem mutation_sampled (action : KeyedAction) :
    mutation d action.sampled kind m (condition.map Condition.sampled) limit =
      (mutation d action kind m condition limit).map sampled := by
  have command (clause : Option RowLimit) :
      mutationCommand action.sampled m.tableRef (condition.map Condition.sampled) clause =
        (mutationCommand action m.tableRef condition clause).sampled := by
    cases action <;> rfl
  cases limit with
  | none =>
    rw [mutation, mutation, command]
    rfl
  | some n =>
    simp only [mutation]
    split
    · rw [command]
      rfl
    · split <;> rfl

theorem transfer_sampled (target : Mapping) (set : AssignmentSet) :
    transfer d m target (condition.map Condition.sampled) set.sampled limit =
      (transfer d m target condition set limit).map sampled := by
  cases limit with
  | none => rfl
  | some n =>
    simp only [transfer]
    split <;> rfl

theorem build_sampled (set : Option AssignmentSet) :
    build d kind m (condition.map Condition.sampled) (set.map AssignmentSet.sampled) limit =
      (build d kind m condition set limit).map sampled := by
  have required : requireAssignments d kind (set.map AssignmentSet.sampled) =
      (requireAssignments d kind set).map AssignmentSet.sampled := by
    cases set with
    | none => rfl
    | some set =>
      simp only [requireAssignments, Option.map_some, AssignmentSet.sampled]
      split <;> rfl
  cases kind with
  | delete => exact mutation_sampled d .delete m condition _ .delete
  | update =>
    simp only [build, required]
    cases requireAssignments d .update set with
    | error e => rfl
    | ok set => exact mutation_sampled d .update m condition _ (.update set)
  | insert target =>
    simp only [build, required]
    cases requireAssignments d (.insert target) set with
    | error e => rfl
    | ok set => exact transfer_sampled d m condition _ target set

end Plan

namespace Bulk

inductive Alike : Bulk → Bulk → Prop where
  | delete {q q' : Query} (queries : q.sampled = q'.sampled) : Alike (.delete q) (.delete q')
  | update {q q' : Query} {change change' : Mutation} (queries : q.sampled = q'.sampled)
      (changes : change.Alike q.mapping change') : Alike (.update q change) (.update q' change')
  | insert {q q' : Query} (target : Mapping) {p p' : Projection}
      (queries : q.sampled = q'.sampled) (projections : p.sampled = p'.sampled) :
      Alike (.insert q target p) (.insert q' target p')

theorem plan_congr (d : Dialect) {o o' : Bulk} (alike : o.Alike o') :
    (o.plan d).map Plan.sampled = (o'.plan d).map Plan.sampled := by
  have built (kind : StatementKind) (m : Mapping) (limit : Option UInt64)
      {condition condition' : Option Condition} {set set' : Option AssignmentSet}
      (conditions : condition.map Condition.sampled = condition'.map Condition.sampled)
      (sets : set.map AssignmentSet.sampled = set'.map AssignmentSet.sampled) :
      (Plan.build d kind m condition set limit).map Plan.sampled =
        (Plan.build d kind m condition' set' limit).map Plan.sampled := by
    rw [← Plan.build_sampled, ← Plan.build_sampled, conditions, sets]
  have assigned {assignments assignments' : List Assignment}
      (same : assignments.map Assignment.sampled = assignments'.map Assignment.sampled) :
      (some (⟨d, assignments⟩ : AssignmentSet)).map AssignmentSet.sampled =
        (some ⟨d, assignments'⟩).map AssignmentSet.sampled := by
    simp [AssignmentSet.sampled, same]
  -- The two runs go through the same steps: condition, assignments, plan.
  cases alike with
  | @delete q q' queries =>
    refine map_bind_congr (Query.condition_congr queries) fun condition condition' conditions => ?_
    rw [Query.mapping_eq queries, Query.limit?_eq queries]
    exact built .delete _ _ conditions rfl
  | @update q q' change change' queries changes =>
    refine map_bind_congr (Query.condition_congr queries) fun condition condition' conditions => ?_
    have assignments := Assignment.ofMutation_congr changes
    rw [Query.mapping_eq queries] at assignments
    rw [Query.mapping_eq queries, Query.limit?_eq queries]
    refine map_bind_congr assignments fun _ _ same => ?_
    exact built .update _ _ conditions (assigned same)
  | @insert q q' target p p' queries projections =>
    refine map_bind_congr (Query.condition_congr queries) fun condition condition' conditions => ?_
    have assignments := Assignment.ofTransfer_congr q.mapping target projections
    rw [Query.mapping_eq queries] at assignments
    rw [Query.mapping_eq queries, Query.limit?_eq queries]
    refine map_bind_congr assignments fun _ _ same => ?_
    exact built (.insert target) _ _ conditions (assigned same)

/-- The values that an operation binds do not reach the text of its statements: with others in their
place it fails with the same error, or its plan has the same texts. -/
theorem plan_sameText (d : Dialect) {o o' : Bulk} (alike : o.Alike o') :
    Agree Plan.SameText (o.plan d) (o'.plan d) :=
  Agree.of_map (plan_congr d alike) fun _ _ => Plan.sameText_of_sampled

def notes : Mapping :=
  ⟨⟨none, "notes", [⟨"id", "id", .integer, true⟩, ⟨"text", "text", .text, false⟩,
    ⟨"size", "size", .integer, false⟩]⟩, by decide⟩

theorem plan_sameText_injected :
    let filter (v w : Value) := Filter.and (.compare "text" .ne (.value v)) (.isIn "id" [w, .null])
    let change (s t : String) := Mutation.projection ⟨[
      ("text", .binary (.field "text") .add (.param (.text s))), ("size", .literal (.integer 7)),
      ("text", .binary (.literal (.text t)) .concat (.field "text"))]⟩
    let o := Bulk.update ⟨notes, some (filter (.text "a") (.integer 1)), some 3⟩ (change "b" "c")
    let o' := Bulk.update ⟨notes, some (filter (.integer 5) (.text "1) OR (1 = 1")), some 3⟩
      (change "'; DROP TABLE notes; --" "?1")
    o.Alike o' ∧
      Agree Plan.SameText (o.plan Backend.sqlite.dialect) (o'.plan Backend.sqlite.dialect) := by
  intro filter change o o'
  have alike : o.Alike o' := .update rfl (.projection rfl)
  exact ⟨alike, plan_sameText Backend.sqlite.dialect alike⟩

end Bulk

end BulkDml
