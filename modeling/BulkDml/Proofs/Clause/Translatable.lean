import BulkDml.Proofs.Clause.Normal
import BulkDml.Proofs.Statement.Backends
import BulkDml.Proofs.Traversal

namespace BulkDml

def CompareOp.ordering : CompareOp → Bool
  | eq => false
  | ne => false
  | _ => true

namespace Filter

def tests : Filter → List Filter
  | and left right => left.tests ++ right.tests
  | or left right => left.tests ++ right.tests
  | not inner => inner.tests
  | test => [test]

def fields : Filter → List String
  | compare field _ (.field other) => [field, other]
  | compare field _ _ => [field]
  | and left right => left.fields ++ right.fields
  | or left right => left.fields ++ right.fields
  | not inner => inner.fields
  | isIn field _ => [field]
  | any _ field => [field]
  | isNull field => [field]
  | isNotNull field => [field]
  | «local» field _ _ => [field]

def isLocal : Filter → Bool
  | «local» .. => true
  | _ => false

def OrdersNull : Filter → Prop
  | compare _ op operand => op.ordering = true ∧ operand.constant? = some .null
  | _ => False

inductive TestFault (m : Mapping) : Filter → Error → Prop where
  | inProcess {field label : String} {predicate : LocalPredicate} :
      TestFault m (.local field label predicate) (.localFilter label field)
  /-- Of two fields, the first counts. -/
  | unmapped {test : Filter} {e : Error} (sent : test.isLocal = false)
      (first : FirstFault m.Lacks test.fields e) : TestFault m test e
  | nullOrdering {field : String} {op : CompareOp} {operand : Operand}
      (mapped : ∃ c ∈ m.columns, c.field = field)
      (orders : (compare field op operand).OrdersNull) :
      TestFault m (.compare field op operand) (.nullOrdering op.sql field)

theorem isTranslatable_iff {f : Filter} :
    f.isTranslatable = true ↔ ∀ test ∈ f.tests, test.isLocal = false := by
  induction f with
  | and left right ihLeft ihRight =>
    rw [isTranslatable, Bool.and_eq_true, ihLeft, ihRight, tests, List.forall_mem_append]
  | or left right ihLeft ihRight =>
    rw [isTranslatable, Bool.and_eq_true, ihLeft, ihRight, tests, List.forall_mem_append]
  | not inner ih => exact ih
  | _ => simp [isTranslatable, tests, isLocal]

theorem forall_mem_fields {f : Filter} {p : String → Prop} :
    (∀ name ∈ f.fields, p name) ↔ ∀ test ∈ f.tests, ∀ name ∈ test.fields, p name := by
  induction f with
  | and left right ihLeft ihRight =>
    rw [fields, List.forall_mem_append, ihLeft, ihRight, tests, List.forall_mem_append]
  | or left right ihLeft ihRight =>
    rw [fields, List.forall_mem_append, ihLeft, ihRight, tests, List.forall_mem_append]
  | not inner ih => exact ih
  | _ => simp [tests]

theorem sound_iff {m : Mapping} {test : Filter} :
    (∀ e, ¬ TestFault m test e) ↔
      test.isLocal = false ∧ (∀ name ∈ test.fields, ∃ c ∈ m.columns, c.field = name) ∧
        ¬ test.OrdersNull := by
  constructor
  · intro sound
    have sent : test.isLocal = false := by
      cases test with
      | «local» field label predicate => exact absurd .inProcess (sound _)
      | _ => rfl
    have mapped : ∀ name ∈ test.fields, ∃ c ∈ m.columns, c.field = name := by
      intro name member
      rw [← Mapping.not_lacks_iff]
      intro e lacks
      obtain ⟨e', first⟩ := FirstFault.exists_iff.mpr ⟨name, member, e, lacks⟩
      exact sound e' (.unmapped sent first)
    refine ⟨sent, mapped, fun orders => ?_⟩
    cases test with
    | compare field op operand =>
      have named : field ∈ (compare field op operand).fields := by cases operand <;> simp [fields]
      exact sound _ (.nullOrdering (mapped field named) orders)
    | _ => exact orders
  · rintro ⟨sent, mapped, ordered⟩ e fault
    cases fault with
    | inProcess => cases sent
    | unmapped _ first =>
      obtain ⟨name, member, lacks⟩ := first.exists_mem
      exact Mapping.not_lacks_iff.mpr (mapped name member) e lacks
    | nullOrdering _ orders => exact ordered orders

end Filter

namespace Clause

variable {m : Mapping} {e : Error}

theorem comparison_eq_error_iff {field column : String} {op : CompareOp} {v : Value} :
    ofFilter.comparison field column op v = .error e ↔
      op.ordering = true ∧ v = .null ∧ e = .nullOrdering op.sql field := by
  cases v <;> cases op <;> simp [ofFilter.comparison, CompareOp.ordering, eq_comm]

theorem resolved_eq_error_iff {field : String} {α : Type} (result : Column → α) :
    (do return result (← m.resolveColumn field) : Except Error α) = .error e ↔
      FirstFault m.Lacks [field] e := by
  rw [bind_eq_error_iff, m.resolveColumn_eq_error_iff, FirstFault.singleton_iff]
  exact or_iff_left fun ⟨c, _, done⟩ => by cases done

/-- A test of a single field fails only if the field is not there. -/
theorem read_eq_error_iff {test : Filter} {field : String} (sent : test.isLocal = false)
    (named : test.fields = [field]) (ordered : ¬ test.OrdersNull) (result : Column → Clause) :
    (do return result (← m.resolveColumn field) : Except Error Clause) = .error e ↔
      FirstFault (Filter.TestFault m) [test] e := by
  rw [FirstFault.singleton_iff, resolved_eq_error_iff]
  constructor
  · exact fun first => .unmapped sent (named ▸ first)
  · intro fault
    cases fault with
    | inProcess => cases sent
    | unmapped _ first => exact named ▸ first
    | nullOrdering _ orders => exact absurd orders ordered

theorem constant_eq_error_iff {field : String} {op : CompareOp} {operand : Operand} {v : Value}
    (constant : operand.constant? = some v) :
    (do ofFilter.comparison field (← m.resolveColumn field).name op v : Except Error Clause) =
        .error e ↔
      Filter.TestFault m (.compare field op operand) e := by
  have named : (Filter.compare field op operand).fields = [field] := by
    cases operand with
    | field other => cases constant
    | _ => rfl
  rw [bind_eq_error_iff, m.resolveColumn_eq_error_iff]
  constructor
  · rintro (lacks | ⟨c, resolved, failed⟩)
    · exact .unmapped rfl (named ▸ .here lacks)
    · obtain ⟨order, rfl, rfl⟩ := comparison_eq_error_iff.mp failed
      exact .nullOrdering ⟨c, m.resolveColumn_eq_ok_iff.mp resolved⟩ ⟨order, constant⟩
  · intro fault
    cases fault with
    | unmapped _ first =>
      rw [named] at first
      have lacks : m.Lacks field e := FirstFault.singleton_iff.mp first
      exact .inl lacks
    | nullOrdering mapped orders =>
      obtain ⟨c, place⟩ := mapped
      obtain ⟨order, null⟩ := orders
      obtain rfl : v = .null := Option.some.inj (constant.symm.trans null)
      exact .inr ⟨c, m.resolveColumn_eq_ok_iff.mpr place,
        comparison_eq_error_iff.mpr ⟨order, rfl, rfl⟩⟩

theorem columns_eq_error_iff {field other : String} {op : CompareOp} :
    (do
        let left ← m.resolveColumn field
        return compareColumns left.name op (← m.resolveColumn other).name : Except Error Clause) =
        .error e ↔
      Filter.TestFault m (.compare field op (.field other)) e := by
  have fault : Filter.TestFault m (.compare field op (.field other)) e ↔
      FirstFault m.Lacks [field, other] e := by
    constructor
    · intro fault
      cases fault with
      | unmapped _ first => exact first
      | nullOrdering _ orders => cases orders.2
    · exact fun first => .unmapped rfl first
  rw [fault, bind_eq_error_iff, m.resolveColumn_eq_error_iff, FirstFault.cons_iff]
  refine or_congr Iff.rfl ?_
  rw [Mapping.not_lacks_iff]
  constructor
  · rintro ⟨c, resolved, failed⟩
    exact ⟨⟨c, m.resolveColumn_eq_ok_iff.mp resolved⟩,
      (resolved_eq_error_iff fun right => compareColumns c.name op right.name).mp failed⟩
  · rintro ⟨⟨c, place⟩, first⟩
    exact ⟨c, m.resolveColumn_eq_ok_iff.mpr place,
      (resolved_eq_error_iff fun right => compareColumns c.name op right.name).mpr first⟩

/-- The operands of a connective are compiled from left to right. -/
theorem both_eq_error_iff {left right : Filter} (join : Clause → Clause → Clause)
    (ihLeft : ∀ e, ofFilter m left = .error e ↔ FirstFault (Filter.TestFault m) left.tests e)
    (ihRight : ∀ e, ofFilter m right = .error e ↔ FirstFault (Filter.TestFault m) right.tests e) :
    (do return join (← ofFilter m left) (← ofFilter m right) : Except Error Clause) = .error e ↔
      FirstFault (Filter.TestFault m) (left.tests ++ right.tests) e := by
  have leftSound : (∃ c, ofFilter m left = .ok c) ↔
      ∀ test ∈ left.tests, ∀ e', ¬ Filter.TestFault m test e' := by
    rw [← not_error_iff]
    simp only [ihLeft, ← FirstFault.not_iff]
  rw [FirstFault.append_iff, bind_eq_error_iff, ihLeft, ← leftSound]
  refine or_congr Iff.rfl ?_
  constructor
  · rintro ⟨c, first, rest⟩
    rcases bind_eq_error_iff.mp rest with failed | ⟨c', -, done⟩
    · exact ⟨⟨c, first⟩, (ihRight e).mp failed⟩
    · cases done
  · rintro ⟨⟨c, first⟩, failed⟩
    exact ⟨c, first, bind_eq_error_iff.mpr (.inl ((ihRight e).mpr failed))⟩

/-- Compiling fails as the leftmost test with a fault does. -/
theorem ofFilter_eq_error_iff {f : Filter} :
    ofFilter m f = .error e ↔ FirstFault (Filter.TestFault m) f.tests e := by
  induction f generalizing e with
  | and left right ihLeft ihRight =>
    exact both_eq_error_iff and (fun _ => ihLeft) fun _ => ihRight
  | or left right ihLeft ihRight => exact both_eq_error_iff or (fun _ => ihLeft) fun _ => ihRight
  | not inner ih =>
    rw [ofFilter, bind_eq_error_iff, ih]
    exact or_iff_left fun ⟨c, _, done⟩ => by cases done
  | compare field op operand =>
    refine Iff.trans ?_ FirstFault.singleton_iff.symm
    cases operand with
    | value v => exact constant_eq_error_iff rfl
    | param v => exact constant_eq_error_iff rfl
    | field other => exact columns_eq_error_iff
  | «local» field label predicate =>
    refine Iff.trans ?_ FirstFault.singleton_iff.symm
    constructor
    · intro failed
      cases failed
      exact .inProcess
    · intro fault
      cases fault with
      | inProcess => rfl
      | unmapped sent _ => cases sent
  | isIn field values => exact read_eq_error_iff rfl rfl id fun c => membership c.name values
  | any values field => exact read_eq_error_iff rfl rfl id fun c => membership c.name values
  | isNull field => exact read_eq_error_iff rfl rfl id fun c => isNull c.name
  | isNotNull field => exact read_eq_error_iff rfl rfl id fun c => isNotNull c.name

end Clause

namespace Filter

theorem TestFault.unsupported {m : Mapping} {test : Filter} {e : Error}
    (fault : TestFault m test e) : ∃ what, e = .unsupportedExpression what := by
  cases fault with
  | inProcess => exact ⟨_, rfl⟩
  | unmapped _ first =>
    obtain ⟨name, -, rfl, -⟩ := first.exists_mem
    exact ⟨_, rfl⟩
  | nullOrdering => exact ⟨_, rfl⟩

theorem rendered_eq_error_iff {d : Dialect} {m : Mapping} {f : Filter} {e : Error} :
    f.rendered d m = .error e ↔ FirstFault (TestFault m) f.tests e := by
  rw [← Clause.ofFilter_eq_error_iff, rendered]
  cases Clause.ofFilter m f <;> simp [Except.map]

/-- A filter is written exactly if it has no fault, and fails as its leftmost test with a fault. -/
theorem rendered_iff_faultless (d : Dialect) (m : Mapping) (f : Filter) :
    ((∃ s, f.rendered d m = .ok s) ↔
      f.isTranslatable = true ∧ (∀ name ∈ f.fields, ∃ c ∈ m.columns, c.field = name) ∧
        ∀ test ∈ f.tests, ¬ test.OrdersNull) ∧
    (∀ e, f.rendered d m = .error e ↔ FirstFault (TestFault m) f.tests e) ∧
    (∀ e, f.rendered d m = .error e → ∃ what, e = .unsupportedExpression what) ∧
    ((∃ test ∈ f.tests, test.isLocal = true) → ∃ e, f.rendered d m = .error e) := by
  have succeeds : (∃ s, f.rendered d m = .ok s) ↔
      f.isTranslatable = true ∧ (∀ name ∈ f.fields, ∃ c ∈ m.columns, c.field = name) ∧
        ∀ test ∈ f.tests, ¬ test.OrdersNull := by
    rw [← not_error_iff, isTranslatable_iff, forall_mem_fields]
    simp only [rendered_eq_error_iff, ← FirstFault.not_iff, sound_iff]
    exact ⟨fun sound => ⟨fun test member => (sound test member).1,
        fun test member => (sound test member).2.1, fun test member => (sound test member).2.2⟩,
      fun ⟨sent, mapped, ordered⟩ test member =>
        ⟨sent test member, mapped test member, ordered test member⟩⟩
  refine ⟨succeeds, fun e => rendered_eq_error_iff, ?_, ?_⟩
  · intro e failed
    obtain ⟨test, -, fault⟩ := (rendered_eq_error_iff.mp failed).exists_mem
    exact fault.unsupported
  · rintro ⟨test, member, inProcess⟩
    by_contra none
    have sent := isTranslatable_iff.mp (succeeds.mp (not_error_iff.mp (not_exists.mp none))).1
    rw [sent test member] at inProcess
    cases inProcess

/-- A local test under a negation, with a sound test before it and an unmapped field after it. -/
theorem rendered_iff_faultless_nestedLocal :
    let m : Mapping :=
      ⟨⟨none, "books", [⟨"id", "Id", .integer, true⟩, ⟨"title", "Title", .text, false⟩]⟩, by decide⟩
    let d := Backend.postgreSql.dialect
    let f := Filter.not (.or (.any [] "id")
      (.and (.local "title" "sounds like" ⟨7, Value.isNull⟩) (.compare "isbn" .lt (.param .null))))
    (∃ test ∈ f.tests, test.isLocal = true) ∧ (∃ e, f.rendered d m = .error e) ∧
      FirstFault (TestFault m) f.tests (.localFilter "sounds like" "title") := by
  intro m d f
  have inProcess : ∃ test ∈ f.tests, test.isLocal = true := ⟨_, .tail _ (.head _), rfl⟩
  have rule := rendered_iff_faultless d m f
  exact ⟨inProcess, rule.2.2.2 inProcess, (rule.2.1 _).mp rfl⟩

end Filter

end BulkDml
