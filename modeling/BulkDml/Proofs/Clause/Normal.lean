import Mathlib.Data.List.Basic
import BulkDml.Clause.Truth
import BulkDml.Mapping.Names
import BulkDml.Proofs.Plan.Compiled

namespace BulkDml

namespace Operand

def constant? : Operand → Option Value
  | value v => some v
  | param v => some v
  | field _ => none

end Operand

namespace Filter

def membership? : Filter → Option (String × List Value)
  | isIn field values => some (field, values)
  | any values field => some (field, values)
  | _ => none

inductive Normal (column : String → String) : Filter → Clause → Prop where
  | compare {field : String} {op : CompareOp} {operand : Operand} {v : Value}
      (constant : operand.constant? = some v) (present : v.isNull = false) :
      Normal column (.compare field op operand) (.compare (column field) op v)
  | equalsNull {field : String} {operand : Operand} (constant : operand.constant? = some .null) :
      Normal column (.compare field .eq operand) (.isNull (column field))
  | differsFromNull {field : String} {operand : Operand}
      (constant : operand.constant? = some .null) :
      Normal column (.compare field .ne operand) (.isNotNull (column field))
  | compareFields {field : String} {op : CompareOp} {other : String} :
      Normal column (.compare field op (.field other))
        (.compareColumns (column field) op (column other))
  | isNull {field : String} : Normal column (.isNull field) (.isNull (column field))
  | isNotNull {field : String} : Normal column (.isNotNull field) (.isNotNull (column field))
  | member {f : Filter} {field : String} {values : List Value}
      (membership : f.membership? = some (field, values))
      (present : values.filter (!·.isNull) ≠ []) :
      Normal column f
        (.member (column field) (values.filter (!·.isNull)) (values.any Value.isNull))
  | onlyNulls {f : Filter} {field : String} {values : List Value}
      (membership : f.membership? = some (field, values))
      (absent : values.filter (!·.isNull) = []) (some : values ≠ []) :
      Normal column f (.isNull (column field))
  | never {f : Filter} {field : String} (membership : f.membership? = some (field, [])) :
      Normal column f .never
  | and {f g : Filter} {c e : Clause} (left : Normal column f c) (right : Normal column g e) :
      Normal column (.and f g) (.and c e)
  | or {f g : Filter} {c e : Clause} (left : Normal column f c) (right : Normal column g e) :
      Normal column (.or f g) (.or c e)
  | not {f : Filter} {c : Clause} (inner : Normal column f c) : Normal column (.not f) (.not c)

/-- Whether a field is one of some values: true if it equals one that is not null, or is null and
null is listed; otherwise unknown if it cannot be told from some value that is not null. -/
def membershipTruth (order : Collation) (bind : Value → Value) (column : String) (v : Value)
    (values : List Value) : Truth :=
  if (∃ w ∈ values, w.isNull = false ∧
      Clause.compareTruth order [column] .eq v (bind w) = .true) ∨
      v.isNull ∧ ∃ w ∈ values, w.isNull then .true
  else if ∃ w ∈ values, w.isNull = false ∧ (v.isNull ∨ (bind w).isNull) then .unknown
  else .false

/-- The truth of a filter on a row whose columns `column` names for the fields. Constants reach the
database as `bind` has it; comparing with null asks whether the field is null, and nothing is
ordered against null. -/
def truth (order : Collation) (bind : Value → Value) (column : String → String)
    (row : String → Value) : Filter → Truth
  | .compare field op (.field other) =>
    Clause.compareTruth order [column field, column other] op (row (column field))
      (row (column other))
  | .compare field op (.value v) => constant field op v
  | .compare field op (.param v) => constant field op v
  | .and left right => (left.truth order bind column row).and (right.truth order bind column row)
  | .or left right => (left.truth order bind column row).or (right.truth order bind column row)
  | .not inner => (inner.truth order bind column row).not
  | .isIn field values => membershipTruth order bind (column field) (row (column field)) values
  | .any values field => membershipTruth order bind (column field) (row (column field)) values
  | .isNull field => .ofBool (row (column field)).isNull
  | .isNotNull field => .ofBool (!(row (column field)).isNull)
  | .local field _ predicate => .ofBool (predicate.test (row (column field)))
where
  constant (field : String) (op : CompareOp) (v : Value) : Truth :=
    if v.isNull then
      match op with
      | .eq => .ofBool (row (column field)).isNull
      | .ne => .ofBool (!(row (column field)).isNull)
      | _ => .unknown
    else Clause.compareTruth order [column field] op (row (column field)) (bind v)

end Filter

namespace Mapping

def columnName (m : Mapping) (field : String) : String :=
  ((m.column? field).map (·.name)).getD field

theorem name_of_resolveColumn {m : Mapping} {field : String} {c : Column}
    (resolved : m.resolveColumn field = .ok c) : c.name = m.columnName field := by
  unfold resolveColumn at resolved
  cases found : m.resolve field with
  | error e =>
    rw [found] at resolved
    cases resolved
  | ok placed =>
    rw [found] at resolved
    cases resolved
    obtain ⟨position, c⟩ := placed
    have mapped := m.resolve_eq_ok_iff.mp found
    have column := m.column?_eq_some_iff.mpr ⟨List.mem_of_getElem? mapped.1, mapped.2⟩
    simp [columnName, column]

theorem resolveColumn_bind {m : Mapping} {field : String} {α : Type}
    {next : Column → Except Error α} {a : α} (compiled : m.resolveColumn field >>= next = .ok a) :
    ∃ c, c.name = m.columnName field ∧ next c = .ok a := by
  obtain ⟨c, resolved, rest⟩ := bind_eq_ok_iff.mp compiled
  exact ⟨c, name_of_resolveColumn resolved, rest⟩

end Mapping

def Clause.Listed : Clause → Prop
  | member _ values _ => values ≠ []
  | and left right => left.Listed ∧ right.Listed
  | or left right => left.Listed ∧ right.Listed
  | not inner => inner.Listed
  | _ => True

theorem Clause.Listed.mapValues {c : Clause} (listed : c.Listed) (bind : Value → Value) :
    (c.mapValues bind).Listed := by
  induction c with
  | member column values orNull => simpa [Clause.mapValues, Clause.Listed] using listed
  | and left right ihLeft ihRight => exact ⟨ihLeft listed.1, ihRight listed.2⟩
  | or left right ihLeft ihRight => exact ⟨ihLeft listed.1, ihRight listed.2⟩
  | not inner ih => exact ih listed
  | _ => trivial

namespace Filter

variable {column : String → String}

theorem normal_membership {f : Filter} {field : String} {values : List Value}
    (membership : f.membership? = some (field, values)) :
    Normal column f (Clause.membership (column field) values) := by
  unfold Clause.membership
  cases listed : values.filter (!·.isNull) with
  | nil =>
    cases values with
    | nil => exact .never membership
    | cons v values =>
      have null : (v :: values).any Value.isNull = true := by
        have absent := List.filter_eq_nil_iff.mp listed v List.mem_cons_self
        simp only [Bool.not_eq_true', Bool.not_eq_false] at absent
        simp [absent]
      simp only [null, if_true]
      exact .onlyNulls membership listed (by simp)
  | cons w rest =>
    have present : values.filter (!·.isNull) ≠ [] := by simp [listed]
    have form : Normal column f _ := .member membership present
    rw [listed] at form
    exact form

theorem normal_comparison {field : String} {op : CompareOp} {operand : Operand} {v : Value}
    {c : Clause} (constant : operand.constant? = some v)
    (compiled : Clause.ofFilter.comparison field (column field) op v = .ok c) :
    Normal column (.compare field op operand) c := by
  cases v with
  | null =>
    cases op with
    | eq =>
      cases compiled
      exact .equalsNull constant
    | ne =>
      cases compiled
      exact .differsFromNull constant
    | _ => cases compiled
  | _ =>
    cases compiled
    exact .compare constant rfl

theorem normal_of_compiled {m : Mapping} {f : Filter} {c : Clause}
    (compiled : Clause.ofFilter m f = .ok c) : Normal m.columnName f c := by
  induction f generalizing c with
  | compare field op operand =>
    obtain ⟨place, name, compiled⟩ := m.resolveColumn_bind compiled
    rw [name] at compiled
    cases operand with
    | value v => exact normal_comparison rfl compiled
    | param v => exact normal_comparison rfl compiled
    | field other =>
      obtain ⟨otherPlace, otherName, compiled⟩ := m.resolveColumn_bind compiled
      cases compiled
      rw [otherName]
      exact .compareFields
  | and left right ihLeft ihRight =>
    obtain ⟨a, first, compiled⟩ := bind_eq_ok_iff.mp compiled
    obtain ⟨b, second, compiled⟩ := bind_eq_ok_iff.mp compiled
    cases compiled
    exact .and (ihLeft first) (ihRight second)
  | or left right ihLeft ihRight =>
    obtain ⟨a, first, compiled⟩ := bind_eq_ok_iff.mp compiled
    obtain ⟨b, second, compiled⟩ := bind_eq_ok_iff.mp compiled
    cases compiled
    exact .or (ihLeft first) (ihRight second)
  | not inner ih =>
    obtain ⟨a, first, compiled⟩ := bind_eq_ok_iff.mp compiled
    cases compiled
    exact .not (ih first)
  | isIn field values =>
    obtain ⟨place, name, compiled⟩ := m.resolveColumn_bind compiled
    cases compiled
    rw [name]
    exact normal_membership rfl
  | any values field =>
    obtain ⟨place, name, compiled⟩ := m.resolveColumn_bind compiled
    cases compiled
    rw [name]
    exact normal_membership rfl
  | isNull field =>
    obtain ⟨place, name, compiled⟩ := m.resolveColumn_bind compiled
    cases compiled
    rw [name]
    exact .isNull
  | isNotNull field =>
    obtain ⟨place, name, compiled⟩ := m.resolveColumn_bind compiled
    cases compiled
    rw [name]
    exact .isNotNull
  | «local» field label predicate => cases compiled

theorem Normal.listed {f : Filter} {c : Clause} (normal : Normal column f c) : c.Listed := by
  induction normal with
  | member _ present => exact present
  | and _ _ ihLeft ihRight => exact ⟨ihLeft, ihRight⟩
  | or _ _ ihLeft ihRight => exact ⟨ihLeft, ihRight⟩
  | not _ ih => exact ih
  | _ => trivial

theorem Normal.of_membership {f : Filter} {c : Clause} {field : String} {values : List Value}
    (normal : Normal column f c) (membership : f.membership? = some (field, values)) :
    c = Clause.membership (column field) values := by
  have same {other : String} {list : List Value} (also : f.membership? = some (other, list)) :
      field = other ∧ values = list := by
    rw [membership] at also
    cases also
    exact ⟨rfl, rfl⟩
  cases normal with
  | member also present =>
    obtain ⟨rfl, rfl⟩ := same also
    obtain ⟨v, rest, listed⟩ := List.exists_cons_of_ne_nil present
    simp [Clause.membership, listed]
  | onlyNulls also absent some =>
    obtain ⟨rfl, rfl⟩ := same also
    obtain ⟨v, member⟩ := List.exists_mem_of_ne_nil _ some
    have null : v.isNull = true := by simpa using List.filter_eq_nil_iff.mp absent v member
    have listed : values.any Value.isNull = true := List.any_eq_true.mpr ⟨v, member, null⟩
    simp [Clause.membership, absent, listed]
  | never also =>
    obtain ⟨rfl, rfl⟩ := same also
    rfl
  | _ => cases membership

theorem Normal.unique {f : Filter} {c e : Clause} (first : Normal column f c)
    (second : Normal column f e) : c = e := by
  -- The three forms of a membership are the cases of `Clause.membership`, and exclude all others.
  induction first generalizing e with
  | member membership present =>
    exact (Normal.of_membership (.member membership present) membership).trans
      (second.of_membership membership).symm
  | onlyNulls membership absent some =>
    exact (Normal.of_membership (.onlyNulls membership absent some) membership).trans
      (second.of_membership membership).symm
  | never membership =>
    exact (Normal.of_membership (.never membership) membership).trans
      (second.of_membership membership).symm
  | and _ _ ihLeft ihRight =>
    cases second with
    | and left right => rw [ihLeft left, ihRight right]
    | member membership => cases membership
    | onlyNulls membership => cases membership
    | never membership => cases membership
  | or _ _ ihLeft ihRight =>
    cases second with
    | or left right => rw [ihLeft left, ihRight right]
    | member membership => cases membership
    | onlyNulls membership => cases membership
    | never membership => cases membership
  | not _ ih =>
    cases second with
    | not inner => rw [ih inner]
    | member membership => cases membership
    | onlyNulls membership => cases membership
    | never membership => cases membership
  | compare constant present =>
    have null : Value.null.isNull = true := rfl
    cases second <;> simp_all [membership?, Operand.constant?]
  | equalsNull constant =>
    have null : Value.null.isNull = true := rfl
    cases second <;> simp_all [membership?, Operand.constant?]
  | differsFromNull constant =>
    have null : Value.null.isNull = true := rfl
    cases second <;> simp_all [membership?, Operand.constant?]
  | compareFields => cases second <;> simp_all [membership?, Operand.constant?]
  | isNull => cases second <;> simp_all [membership?]
  | isNotNull => cases second <;> simp_all [membership?]

theorem foldr_or_eq (truths : List Truth) :
    truths.foldr Truth.or .false =
      if .true ∈ truths then .true else if .unknown ∈ truths then .unknown else .false := by
  induction truths with
  | nil => rfl
  | cons t rest ih =>
    rw [List.foldr_cons, ih]
    by_cases holds : .true ∈ rest <;> by_cases unknown : .unknown ∈ rest <;> cases t <;>
      simp [holds, unknown, Truth.or]

theorem compareTruth_eq_unknown_iff {order : Collation} {columns : List String} {op : CompareOp}
    {v w : Value} :
    Clause.compareTruth order columns op v w = .unknown ↔ v.isNull = true ∨ w.isNull = true := by
  unfold Clause.compareTruth
  split
  · next null => simpa using null
  · next present =>
    have decided : ∀ b : Bool, Truth.ofBool b ≠ .unknown := by decide
    simpa [decided] using present

theorem among_eq (order : Collation) (bind : Value → Value) (column : String) (v : Value)
    (values : List Value) :
    (((values.filter (!·.isNull)).map bind).map (Clause.compareTruth order [column] .eq v)).foldr
        Truth.or .false =
      if ∃ w ∈ values, w.isNull = false ∧
          Clause.compareTruth order [column] .eq v (bind w) = .true then .true
      else if ∃ w ∈ values, w.isNull = false ∧ (v.isNull ∨ (bind w).isNull) then .unknown
      else .false := by
  have listed (t : Truth) : t ∈ ((values.filter (!·.isNull)).map bind).map
      (Clause.compareTruth order [column] .eq v) ↔
        ∃ w ∈ values, w.isNull = false ∧
          Clause.compareTruth order [column] .eq v (bind w) = t := by
    simp [and_assoc]
  rw [foldr_or_eq]
  simp only [listed, compareTruth_eq_unknown_iff]

theorem truth_membership {f : Filter} {field : String} {values : List Value}
    (membership : f.membership? = some (field, values)) (order : Collation) (bind : Value → Value)
    (row : String → Value) :
    f.truth order bind column row =
      membershipTruth order bind (column field) (row (column field)) values := by
  cases f <;> cases membership <;> rfl

theorem truth_constant {field : String} {op : CompareOp} {operand : Operand} {v : Value}
    (constant : operand.constant? = some v) (order : Collation) (bind : Value → Value)
    (row : String → Value) :
    (Filter.compare field op operand).truth order bind column row =
      truth.constant order bind column row field op v := by
  cases operand <;> cases constant <;> rfl

theorem membershipTruth_member (order : Collation) (bind : Value → Value) (column : String)
    (row : String → Value) (values : List Value) :
    ((Clause.member column (values.filter (!·.isNull)) (values.any Value.isNull)).mapValues
        bind).truth order row =
      membershipTruth order bind column (row column) values := by
  have listsNull : values.any Value.isNull = true ↔ ∃ w ∈ values, w.isNull = true := by simp
  simp only [Clause.mapValues, Clause.truth]
  rw [among_eq, membershipTruth]
  by_cases null : ∃ w ∈ values, w.isNull = true
  · rw [if_pos (listsNull.mpr null)]
    by_cases missing : (row column).isNull = true
    · simp only [missing, null, and_self, or_true, if_true, Truth.ofBool]
      split
      · rfl
      · split <;> rfl
    · simp only [missing, false_and, or_false, Truth.ofBool, Bool.false_eq_true, if_false]
      split
      · rfl
      · split <;> rfl
  · rw [if_neg (mt listsNull.mp null)]
    simp only [null, and_false, or_false]

theorem membershipTruth_of_nulls {values : List Value} (absent : values.filter (!·.isNull) = [])
    (some : values ≠ []) (order : Collation) (bind : Value → Value) (column : String) (v : Value) :
    membershipTruth order bind column v values = .ofBool v.isNull := by
  have null : ∀ w ∈ values, w.isNull = true := by simpa using absent
  obtain ⟨w, member⟩ := List.exists_mem_of_ne_nil values some
  have listed : ∃ w ∈ values, w.isNull = true := ⟨w, member, null w member⟩
  have nonePresent (p : Value → Prop) : ¬∃ w ∈ values, w.isNull = false ∧ p w := by
    rintro ⟨w, member, present, _⟩
    exact Bool.false_ne_true (present.symm.trans (null w member))
  rw [membershipTruth, if_neg (nonePresent _)]
  simp only [nonePresent, listed, false_or, and_true]
  rfl

theorem Normal.truth_eq {f : Filter} {c : Clause} (normal : Normal column f c) (order : Collation)
    (bind : Value → Value) (row : String → Value) :
    (c.mapValues bind).truth order row = f.truth order bind column row := by
  induction normal with
  | compare constant present =>
    rw [truth_constant constant]
    unfold truth.constant
    rw [if_neg (Bool.eq_false_iff.mp present)]
    rfl
  | equalsNull constant =>
    rw [truth_constant constant]
    rfl
  | differsFromNull constant =>
    rw [truth_constant constant]
    rfl
  | compareFields => rfl
  | isNull => rfl
  | isNotNull => rfl
  | member membership present =>
    rw [truth_membership membership]
    exact membershipTruth_member order bind _ row _
  | onlyNulls membership absent some =>
    rw [truth_membership membership, membershipTruth_of_nulls absent some]
    rfl
  | never membership =>
    rw [truth_membership membership]
    simp [membershipTruth, Clause.mapValues, Clause.truth]
  | and _ _ ihLeft ihRight => rw [Clause.mapValues, Clause.truth, ihLeft, ihRight, Filter.truth]
  | or _ _ ihLeft ihRight => rw [Clause.mapValues, Clause.truth, ihLeft, ihRight, Filter.truth]
  | not _ ih => rw [Clause.mapValues, Clause.truth, ih, Filter.truth]

end Filter

end BulkDml
