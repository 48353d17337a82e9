import BulkDml.Plan.Basic
import BulkDml.Proofs.Condition.Written

namespace BulkDml

namespace Value

def sample : Value → Value
  | null => null
  | integer _ => integer 0
  | real _ => real .zero
  | text _ => text ""
  | bool _ => bool false
  | blob _ => blob []
  | timestamp _ => timestamp 0

def literalSample : Value → Value
  | null => null
  | integer n => integer n
  | bool b => bool b
  | v => v.sample

def presence : Value → Value
  | null => null
  | _ => bool true

end Value

def renderOutline (marker : Nat → String) : Nat → List (Option Char) → List Char
  | _, [] => []
  | next, some c :: rest => c :: renderOutline marker next rest
  | next, none :: rest => (marker next).toList ++ renderOutline marker (next + 1) rest

theorem renderSymbols_eq_outline (marker : Nat → String) (next : Nat) (symbols : List Symbol) :
    renderSymbols marker next symbols =
      renderOutline marker next (symbols.map Sum.getLeft?) := by
  induction symbols generalizing next with
  | nil => rfl
  | cons s symbols ih => cases s <;> simp [renderSymbols, renderOutline, ih]

namespace Fragment

def outline (f : Fragment) : List (Option Char) := f.stream.map Sum.getLeft?

@[simp] theorem outline_append (f g : Fragment) : (f ++ g).outline = f.outline ++ g.outline := by
  simp [outline]

@[simp] theorem outline_sql (text : String) : (sql text).outline = text.toList.map some := by
  simp [outline]

@[simp] theorem outline_param (v : Value) : (param v).outline = [none] := by
  simp [outline]

@[simp] theorem outline_pushSql (f : Fragment) (text : String) :
    (f.pushSql text).outline = f.outline ++ text.toList.map some := by
  simp [outline]

@[simp] theorem outline_pushParam (f : Fragment) (v : Value) :
    (f.pushParam v).outline = f.outline ++ [none] := by
  simp [outline]

@[simp] theorem outline_parenthesized (f : Fragment) :
    f.parenthesized.outline = some '(' :: (f.outline ++ [some ')']) := by
  simp [outline]

theorem outline_join (separator : String) (parts : List Fragment) :
    (join separator parts).outline =
      List.intercalate (separator.toList.map some) (parts.map outline) := by
  rw [outline, stream_join, map_intercalate, List.map_map, List.map_map]
  rfl

theorem sql_render_eq {d : Dialect} {f g : Fragment} (same : f.outline = g.outline) :
    (d.render f).sql = (d.render g).sql := by
  have text (f : Fragment) : (d.render f).sql.toList = renderOutline d.marker 0 f.outline :=
    (toList_renderText d.marker 0 f.segments).trans (renderSymbols_eq_outline d.marker 0 f.stream)
  apply String.toList_inj.mp
  rw [text, text, same]

end Fragment

namespace Clause

theorem outline_inList (column : String) {values values' : List Value}
    (same : values.length = values'.length) :
    (inList column values).outline = (inList column values').outline := by
  have holes (values : List Value) :
      (values.map Fragment.param).map Fragment.outline = List.replicate values.length [none] := by
    simp [Function.comp_def, List.map_const']
  simp only [inList, Fragment.outline_append, Fragment.outline_parenthesized,
    Fragment.outline_join, holes, same]

theorem outline_toFragment (d : Dialect) (bind : Value → Value) (c : Clause) :
    ((c.mapValues bind).toFragment d).outline = (c.toFragment d).outline := by
  induction c with
  | compare column op v => simp [mapValues, toFragment]
  | member column values orNull =>
    have listed := outline_inList (d.quote column) (values.length_map bind)
    cases orNull <;> simp [mapValues, toFragment, listed]
  | and left right ihLeft ihRight => simp [mapValues, toFragment, ihLeft, ihRight]
  | or left right ihLeft ihRight => simp [mapValues, toFragment, ihLeft, ihRight]
  | not inner ih => simp [mapValues, toFragment, ih]
  | _ => rfl

end Clause

namespace Condition

theorem outline_keyTuple (d : Dialect) (bind : Value → Value) (columns : List String)
    (tuple : List Value) :
    (keyTuple d columns (tuple.map bind)).outline = (keyTuple d columns tuple).outline := by
  have parts : (columns.zipWith (keyPart d) (tuple.map bind)).map Fragment.outline =
      (columns.zipWith (keyPart d) tuple).map Fragment.outline := by
    rw [List.zipWith_map_right, List.map_zipWith, List.map_zipWith]
    simp [keyPart]
  simp only [keyTuple, Fragment.outline_parenthesized, Fragment.outline_join, parts]

theorem outline_keysFragment (d : Dialect) (bind : Value → Value) (columns : List String)
    (tuples : List (List Value)) :
    (keysFragment d columns (tuples.map (·.map bind))).outline =
      (keysFragment d columns tuples).outline := by
  rcases tuples with _ | ⟨tuple, tuples⟩
  · rfl
  rcases single_or_wide columns with ⟨column, rfl⟩ | wide
  · apply Clause.outline_inList
    rw [← List.map_flatten, List.length_map]
  · have parts : (((tuple :: tuples).map (·.map bind)).map (keyTuple d columns)).map
        Fragment.outline = ((tuple :: tuples).map (keyTuple d columns)).map Fragment.outline := by
      simp [outline_keyTuple]
    rw [keysFragment_wide d wide (List.cons_ne_nil _ _), List.map_cons,
      keysFragment_wide d wide (List.cons_ne_nil _ _), ← List.map_cons]
    simp only [Fragment.outline_parenthesized, Fragment.outline_join, parts]

def sampled : Condition → Condition
  | clause c => clause (c.mapValues Value.presence)
  | keys columns tuples => keys columns (tuples.map (·.map fun _ => .null))
  | raw f => raw f

theorem outline_sampled (d : Dialect) (c : Condition) :
    (c.sampled.toFragment d).outline = (c.toFragment d).outline := by
  cases c with
  | clause c => exact c.outline_toFragment d Value.presence
  | keys columns tuples => exact outline_keysFragment d _ columns tuples
  | raw f => rfl

theorem outline_appendTo (d : Dialect) {head head' : Fragment} (same : head.outline = head'.outline)
    (c : Option Condition) :
    (appendTo d head (c.map sampled)).outline = (appendTo d head' c).outline := by
  cases c <;> simp [appendTo, same, outline_sampled]

end Condition

namespace AssignedValue

def sampled : AssignedValue → AssignedValue
  | literal v => literal v.literalSample
  | param v => param v.sample
  | column name => column name
  | derived op operand => derived op operand.sampled
  | binary left op right => binary left.sampled op right.sampled

variable {d : Dialect} {own : String}

theorem isCompound_sampled (v : AssignedValue) : v.sampled.isCompound = v.isCompound := by
  cases v <;> rfl

theorem outline_operatorFragment (op : ArithmeticOp) {f f' g g' : Fragment}
    (left : f.outline = f'.outline) (right : g.outline = g'.outline) :
    (operatorFragment d op f g).outline = (operatorFragment d op f' g').outline := by
  unfold operatorFragment Dialect.concat
  split
  · split <;> simp [Fragment.outline_join, left, right]
  · simp [Fragment.outline_join, left, right]

theorem outline_wrap {v v' : AssignedValue} {f f' : Fragment}
    (compound : v.isCompound = v'.isCompound) (same : f.outline = f'.outline) :
    (toFragment.wrap v f).outline = (toFragment.wrap v' f').outline := by
  unfold toFragment.wrap
  rw [compound]
  split <;> simp [same]

theorem outline_sampled (v : AssignedValue) :
    (v.sampled.toFragment d own).outline = (v.toFragment d own).outline := by
  induction v with
  | literal v => cases v <;> rfl
  | param v => simp [sampled, toFragment]
  | column name => rfl
  | derived op operand ih =>
    exact outline_operatorFragment op rfl (outline_wrap operand.isCompound_sampled ih)
  | binary left op right ihLeft ihRight =>
    exact outline_operatorFragment op (outline_wrap left.isCompound_sampled ihLeft)
      (outline_wrap right.isCompound_sampled ihRight)

end AssignedValue

def Assignment.sampled (a : Assignment) : Assignment := { a with value := a.value.sampled }

namespace AssignmentSet

def sampled (s : AssignmentSet) : AssignmentSet :=
  { s with assignments := s.assignments.map Assignment.sampled }

variable (s : AssignmentSet)

theorem columnList_sampled : s.sampled.columnList = s.columnList := by
  simp [columnList, sampled, Function.comp_def, Assignment.sampled, Assignment.quotedColumn]

theorem outline_valueFragment (d : Dialect) (a : Assignment) :
    (a.sampled.valueFragment d).outline = (a.valueFragment d).outline :=
  AssignedValue.outline_sampled a.value

theorem outline_setClause : s.sampled.setClause.outline = s.setClause.outline := by
  have column (d : Dialect) (a : Assignment) : a.sampled.quotedColumn d = a.quotedColumn d := rfl
  simp [setClause, sampled, Fragment.outline_join, Function.comp_def, column, outline_valueFragment]

theorem outline_selectList : s.sampled.selectList.outline = s.selectList.outline := by
  simp [selectList, sampled, Fragment.outline_join, Function.comp_def, outline_valueFragment]

end AssignmentSet

namespace Command

def sampled : Command → Command
  | delete table condition limit => delete table (condition.map Condition.sampled) limit
  | update table set condition limit =>
    update table set.sampled (condition.map Condition.sampled) limit
  | insert target set source condition limit =>
    insert target set.sampled source (condition.map Condition.sampled) limit
  | selectKeys columns table condition limit =>
    selectKeys columns table (condition.map Condition.sampled) limit
  | raw statement => raw statement

theorem outline_head (d : Dialect) (c : Command) :
    (c.sampled.head d).outline = (c.head d).outline := by
  cases c with
  | update table set condition limit => simp [sampled, head, AssignmentSet.outline_setClause]
  | insert target set source condition limit =>
    simp [sampled, head, AssignmentSet.outline_selectList, AssignmentSet.columnList_sampled]
  | _ => rfl

theorem outline_toFragment (d : Dialect) (c : Command) :
    (c.sampled.toFragment d).outline = (c.toFragment d).outline := by
  have condition : c.sampled.condition = c.condition.map Condition.sampled := by cases c <;> rfl
  have limit : c.sampled.limit = c.limit := by cases c <;> rfl
  rw [toFragment, toFragment, condition, limit, Fragment.outline_pushSql, Fragment.outline_pushSql,
    Condition.outline_appendTo d (outline_head d c)]

end Command

namespace Request

def sampled (r : Request) : Request := ⟨r.dialect, r.command.sampled⟩

theorem sql_sampled (r : Request) : r.sampled.statement.sql = r.statement.sql := by
  have outline := Command.outline_toFragment r.dialect r.command
  obtain ⟨d, c⟩ := r
  cases c with
  | raw statement => rfl
  | _ => exact Fragment.sql_render_eq outline

theorem sql_eq_of_sampled {r r' : Request} (same : r.sampled = r'.sampled) :
    r.statement.sql = r'.statement.sql := by
  rw [← sql_sampled r, ← sql_sampled r', same]

end Request

def Agree {α β : Type} (related : α → β → Prop) : Except Error α → Except Error β → Prop
  | .error e, .error e' => e = e'
  | .ok a, .ok b => related a b
  | _, _ => False

theorem Agree.imp {α β : Type} {x : Except Error α} {y : Except Error β}
    {related other : α → β → Prop} (agree : Agree related x y)
    (each : ∀ a b, related a b → other a b) : Agree other x y := by
  cases x with
  | error e =>
    cases y with
    | error e' => exact agree
    | ok b => exact agree
  | ok a =>
    cases y with
    | error e' => exact agree
    | ok b => exact each a b agree

theorem Agree.of_map {α β : Type} {x y : Except Error α} {f : α → β} {related : α → α → Prop}
    (same : x.map f = y.map f) (each : ∀ a b, f a = f b → related a b) : Agree related x y := by
  cases x with
  | error e =>
    cases y with
    | error e' =>
      cases same
      rfl
    | ok b => cases same
  | ok a =>
    cases y with
    | error e' => cases same
    | ok b => exact each a b (Except.ok.inj same)

namespace KeyedAction

def sampled : KeyedAction → KeyedAction
  | delete => delete
  | update set => update set.sampled

end KeyedAction

namespace KeyedPlan

def sampled (p : KeyedPlan) : KeyedPlan :=
  { p with action := p.action.sampled, condition := p.condition.map Condition.sampled }

variable {p q : KeyedPlan}

theorem mutationFor_sampled (p : KeyedPlan) (keys : List (List Value)) :
    p.sampled.mutationFor (keys.map (·.map fun _ => .null)) =
      (p.mutationFor keys).map Request.sampled := by
  have columns : p.sampled.keyColumns = p.keyColumns := rfl
  have found : (keys.map (·.map fun _ => Value.null)).find? (·.length != p.keyColumns.length) =
      (keys.find? (·.length != p.keyColumns.length)).map (·.map fun _ => Value.null) := by
    rw [List.find?_map]
    simp only [Function.comp_def, List.length_map]
  rw [mutationFor, mutationFor, columns, found]
  cases keys.find? (·.length != p.keyColumns.length) with
  | some tuple => simp [Except.map]
  | none =>
    obtain ⟨d, action, table, columns, condition, limit⟩ := p
    cases action <;> rfl

/-- Tuples of the same widths are the same up to their values. -/
theorem keys_eq_of_widths {keys keys' : List (List Value)}
    (widths : keys.map List.length = keys'.map List.length) :
    keys.map (·.map fun _ => Value.null) = keys'.map (·.map fun _ => Value.null) := by
  have blank (keys : List (List Value)) : keys.map (·.map fun _ => Value.null) =
      (keys.map List.length).map (List.replicate · Value.null) := by
    simp [Function.comp_def, List.map_const']
  rw [blank, blank, widths]

theorem statementName_eq_of_sampled (same : p.sampled = q.sampled) :
    p.statementName = q.statementName := by
  have name (p : KeyedPlan) : p.sampled.statementName = p.statementName := by
    obtain ⟨d, action, table, columns, condition, limit⟩ := p
    cases action <;> rfl
  rw [← name p, ← name q, same]

theorem selectKeys_sampled (same : p.sampled = q.sampled) :
    p.selectKeys.sampled = q.selectKeys.sampled :=
  congrArg selectKeys same

theorem mutationFor_agree (same : p.sampled = q.sampled) {keys keys' : List (List Value)}
    (blank : keys.map (·.map fun _ => Value.null) = keys'.map (·.map fun _ => Value.null)) :
    Agree (fun r r' : Request => r.sampled = r'.sampled) (p.mutationFor keys)
      (q.mutationFor keys') := by
  have sampled : (p.mutationFor keys).map Request.sampled =
      (q.mutationFor keys').map Request.sampled := by
    rw [← mutationFor_sampled, ← mutationFor_sampled, same, blank]
  exact Agree.of_map sampled fun _ _ related => related

theorem sql_selectKeys_eq (same : p.sampled = q.sampled) :
    p.selectKeys.statement.sql = q.selectKeys.statement.sql :=
  Request.sql_eq_of_sampled (selectKeys_sampled same)

theorem sql_mutationFor_eq (same : p.sampled = q.sampled) {keys keys' : List (List Value)}
    (widths : keys.map List.length = keys'.map List.length) :
    Agree (fun r r' : Request => r.statement.sql = r'.statement.sql)
      (p.mutationFor keys) (q.mutationFor keys') :=
  (mutationFor_agree same (keys_eq_of_widths widths)).imp fun _ _ => Request.sql_eq_of_sampled

end KeyedPlan

namespace Plan

def sampled : Plan → Plan
  | single r => single r.sampled
  | keyed p => keyed p.sampled

/-- Plans of the same kind for the same key, with the same text of every statement. -/
def SameText : Plan → Plan → Prop
  | single r, single r' => r.statement.sql = r'.statement.sql
  | keyed p, keyed q =>
    p.statementName = q.statementName ∧ p.quotedKeyColumns = q.quotedKeyColumns ∧
      p.selectKeys.statement.sql = q.selectKeys.statement.sql ∧
      ∀ keys keys' : List (List Value), keys.map List.length = keys'.map List.length →
        Agree (fun r r' => r.statement.sql = r'.statement.sql)
          (p.mutationFor keys) (q.mutationFor keys')
  | _, _ => False

theorem sameText_of_sampled {plan plan' : Plan} (same : plan.sampled = plan'.sampled) :
    plan.SameText plan' := by
  cases plan with
  | single r =>
    cases plan' with
    | single r' => exact Request.sql_eq_of_sampled (single.inj same)
    | keyed q => cases same
  | keyed p =>
    cases plan' with
    | single r' => cases same
    | keyed q =>
      have plans : p.sampled = q.sampled := keyed.inj same
      have columns (p : KeyedPlan) : p.sampled.quotedKeyColumns = p.quotedKeyColumns := rfl
      refine ⟨KeyedPlan.statementName_eq_of_sampled plans, ?_, KeyedPlan.sql_selectKeys_eq plans,
        fun keys keys' widths => KeyedPlan.sql_mutationFor_eq plans widths⟩
      rw [← columns p, ← columns q, plans]

end Plan

end BulkDml
