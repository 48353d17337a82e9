import Mathlib.Algebra.Group.Nat.Defs
import Mathlib.Data.List.Nodup
import BulkDml.Proofs.Plan.Restriction
import BulkDml.Proofs.Statement.Numbered
import BulkDml.Proofs.Statement.Reading

namespace BulkDml

/-- A table as the states of a connection hold it, and how close the operators bind in the texts
that the connection is sent. -/
structure TableView (σ ρ : Type) where
  rows : σ → List ρ
  /-- The rows of a condition in the order in which a select returns them. -/
  scan : σ → Option Written → List ρ
  get : ρ → String → Value
  order : Collation
  /-- What a value is where it is bound. -/
  bind : Value → Value
  /-- What is returned of a value that a row holds. -/
  read : Value → Value
  closeness : ArithmeticOp → Nat
  assign : List (String × AssignedValue) → ρ → ρ

def upTo {ρ : Type} (limit : Option Nat) (rows : List ρ) : List ρ := limit.elim rows (rows.take ·)

namespace TableView

variable {σ ρ : Type} (v : TableView σ ρ)

def satisfies (r : ρ) (condition : Option Written) : Bool :=
  condition.all fun w => ((w.mapValues v.bind).truth v.order (v.get r)).holds

def effect (r : ρ) : RowChange → Option ρ
  | .delete => none
  | .assign values => some (v.assign values r)

def mutate (change : RowChange) (touched : ρ → Bool) (r : ρ) : Option ρ :=
  if touched r then v.effect r change else some r

def sameKey (key : List String) (r r' : ρ) : Prop :=
  ∀ column ∈ key, v.order [column] (v.get r column) (v.get r' column) = .eq

def columnsOf (columns : List String) (r : ρ) : List Value :=
  columns.map fun column => v.read (v.get r column)

structure KeyEnforced (key : List String) (rows : List ρ) : Prop where
  present : ∀ r ∈ rows, ∀ column ∈ key, (v.get r column).isNull = false
  distinct : rows.Nodup
  unique : ∀ r ∈ rows, ∀ r' ∈ rows, v.sameKey key r r' → r = r'

/-- The keys of rows come back as they were when they are bound again. -/
def KeySurvives (key : List String) (rows : List ρ) : Prop :=
  ∀ r ∈ rows, ∀ column ∈ key, v.bind (v.read (v.get r column)) = v.get r column

theorem widths_columnsOf (columns : List String) (group : List ρ) :
    ∀ tuple ∈ group.map (v.columnsOf columns), tuple.length = columns.length := by
  intro tuple member
  obtain ⟨r, _, rfl⟩ := List.mem_map.mp member
  exact List.length_map _

end TableView

/-- How a connection runs statements on a table where they succeed, told by the text and the
parameters that it is sent. Under an enforced key, a mutation touches the rows that satisfy its
condition, each by its own old values, and leaves the key enforced. Nothing is assumed of requests
that no dialect has composed. -/
structure TableLaws {σ ρ : Type} (c : Connection σ) (d : Dialect) (table : TableRef)
    (key : List String) (v : TableView σ ρ) : Prop where
  equal : ∀ columns w, v.order columns w w = .eq
  begun : ∀ s t, c.begin s = (.ok (), t) → v.rows t = v.rows s ∧ v.scan t = v.scan s
  committed : ∀ s t, c.commit s = (.ok (), t) → v.rows t = v.rows s
  scan_perm : ∀ s condition,
    (v.scan s condition).Perm ((v.rows s).filter (v.satisfies · condition))
  selected : ∀ s t r columns condition limit keys, r.dialect = d → r.command.Composed d →
    d.readCommand? v.closeness r.statement = some (.select columns table condition limit) →
    (∀ n ∈ limit, n < 2 ^ 63) → c.queryRows r s = (.ok keys, t) →
      v.rows t = v.rows s ∧ keys = (upTo limit (v.scan s condition)).map (v.columnsOf columns)
  mutated : ∀ s t r change condition count, r.dialect = d → r.command.Composed d →
    d.readCommand? v.closeness r.statement = some (.mutate change table condition none) →
    v.KeyEnforced key (v.rows s) → c.execute r s = (.ok count, t) →
      count = ((v.rows s).countP (v.satisfies · condition)).toUInt64 ∧
        (v.rows t).Perm ((v.rows s).filterMap (v.mutate change (v.satisfies · condition))) ∧
        v.KeyEnforced key (v.rows t)

namespace KeyedAction

def Composed (d : Dialect) (action : KeyedAction) : Prop :=
  ∀ set ∈ action.set?, set.dialect = d ∧ set.assignments ≠ []

theorem stated?_mutationCommand {d : Dialect} {action : KeyedAction}
    (composed : action.Composed d) (table : TableRef) (condition : Option Condition) :
    (Plan.mutationCommand action table condition none).stated? d =
      some (.mutate (action.change d) table (condition.map Condition.stated) none) := by
  cases action with
  | delete => rfl
  | update set =>
    have filled : ¬set.assignments.isEmpty := by simpa using (composed set rfl).2
    exact if_neg filled

end KeyedAction

theorem eq_of_nodup_filterMap {α β : Type} {f : α → Option β} {xs : List α}
    (distinct : (xs.filterMap f).Nodup) {a b : α} (left : a ∈ xs) (right : b ∈ xs) {c : β}
    (ofLeft : f a = some c) (ofRight : f b = some c) : a = b := by
  induction xs with
  | nil => cases left
  | cons x xs ih =>
    have later : (xs.filterMap f).Nodup := by
      cases kept : f x <;> simp_all
    have notAgain : f x = some c → c ∉ xs.filterMap f := by
      intro kept
      rw [List.filterMap_cons, kept] at distinct
      exact (List.nodup_cons.mp distinct).1
    cases left with
    | head =>
      cases right with
      | head => rfl
      | tail _ right => exact absurd (List.mem_filterMap.mpr ⟨b, right, ofRight⟩) (notAgain ofLeft)
    | tail _ left =>
      cases right with
      | head => exact absurd (List.mem_filterMap.mpr ⟨a, left, ofLeft⟩) (notAgain ofRight)
      | tail _ right => exact ih later left right

namespace TableLaws

variable {σ ρ : Type} {c : Connection σ} {b : Backend} {d : Dialect} {table : TableRef}
  {key : List String} {v : TableView σ ρ}

theorem satisfies_keys (laws : TableLaws c d table key v) (keyed : key ≠ []) {rows : List ρ}
    (enforced : v.KeyEnforced key rows) {group : List ρ} (listed : ∀ r ∈ group, r ∈ rows)
    (survives : v.KeySurvives key group) {r : ρ} (member : r ∈ rows) :
    v.satisfies r (some (Condition.keys key (group.map (v.columnsOf key))).stated) = true ↔
      r ∈ group := by
  have widths := v.widths_columnsOf key group
  rw [TableView.satisfies, Option.all_some, Condition.stated,
    Condition.truth_simplified_keys v.bind keyed widths, Truth.holds, beq_iff_eq,
    Condition.keysTruth_eq_true_iff]
  have bound (r' : ρ) : (v.columnsOf key r').map v.bind =
      key.map fun column => v.bind (v.read (v.get r' column)) := by
    simp [TableView.columnsOf, Function.comp_def]
  constructor
  · rintro ⟨tuple, chosen, holds⟩
    rw [List.map_map] at chosen
    obtain ⟨r', inGroup, rfl⟩ := List.mem_map.mp chosen
    rw [Function.comp_apply, bound, Condition.tupleTruth_eq_true_iff] at holds
    have same : v.sameKey key r r' := by
      intro column part
      have equal := (Condition.compareTruth_eq_true_iff.mp (holds column part)).2.2
      rwa [survives r' inGroup column part] at equal
    rw [enforced.unique r member r' (listed r' inGroup) same]
    exact inGroup
  · intro inGroup
    refine ⟨(v.columnsOf key r).map v.bind, List.mem_map_of_mem (List.mem_map_of_mem inGroup), ?_⟩
    rw [bound, Condition.tupleTruth_eq_true_iff]
    intro column part
    rw [survives r inGroup column part, Condition.compareTruth_eq_true_iff]
    have present := enforced.present r member column part
    exact ⟨present, present, laws.equal _ _⟩

/-- The statement of a mutation, read back from its text. -/
theorem mutated_command (laws : TableLaws c b.dialect table key v) {action : KeyedAction}
    (composed : action.Composed b.dialect) {condition : Option Condition}
    (wellFormed : ∀ p ∈ condition, p.simplified.WellFormed) {count : UInt64} {s t : σ}
    (happens : (Exchange.execute ⟨b.dialect, Plan.mutationCommand action table condition none⟩
      (.ok count)).Happens c s t)
    (enforced : v.KeyEnforced key (v.rows s)) :
    let stated := condition.map Condition.stated
    count = ((v.rows s).countP (v.satisfies · stated)).toUInt64 ∧
      (v.rows t).Perm
        ((v.rows s).filterMap (v.mutate (action.change b.dialect) (v.satisfies · stated))) ∧
      v.KeyEnforced key (v.rows t) := by
  have written : (Plan.mutationCommand action table condition none).Composed b.dialect :=
    Plan.composed_mutationCommand (fun set assigned => (composed set assigned).1) wellFormed
  have reads := Request.readCommand?_statement written v.closeness
  rw [KeyedAction.stated?_mutationCommand composed] at reads
  exact laws.mutated s t _ _ _ count rfl written reads enforced happens

theorem mutate_congr {change : RowChange} {p q : ρ → Bool} {rows : List ρ}
    (same : ∀ r ∈ rows, p r = q r) :
    rows.filterMap (v.mutate change p) = rows.filterMap (v.mutate change q) := by
  apply List.filterMap_congr
  intro r member
  rw [TableView.mutate, TableView.mutate, same r member]

theorem mutate_spared {change : RowChange} {p : ρ → Bool} {r : ρ} (spared : p r = false) :
    v.mutate change p r = some r := by
  simp [TableView.mutate, spared]

theorem mutate_untouched {change : RowChange} {p : ρ → Bool} {rows : List ρ}
    (spared : ∀ r ∈ rows, p r = false) : rows.filterMap (v.mutate change p) = rows := by
  rw [List.filterMap_congr fun r member => mutate_spared (spared r member), List.filterMap_some]

theorem mem_mutate_of_spared {change : RowChange} {p : ρ → Bool} {rows : List ρ} {r : ρ}
    (member : r ∈ rows) (spared : p r = false) : r ∈ rows.filterMap (v.mutate change p) :=
  List.mem_filterMap.mpr ⟨r, member, mutate_spared spared⟩

variable [DecidableEq ρ]

theorem mutate_chosen {change : RowChange} {p : ρ → Bool} {rows touched : List ρ}
    (chosen : touched.Perm (rows.filter p)) :
    rows.filterMap (v.mutate change p) = rows.filterMap (v.mutate change (· ∈ touched)) := by
  apply mutate_congr
  intro r member
  rw [Bool.eq_iff_iff, decide_eq_true_iff, chosen.mem_iff, List.mem_filter]
  exact ⟨fun holds => ⟨member, holds⟩, And.right⟩

/-- A row that one group's mutation moved is in no later group: it would have taken the place of a
row that is still there. -/
theorem mutate_mutate {change : RowChange} {rows group later : List ρ}
    (kept : (rows.filterMap (v.mutate change (· ∈ group))).Nodup)
    (listed : ∀ r ∈ group ++ later, r ∈ rows) (distinct : (group ++ later).Nodup) {r : ρ}
    (member : r ∈ rows) :
    (v.mutate change (· ∈ group) r).bind (v.mutate change (· ∈ later)) =
      v.mutate change (· ∈ group ++ later) r := by
  by_cases inGroup : r ∈ group
  · have touched : v.mutate change (· ∈ group) r = v.effect r change := by
      simp [TableView.mutate, inGroup]
    have all : v.mutate change (· ∈ group ++ later) r = v.effect r change := by
      simp [TableView.mutate, inGroup]
    rw [touched, all]
    cases moved : v.effect r change with
    | none => rfl
    | some r' =>
      have notLater : r' ∉ later := by
        intro inLater
        -- Then `r'` is in the table twice: where it was, and where `r` was.
        have apart := (List.nodup_append.mp distinct).2.2
        have notGroup : r' ∉ group := fun again => apart r' again r' inLater rfl
        have stays : v.mutate change (· ∈ group) r' = some r' :=
          mutate_spared (decide_eq_false notGroup)
        have same := eq_of_nodup_filterMap kept member
          (listed r' (List.mem_append_right _ inLater)) (touched.trans moved) stays
        exact notGroup (same ▸ inGroup)
      simp [TableView.mutate, notLater]
  · simp [TableView.mutate, inGroup]

theorem mutated_group {p : KeyedPlan} (laws : TableLaws c b.dialect p.table p.keyColumns v)
    (own : p.dialect = b.dialect) (composed : p.action.Composed b.dialect)
    (keyed : p.keyColumns ≠ []) {group : List ρ} {r : Request}
    (written : p.mutationFor (group.map (v.columnsOf p.keyColumns)) = .ok r)
    {count : UInt64} {s t : σ} (happens : (Exchange.execute r (.ok count)).Happens c s t)
    (enforced : v.KeyEnforced p.keyColumns (v.rows s)) (listed : ∀ r ∈ group, r ∈ v.rows s)
    (distinct : group.Nodup) (survives : v.KeySurvives p.keyColumns group) :
    (v.rows t).Perm
        ((v.rows s).filterMap (v.mutate (p.action.change b.dialect) (· ∈ group))) ∧
      v.KeyEnforced p.keyColumns (v.rows t) ∧ count = group.length.toUInt64 := by
  have wellFormed : ∀ q ∈ some (Condition.keys p.keyColumns (group.map (v.columnsOf p.keyColumns))),
      q.simplified.WellFormed := by
    rintro q ⟨⟩
    exact Condition.wellFormed_keys keyed (v.widths_columnsOf p.keyColumns group)
  have sent := KeyedPlan.mutationFor_eq written
  rw [KeyedPlan.mutationDialect, own, Dialect.withNativeMarkers_dialect] at sent
  subst sent
  obtain ⟨counted, changed, still⟩ := laws.mutated_command composed wellFormed happens enforced
  have selects : ∀ r ∈ v.rows s, v.satisfies r
      (some (Condition.keys p.keyColumns (group.map (v.columnsOf p.keyColumns))).stated) =
        decide (r ∈ group) := by
    intro r member
    rw [Bool.eq_iff_iff, decide_eq_true_iff]
    exact laws.satisfies_keys keyed enforced listed survives member
  have chosen : ((v.rows s).filter (· ∈ group)).Perm group := by
    rw [List.perm_ext_iff_of_nodup (enforced.distinct.filter _) distinct]
    intro r
    rw [List.mem_filter, decide_eq_true_iff]
    exact ⟨And.right, fun member => ⟨listed r member, member⟩⟩
  refine ⟨?_, still, ?_⟩
  · exact mutate_congr selects ▸ changed
  · rw [counted, Option.map_some, List.countP_congr fun r member => by rw [selects r member],
      List.countP_eq_length_filter, chosen.length_eq]

/-- The mutations of a keyed plan touch the rows of all groups, each of them once. -/
theorem mutated_groups {p : KeyedPlan} (laws : TableLaws c b.dialect p.table p.keyColumns v)
    (own : p.dialect = b.dialect) (composed : p.action.Composed b.dialect)
    (keyed : p.keyColumns ≠ []) {groups : List (List ρ)} {sent : List Sent}
    (keys : sent.map Sent.keys = groups.map (List.map (v.columnsOf p.keyColumns)))
    (written : ∀ x ∈ sent, p.mutationFor x.keys = .ok x.request) {s t : σ}
    (talk : Conversation c s (sent.map Sent.exchange) t)
    (enforced : v.KeyEnforced p.keyColumns (v.rows s))
    (listed : ∀ r ∈ groups.flatten, r ∈ v.rows s) (distinct : groups.flatten.Nodup)
    (survives : v.KeySurvives p.keyColumns groups.flatten) :
    (v.rows t).Perm
        ((v.rows s).filterMap (v.mutate (p.action.change b.dialect) (· ∈ groups.flatten))) ∧
      Sent.total sent = groups.flatten.length.toUInt64 := by
  induction groups generalizing sent s with
  | nil =>
    cases sent with
    | nil =>
      cases talk
      have untouched : ∀ r ∈ v.rows t, decide (r ∈ ([] : List (List ρ)).flatten) = false := by simp
      exact ⟨.of_eq (mutate_untouched untouched).symm, rfl⟩
    | cons x sent => cases keys
  | cons group groups ih =>
    cases sent with
    | nil => cases keys
    | cons x sent =>
      obtain ⟨named, keys⟩ := List.cons.inj keys
      obtain ⟨first, written⟩ := List.forall_mem_cons.mp written
      obtain ⟨m, executes, talk⟩ := talk.of_cons
      rw [List.flatten_cons] at listed distinct survives ⊢
      obtain ⟨inner, rest, apart⟩ := List.nodup_append.mp distinct
      rw [named] at first
      obtain ⟨changed, still, counted⟩ := laws.mutated_group own composed keyed first executes
        enforced (fun r member => listed r (List.mem_append_left _ member)) inner
        (fun r member => survives r (List.mem_append_left _ member))
      -- What the first mutation leaves alone includes the rows of all later groups.
      have kept : ∀ r ∈ groups.flatten, r ∈ v.rows m := by
        intro r later
        have notGroup : r ∉ group := fun member => apart r member r later rfl
        rw [changed.mem_iff]
        exact mem_mutate_of_spared (listed r (List.mem_append_right _ later))
          (decide_eq_false notGroup)
      obtain ⟨mutated, total⟩ := ih keys written talk still kept rest
        (fun r member => survives r (List.mem_append_right _ member))
      have nodup := changed.nodup still.distinct
      refine ⟨(mutated.trans (changed.filterMap _)).trans (.of_eq ?_), ?_⟩
      · rw [List.filterMap_filterMap]
        apply List.filterMap_congr
        intro r member
        exact mutate_mutate nodup listed distinct member
      · rw [Sent.total, total, counted, List.length_append]
        exact (UInt64.ofNat_add _ _).symm

omit [DecidableEq ρ] in
theorem mem_scan (laws : TableLaws c d table key v) {s : σ} {condition : Option Written} {r : ρ}
    (member : r ∈ v.scan s condition) : r ∈ v.rows s := by
  rw [(laws.scan_perm s condition).mem_iff] at member
  exact List.mem_of_mem_filter member

omit [DecidableEq ρ] in
/-- What the selection of a plan's keys returns, by its text. -/
theorem selected_keys {p : KeyedPlan} (laws : TableLaws c b.dialect p.table p.keyColumns v)
    (own : p.dialect = b.dialect) (keyed : p.keyColumns ≠ [])
    (trailing : b.dialect.selectLimit = .trailing)
    (wellFormed : ∀ q ∈ p.condition, q.simplified.WellFormed) (small : p.limit.toNat < 2 ^ 63)
    {keys : List (List Value)} {s t : σ}
    (happens : (Exchange.queryRows p.selectKeys (.ok keys)).Happens c s t) :
    v.rows t = v.rows s ∧ keys = ((v.scan s (p.condition.map Condition.stated)).take
      p.limit.toNat).map (v.columnsOf p.keyColumns) := by
  let command := Command.selectKeys p.keyColumns p.table p.condition (some (.trailing p.limit))
  have select : p.selectKeys = ⟨b.dialect, command⟩ := by
    rw [KeyedPlan.selectKeys, own, trailing]
    rfl
  have composed : command.Composed b.dialect := ⟨rfl, by rintro set ⟨⟩, wellFormed⟩
  have reads := Request.readCommand?_statement composed v.closeness
  rw [Command.stated?, if_neg (by simpa using keyed)] at reads
  rw [select] at happens
  refine laws.selected s t _ _ _ _ keys rfl composed reads ?_ happens
  rintro n ⟨⟩
  exact small

/-- A keyed plan that succeeds has mutated the first rows of its condition, each of them once. -/
theorem keyed_exact {p : KeyedPlan} (laws : TableLaws c b.dialect p.table p.keyColumns v)
    (own : p.dialect = b.dialect) (composed : p.action.Composed b.dialect)
    (keyed : p.keyColumns ≠ []) (trailing : b.dialect.selectLimit = .trailing)
    (wellFormed : ∀ q ∈ p.condition, q.simplified.WellFormed) (small : p.limit.toNat < 2 ^ 63)
    {size : Nat} {xs : List Exchange} {count : UInt64}
    (inside : KeyedProtocol p size xs (.ok count)) {s t : σ} (talk : Conversation c s xs t)
    (enforced : v.KeyEnforced p.keyColumns (v.rows s))
    (survives : v.KeySurvives p.keyColumns (v.rows s)) :
    let touched := (v.scan s (p.condition.map Condition.stated)).take p.limit.toNat
    (v.rows t).Perm
        ((v.rows s).filterMap (v.mutate (p.action.change b.dialect) (· ∈ touched))) ∧
      count = touched.length.toUInt64 := by
  intro touched
  -- Of all ways in which a keyed plan can go, only the one that was committed ends in a count.
  cases inside with
  | @committed keys xs _ mutated =>
    obtain ⟨began, begins, talk⟩ := talk.of_cons
    obtain ⟨chosen, selects, talk⟩ := talk.of_cons
    obtain ⟨changed, mutates, commits⟩ := talk.of_append
    obtain ⟨sameRows, sameScan⟩ := laws.begun s began begins
    obtain ⟨unchanged, returned⟩ :=
      laws.selected_keys own keyed trailing wellFormed small selects
    rw [sameScan] at returned
    have rows : v.rows chosen = v.rows s := unchanged.trans sameRows
    have kept : v.rows t = v.rows changed := laws.committed changed t commits.of_single
    generalize cut : chunks size keys = pieces at mutated
    cases mutated with
    | done sent written =>
      -- The chunks of the keys are the keys of the chunks of the rows.
      rw [returned, chunks_map] at cut
      have whole : (chunks size touched).flatten = touched := flatten_chunks size touched
      have listed : ∀ r ∈ touched, r ∈ v.rows s := fun r member =>
        laws.mem_scan (List.mem_of_mem_take member)
      have distinct : touched.Nodup := by
        have scanned := (laws.scan_perm s (p.condition.map Condition.stated)).nodup_iff.mpr
          (enforced.distinct.filter _)
        exact scanned.sublist (List.take_sublist _ _)
      have exact := laws.mutated_groups own composed keyed cut.symm written mutates
        (rows ▸ enforced) (by rw [whole, rows]; exact listed) (by rw [whole]; exact distinct)
        (by rw [whole]; exact fun r member => survives r (listed r member))
      rwa [whole, rows, ← kept] at exact

end TableLaws

end BulkDml
