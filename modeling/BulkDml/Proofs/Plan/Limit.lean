import BulkDml.Proofs.Clause.Token
import BulkDml.Proofs.Plan.Compiled

namespace BulkDml

namespace Dialect

/-- Text before and after a fragment does not change how its parameters are numbered. -/
theorem render_around (d : Dialect) {f g : Fragment} {before after : String}
    (around : f.stream = before.toList.map .inl ++ (g.stream ++ after.toList.map .inl)) :
    d.render f = ⟨before ++ (d.render g).sql ++ after, (d.render g).params⟩ := by
  have sql : (d.render f).sql = before ++ (d.render g).sql ++ after := by
    apply String.toList_inj.mp
    simp only [render, Fragment.render, String.toList_append, Fragment.toList_renderText]
    change renderSymbols d.marker 0 f.stream = _
    rw [around, renderSymbols_text, renderSymbols_append_text, List.append_assoc]
    rfl
  have params : (d.render f).params = (d.render g).params := by
    change f.params = g.params
    have noParams (text : String) :
        (text.toList.map Sum.inl : List Symbol).filterMap Sum.getRight? = [] := by
      simp [List.filterMap_map]
    rw [Fragment.params_eq_stream, Fragment.params_eq_stream, around, List.filterMap_append,
      List.filterMap_append, noParams, noParams, List.nil_append, List.append_nil]
  rw [← sql, ← params]

end Dialect

namespace Condition

def symbols (d : Dialect) : Option Condition → List Symbol
  | some c => (Fragment.sql " WHERE " ++ c.toFragment d).stream
  | none => []

theorem stream_appendTo (d : Dialect) (head : Fragment) (c : Option Condition) :
    (appendTo d head c).stream = head.stream ++ symbols d c := by
  cases c <;> simp [appendTo, symbols]

end Condition

namespace Command

def verb (d : Dialect) : Command → String
  | delete .. => "DELETE "
  | update .. => "UPDATE "
  | insert target set _ _ _ =>
    "INSERT INTO " ++ d.quoteTable target ++ " (" ++ set.columnList ++ ") SELECT "
  | selectKeys .. => "SELECT "
  | raw _ => ""

def body (d : Dialect) : Command → Fragment
  | delete table condition _ =>
    Condition.appendTo d (Fragment.sql ("FROM " ++ d.quoteTable table)) condition
  | update table set condition _ =>
    Condition.appendTo d (Fragment.sql (d.quoteTable table ++ " SET ") ++ set.setClause) condition
  | insert _ set source condition _ =>
    Condition.appendTo d (set.selectList.pushSql (" FROM " ++ d.quoteTable source)) condition
  | selectKeys columns table condition _ =>
    Condition.appendTo d
      (Fragment.sql (", ".intercalate (columns.map d.quote) ++ " FROM " ++ d.quoteTable table))
      condition
  | raw _ => .empty

variable {d : Dialect} {c : Command}

theorem statement_eq (notRaw : c.isRaw = false) :
    Request.statement ⟨d, c⟩ =
      ⟨c.verb d ++ RowLimit.afterVerb c.limit ++ (d.render (c.body d)).sql ++
        RowLimit.atEnd c.limit, (d.render (c.body d)).params⟩ := by
  have around : (c.toFragment d).stream =
      (c.verb d ++ RowLimit.afterVerb c.limit).toList.map .inl ++
        ((c.body d).stream ++ (RowLimit.atEnd c.limit).toList.map .inl) := by
    cases c with
    | raw => cases notRaw
    | _ =>
      simp only [toFragment, head, condition, limit, verb, body, Condition.stream_appendTo,
        Fragment.stream_pushSql, Fragment.stream_append, Fragment.stream_sql,
        String.toList_append, List.map_append, List.append_assoc]
  rw [Request.statement_eq_render notRaw, d.render_around around]

def withLimit (clause : RowLimit) : Command → Command
  | delete table condition _ => delete table condition (some clause)
  | update table set condition _ => update table set condition (some clause)
  | insert target set source condition _ => insert target set source condition (some clause)
  | selectKeys columns table condition _ => selectKeys columns table condition (some clause)
  | raw statement => raw statement

theorem statement_unlimited (notRaw : c.isRaw = false) (unlimited : c.limit = none) :
    Request.statement ⟨d, c⟩ =
      ⟨c.verb d ++ (d.render (c.body d)).sql, (d.render (c.body d)).params⟩ := by
  rw [statement_eq notRaw, unlimited]
  simp [RowLimit.afterVerb, RowLimit.atEnd]

end Command

namespace RowLimit

/-- The clause is added to a statement after its verb or at its end, and nothing else changes. -/
def AddedTo (verb : String) (s t : Statement) : RowLimit → Prop
  | top n => t.params = s.params ∧
    ∃ rest, s.sql = verb ++ rest ∧ t.sql = verb ++ ("TOP (" ++ toString n ++ ") ") ++ rest
  | trailing n => t.params = s.params ∧ t.sql = s.sql ++ (" LIMIT " ++ toString n)

theorem exists_ofStyle? {style : LimitStyle} (direct : style ≠ .keyed) (n : UInt64) :
    ∃ clause, ofStyle? style n = some clause := by
  cases style with
  | top => exact ⟨top n, rfl⟩
  | trailing => exact ⟨trailing n, rfl⟩
  | keyed => exact absurd rfl direct

theorem addedTo_withLimit {d : Dialect} {c : Command} (notRaw : c.isRaw = false)
    (unlimited : c.limit = none) (clause : RowLimit) :
    clause.AddedTo (c.verb d) (Request.statement ⟨d, c⟩)
      (Request.statement ⟨d, c.withLimit clause⟩) := by
  have parts : (c.withLimit clause).isRaw = false ∧ (c.withLimit clause).verb d = c.verb d ∧
      (c.withLimit clause).body d = c.body d ∧ (c.withLimit clause).limit = some clause := by
    cases c with
    | raw => cases notRaw
    | _ => exact ⟨rfl, rfl, rfl, rfl⟩
  obtain ⟨stillNotRaw, verb, body, limit⟩ := parts
  rw [Command.statement_unlimited notRaw unlimited, Command.statement_eq stillNotRaw, verb, body,
    limit]
  cases clause with
  | top n => exact ⟨rfl, _, rfl, by simp [afterVerb, atEnd]⟩
  | trailing n => exact ⟨rfl, by simp [afterVerb, atEnd]⟩

end RowLimit

namespace StatementKind

def byKeys (d : Dialect) : StatementKind → Bool
  | insert _ => false
  | _ => d.mutationLimit == .keyed

def limitStyle (d : Dialect) : StatementKind → LimitStyle
  | insert _ => d.selectLimit
  | _ => if d.mutationLimit = .keyed then d.selectLimit else d.mutationLimit

def CanLimit (d : Dialect) (m : Mapping) (kind : StatementKind) : Prop :=
  kind.limitStyle d ≠ .keyed ∧ (kind.byKeys d → m.hasKey)

/-- Keys are selected in a dialect that cannot limit the selection. -/
def LosesLimit (d : Dialect) (m : Mapping) (kind : StatementKind) : Prop :=
  kind.byKeys d ∧ m.hasKey ∧ d.selectLimit = .keyed

instance (d : Dialect) (m : Mapping) (kind : StatementKind) : Decidable (kind.LosesLimit d m) :=
  inferInstanceAs (Decidable (_ ∧ _ ∧ _))

def chooser (d : Dialect) (m : Mapping) (condition : Option Condition) (c : Command)
    (kind : StatementKind) : Command :=
  if kind.byKeys d then .selectKeys (m.keyColumns.map (·.name)) m.tableRef condition none else c

end StatementKind

namespace Plan

def chooser : Plan → Request
  | single r => r
  | keyed p => p.selectKeys

variable {d : Dialect} {kind : StatementKind} {m : Mapping} {condition : Option Condition}

def command (d : Dialect) (kind : StatementKind) (m : Mapping) (condition : Option Condition)
    (set : Option AssignmentSet) : Except Error Command :=
  match kind with
  | .delete => .ok (.delete m.tableRef condition none)
  | .update => do return .update m.tableRef (← requireAssignments d kind set) condition none
  | .insert target => do
    return .insert target.tableRef (← requireAssignments d kind set) m.tableRef condition none

/-- Of a statement that would run `c` without a limit, the one that chooses the rows is limited to
`n` rows, and the statement is refused where there is no way to do so. -/
structure KeepsLimit (d : Dialect) (kind : StatementKind) (m : Mapping)
    (condition : Option Condition) (c : Command) (n : UInt64) (result : Except Error Plan) :
    Prop where
  stated : kind.CanLimit d m → ∃ clause plan,
    RowLimit.ofStyle? (kind.limitStyle d) n = some clause ∧ result = .ok plan ∧
      clause.AddedTo ((kind.chooser d m condition c).verb d)
        (Request.statement ⟨d, kind.chooser d m condition c⟩) plan.chooser.statement
  refused : ¬kind.CanLimit d m →
    ∃ reason, result = .error (.limitUnsupported d.backend.name kind.name reason)

/-- Where mutations are limited by keys, the limit is stated in the selection of the keys. -/
theorem keepsLimit_byKeys (action : KeyedAction) (changes : kind = .delete ∨ kind = .update)
    (keyed : d.mutationLimit = .keyed) (kept : ¬kind.LosesLimit d m) (n : UInt64) :
    KeepsLimit d kind m condition (mutationCommand action m.tableRef condition none) n
      (mutation d action kind m condition (some n)) := by
  have byKeys : kind.byKeys d = true := by
    rcases changes with rfl | rfl <;> simp [StatementKind.byKeys, keyed]
  have limitStyle : kind.limitStyle d = d.selectLimit := by
    rcases changes with rfl | rfl <;> simp [StatementKind.limitStyle, keyed]
  let selection := Command.selectKeys (m.keyColumns.map (·.name)) m.tableRef condition none
  have chooser (c : Command) : kind.chooser d m condition c = selection := if_pos byKeys
  constructor
  · rintro ⟨selectable, hasKey⟩
    rw [limitStyle] at selectable ⊢
    obtain ⟨clause, stated⟩ := RowLimit.exists_ofStyle? selectable n
    let p : KeyedPlan := ⟨d, action, m.tableRef, m.keyColumns.map (·.name), condition, n⟩
    have built : mutation d action kind m condition (some n) = .ok (.keyed p) := by
      simp [mutation, keyed, RowLimit.ofStyle?, hasKey byKeys, p]
    have limited : p.selectKeys = ⟨d, selection.withLimit clause⟩ := by
      simp [KeyedPlan.selectKeys, p, stated, selection, Command.withLimit]
    refine ⟨clause, .keyed p, stated, built, ?_⟩
    rw [chooser, Plan.chooser, limited]
    exact RowLimit.addedTo_withLimit rfl rfl clause
  · intro impossible
    -- Without the exception, a missing key is the only reason left.
    have keyless : m.hasKey = false := by
      by_contra key
      rw [Bool.not_eq_false] at key
      have selectable : d.selectLimit ≠ .keyed := fun lost => kept ⟨byKeys, key, lost⟩
      exact impossible ⟨by rwa [limitStyle], fun _ => key⟩
    have refused : mutation d action kind m condition (some n) =
        .error (.noKeyForLimit d.backend.name kind.name m.table) := by
      simp [mutation, keyed, RowLimit.ofStyle?, keyless]
    exact ⟨_, refused⟩

/-- Where mutations have a clause for it, the limit is stated in the mutation. -/
theorem keepsLimit_direct (action : KeyedAction) (changes : kind = .delete ∨ kind = .update)
    (direct : d.mutationLimit ≠ .keyed) (n : UInt64) :
    KeepsLimit d kind m condition (mutationCommand action m.tableRef condition none) n
      (mutation d action kind m condition (some n)) := by
  let c := mutationCommand action m.tableRef condition none
  have byKeys : kind.byKeys d = false := by
    rcases changes with rfl | rfl <;> simp [StatementKind.byKeys, direct]
  have limitStyle : kind.limitStyle d = d.mutationLimit := by
    rcases changes with rfl | rfl <;> simp [StatementKind.limitStyle, direct]
  have chooser : kind.chooser d m condition c = c := if_neg (Bool.eq_false_iff.mp byKeys)
  constructor
  · intro _
    obtain ⟨clause, stated⟩ := RowLimit.exists_ofStyle? direct n
    have plain : c.isRaw = false ∧ c.limit = none ∧
        mutationCommand action m.tableRef condition (some clause) = c.withLimit clause := by
      cases action <;> exact ⟨rfl, rfl, rfl⟩
    obtain ⟨notRaw, unlimited, limited⟩ := plain
    have built : mutation d action kind m condition (some n) =
        .ok (.single ⟨d, c.withLimit clause⟩) := by
      simp [mutation, stated, limited]
    rw [limitStyle, chooser]
    exact ⟨clause, _, stated, built, RowLimit.addedTo_withLimit notRaw unlimited clause⟩
  · intro impossible
    exact absurd ⟨by rwa [limitStyle], by simp [byKeys]⟩ impossible

theorem mutation_keepsLimit (action : KeyedAction) (changes : kind = .delete ∨ kind = .update)
    (kept : ¬kind.LosesLimit d m) (n : UInt64) :
    KeepsLimit d kind m condition (mutationCommand action m.tableRef condition none) n
      (mutation d action kind m condition (some n)) := by
  by_cases keyed : d.mutationLimit = .keyed
  · exact keepsLimit_byKeys action changes keyed kept n
  · exact keepsLimit_direct action changes keyed n

theorem transfer_keepsLimit {target : Mapping} {set : AssignmentSet} (n : UInt64) :
    KeepsLimit d (.insert target) m condition
      (.insert target.tableRef set m.tableRef condition none) n
      (transfer d m target condition set (some n)) := by
  let c := Command.insert target.tableRef set m.tableRef condition none
  have chooser : (StatementKind.insert target).chooser d m condition c = c := rfl
  by_cases keyed : d.selectLimit = .keyed
  · have refused : transfer d m target condition set (some n) =
        .error (.noSelectLimit d.backend.name) := by
      simp [transfer, keyed, RowLimit.ofStyle?]
    exact ⟨fun possible => absurd keyed possible.1, fun _ => ⟨_, refused⟩⟩
  · obtain ⟨clause, stated⟩ := RowLimit.exists_ofStyle? keyed n
    have built : transfer d m target condition set (some n) =
        .ok (.single ⟨d, c.withLimit clause⟩) := by
      simp [transfer, stated, c, Command.withLimit]
    constructor
    · intro _
      refine ⟨clause, _, stated, built, ?_⟩
      rw [chooser]
      exact RowLimit.addedTo_withLimit rfl rfl clause
    · intro impossible
      exact absurd ⟨keyed, nofun⟩ impossible

theorem filter_positive {n : UInt64} (positive : 0 < n) :
    (some n).filter (· > 0) = some n := by
  simp [Option.filter, positive]

theorem filter_absent {limit : Option UInt64} (absent : limit = none ∨ limit = some 0) :
    limit.filter (· > 0) = none := by
  rcases absent with rfl | rfl <;> rfl

/-- A limit is kept or refused, and without one the statement has no clause for it, unless keys are
selected where a selection cannot be limited. -/
theorem build_keepsLimit (d : Dialect) (kind : StatementKind) (m : Mapping)
    (condition : Option Condition) (set : Option AssignmentSet) :
    match command d kind m condition set with
    | .error e => ∀ limit, build d kind m condition set limit = .error e
    | .ok c =>
      (∀ limit, limit = none ∨ limit = some 0 →
        build d kind m condition set limit = .ok (.single ⟨d, c⟩) ∧
          Request.statement ⟨d, c⟩ =
            ⟨c.verb d ++ (d.render (c.body d)).sql, (d.render (c.body d)).params⟩) ∧
      (¬kind.LosesLimit d m → ∀ n, 0 < n →
        KeepsLimit d kind m condition c n (build d kind m condition set (some n))) := by
  cases kind with
  | delete =>
    refine ⟨?_, ?_⟩
    · intro limit absent
      rw [build, filter_absent absent]
      exact ⟨rfl, Command.statement_unlimited rfl rfl⟩
    · intro kept n positive
      rw [build, filter_positive positive]
      exact mutation_keepsLimit .delete (.inl rfl) kept n
  | update =>
    unfold command build
    cases requireAssignments d .update set with
    | error e => exact fun _ => rfl
    | ok set =>
      refine ⟨?_, ?_⟩
      · intro limit absent
        rw [filter_absent absent]
        exact ⟨rfl, Command.statement_unlimited rfl rfl⟩
      · intro kept n positive
        rw [filter_positive positive]
        exact mutation_keepsLimit (.update set) (.inr rfl) kept n
  | insert target =>
    unfold command build
    cases requireAssignments d (.insert target) set with
    | error e => exact fun _ => rfl
    | ok set =>
      refine ⟨?_, ?_⟩
      · intro limit absent
        rw [filter_absent absent]
        exact ⟨rfl, Command.statement_unlimited rfl rfl⟩
      · intro _ n positive
        rw [filter_positive positive]
        exact transfer_keepsLimit n

def idTable : Mapping := ⟨⟨none, "t", [⟨"id", "id", .integer, true⟩]⟩, by decide⟩

theorem build_keepsLimit_topSelection :
    let d := Dialect.custom .mySql .keyed (some .top)
    let c := Command.delete idTable.tableRef none none
    command d .delete idTable none none = .ok c ∧ ¬StatementKind.delete.LosesLimit d idTable ∧
      KeepsLimit d .delete idTable none c 7 (build d .delete idTable none none (some 7)) := by
  intro d c
  have kept : ¬StatementKind.delete.LosesLimit d idTable := by decide
  have keeps := build_keepsLimit d .delete idTable none none
  exact ⟨rfl, kept, keeps.2 kept 7 (by decide)⟩

/-- Where keys are selected and a selection cannot be limited, all keys are selected. -/
theorem build_losesLimit {set : Option AssignmentSet} {c : Command}
    (lost : kind.LosesLimit d m) (assigned : command d kind m condition set = .ok c) {n : UInt64}
    (positive : 0 < n) :
    ∃ p, build d kind m condition set (some n) = .ok (.keyed p) ∧
      p.selectKeys = ⟨d, kind.chooser d m condition c⟩ := by
  obtain ⟨byKeys, key, unlimited⟩ := lost
  have chooser : kind.chooser d m condition c =
      .selectKeys (m.keyColumns.map (·.name)) m.tableRef condition none := if_pos byKeys
  let p (action : KeyedAction) : KeyedPlan :=
    ⟨d, action, m.tableRef, m.keyColumns.map (·.name), condition, n⟩
  have selects (action : KeyedAction) :
      (p action).selectKeys = ⟨d, kind.chooser d m condition c⟩ := by
    rw [chooser]
    simp [KeyedPlan.selectKeys, p, unlimited, RowLimit.ofStyle?]
  have built (action : KeyedAction) (keyed : d.mutationLimit = .keyed) :
      mutation d action kind m condition (some n) = .ok (.keyed (p action)) := by
    simp [mutation, keyed, RowLimit.ofStyle?, key, p]
  cases kind with
  | insert target => cases byKeys
  | delete =>
    refine ⟨p .delete, ?_, selects _⟩
    rw [build, filter_positive positive]
    exact built .delete (by simpa [StatementKind.byKeys] using byKeys)
  | update =>
    obtain ⟨set, required, -⟩ := bind_eq_ok_iff.mp assigned
    refine ⟨p (.update set), ?_, selects _⟩
    unfold build
    rw [filter_positive positive, required]
    exact built (.update set) (by simpa [StatementKind.byKeys] using byKeys)

theorem build_losesLimit_keyedSelection :
    let d := Dialect.custom .sqlite .keyed (some .keyed)
    let c := Command.delete idTable.tableRef none none
    ∃ p, build d .delete idTable none none (some 5) = .ok (.keyed p) ∧
      p.selectKeys.statement = ⟨"SELECT \"id\" FROM \"t\"", []⟩ ∧
      ¬KeepsLimit d .delete idTable none c 5
        (build d .delete idTable none none (some 5)) := by
  intro d c
  refine ⟨⟨d, .delete, ⟨none, "t"⟩, ["id"], none, 5⟩, rfl, by decide, ?_⟩
  intro keeps
  have impossible : ¬StatementKind.delete.CanLimit d idTable := fun possible => possible.1 rfl
  obtain ⟨reason, refused⟩ := keeps.refused impossible
  cases refused

end Plan

end BulkDml
