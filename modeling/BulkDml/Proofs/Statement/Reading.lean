import BulkDml.Proofs.Statement.Tokens

namespace BulkDml

inductive RowChange where
  | delete
  | assign (values : List (String × AssignedValue))
deriving DecidableEq

/-- What the text of a statement says. -/
inductive WrittenCommand where
  | select (columns : List String) (table : TableRef) (condition : Option Written)
    (limit : Option Nat)
  | mutate (change : RowChange) (table : TableRef) (condition : Option Written)
    (limit : Option Nat)
deriving DecidableEq

namespace WrittenCommand

open Written (text strip strip_text)

def readNames : List Token → Option (List String × List Token)
  | .name s :: .mark ',' :: .mark ' ' :: rest => do
    let (names, rest) ← readNames rest
    return (s :: names, rest)
  | .name s :: rest => some ([s], rest)
  | _ => none

def readTable : List Token → Option (TableRef × List Token)
  | .name schema :: .mark '.' :: .name name :: rest => some (⟨some schema, name⟩, rest)
  | .name name :: rest => some (⟨none, name⟩, rest)
  | _ => none

def readTop (tokens : List Token) : Option (Option Nat × List Token) :=
  match strip "TOP (" tokens with
  | some rest => do
    let (n, rest) ← WrittenValue.readNatural rest
    return (some n, ← strip ") " rest)
  | none => some (none, tokens)

def readWhere (tokens : List Token) : Option (Option Written × List Token) :=
  match strip " WHERE " tokens with
  | some rest => do
    let (w, rest) ← Written.read (some .or) (3 * rest.length + 2) rest
    return (some w, rest)
  | none => some (none, tokens)

/-- Reads what is left of a statement. It has a limit at its end only if there is none after its
verb. -/
def readLimit (top : Option Nat) (tokens : List Token) : Option (Option Nat) :=
  match strip " LIMIT " tokens, top with
  | some rest, none =>
    match WrittenValue.readNatural rest with
    | some (n, []) => some (some n)
    | _ => none
  | some _, some _ => none
  | none, top => if tokens.isEmpty then some top else none

def readSelect (tokens : List Token) : Option WrittenCommand := do
  let (top, rest) ← readTop (← strip "SELECT " tokens)
  let (columns, rest) ← readNames rest
  let (table, rest) ← readTable (← strip " FROM " rest)
  let (condition, rest) ← readWhere rest
  return select columns table condition (← readLimit top rest)

def readDelete (tokens : List Token) : Option WrittenCommand := do
  let (top, rest) ← readTop (← strip "DELETE " tokens)
  let (table, rest) ← readTable (← strip "FROM " rest)
  let (condition, rest) ← readWhere rest
  return mutate .delete table condition (← readLimit top rest)

def readUpdate (closeness : ArithmeticOp → Nat) (tokens : List Token) :
    Option WrittenCommand := do
  let (top, rest) ← readTop (← strip "UPDATE " tokens)
  let (table, rest) ← readTable rest
  let rest ← strip " SET " rest
  let (values, rest) ← WrittenValue.readAssignments closeness rest.length rest
  let (condition, rest) ← readWhere rest
  return mutate (.assign values) table condition (← readLimit top rest)

def ofTokens? (closeness : ArithmeticOp → Nat) (tokens : List Token) : Option WrittenCommand :=
  readSelect tokens <|> readDelete tokens <|> readUpdate closeness tokens

theorem text_append (s t : String) : text (s ++ t) = text s ++ text t := by
  simp [text]

def Blank (rest : List Token) : Prop := rest = [] ∨ ∃ more, rest = .mark ' ' :: more

theorem readNames_names {columns : List String} (filled : columns ≠ []) {rest : List Token}
    (blank : Blank rest) : readNames (Token.names columns ++ rest) = some (columns, rest) := by
  induction columns with
  | nil => exact absurd rfl filled
  | cons column columns ih =>
    cases columns with
    | nil => rcases blank with rfl | ⟨more, rfl⟩ <;> rfl
    | cons next columns =>
      have later := ih (List.cons_ne_nil _ _)
      change readNames (.name column :: .mark ',' :: .mark ' ' ::
        (Token.names (next :: columns) ++ rest)) = _
      rw [readNames, later]
      rfl

theorem readTable_table (t : TableRef) {rest : List Token} (blank : Blank rest) :
    readTable (Token.table t ++ rest) = some (t, rest) := by
  obtain ⟨schema, name⟩ := t
  cases schema with
  | some schema => rfl
  | none => rcases blank with rfl | ⟨more, rfl⟩ <;> rfl

end WrittenCommand

namespace RowLimit

open Written (text strip)
open WrittenCommand

def rows? (limit : Option RowLimit) : Option Nat := limit.map (·.count.toNat)

def top? : Option RowLimit → Option Nat
  | some (top n) => some n.toNat
  | _ => none

theorem readTop_afterVerb (limit : Option RowLimit) {rest : List Token}
    (apart : strip "TOP (" rest = none) :
    readTop (text (afterVerb limit) ++ rest) = some (top? limit, rest) := by
  have absent : readTop (text "" ++ rest) = some (none, rest) := by
    change readTop rest = _
    rw [readTop, apart]
  cases limit with
  | none => exact absent
  | some limit =>
    cases limit with
    | trailing n => exact absent
    | top n =>
      have count : WrittenValue.readNatural (text (toString n) ++ (text ") " ++ rest)) =
          some (n.toNat, text ") " ++ rest) :=
        WrittenValue.readNatural_toString n.toNat (WrittenValue.ends_text rfl (by decide) rest)
      rw [afterVerb, text_append, text_append, List.append_assoc, List.append_assoc, readTop,
        Written.strip_text]
      simp only [Option.bind_eq_bind, count, Option.bind_some, Written.strip_text]
      rfl

theorem readLimit_atEnd (limit : Option RowLimit) :
    readLimit (top? limit) (text (atEnd limit)) = some (rows? limit) := by
  cases limit with
  | none => rfl
  | some limit =>
    cases limit with
    | top n => rfl
    | trailing n =>
      have count : WrittenValue.readNatural (text (toString n)) = some (n.toNat, []) := by
        have reads := WrittenValue.readNatural_toString n.toNat WrittenValue.ends_nil
        rwa [List.append_nil] at reads
      unfold readLimit
      rw [atEnd, text_append, Written.strip_text]
      simp only [top?, count]
      rfl

end RowLimit

namespace Condition

def stated (c : Condition) : Written := c.simplified.written

end Condition

def KeyedAction.change (d : Dialect) : KeyedAction → RowChange
  | delete => .delete
  | update set => .assign (set.assignments.map (Assignment.normal d))

namespace Command

open Written (text strip strip_text)
open WrittenCommand

/-- What the text of a command says. Without columns there is nothing to select or to assign. -/
def stated? (d : Dialect) : Command → Option WrittenCommand
  | delete table condition limit =>
    some (.mutate .delete table (condition.map Condition.stated) (RowLimit.rows? limit))
  | update table set condition limit =>
    if set.assignments.isEmpty then none
    else some (.mutate (.assign (set.assignments.map (Assignment.normal d))) table
      (condition.map Condition.stated) (RowLimit.rows? limit))
  | selectKeys columns table condition limit =>
    if columns.isEmpty then none
    else some (.select columns table (condition.map Condition.stated) (RowLimit.rows? limit))
  | _ => none

theorem eq_of_stated?_mutate {d : Dialect} {c : Command} {change : RowChange} {table : TableRef}
    {condition : Option Written} {limit : Option Nat}
    (told : c.stated? d = some (.mutate change table condition limit)) :
    ∃ action p clause, c = Plan.mutationCommand action table p clause ∧
      change = action.change d ∧ condition = p.map Condition.stated ∧
      limit = RowLimit.rows? clause := by
  cases c with
  | delete _ p clause =>
    cases told
    exact ⟨.delete, p, clause, rfl, rfl, rfl, rfl⟩
  | update _ set p clause =>
    obtain ⟨-, same⟩ := Option.ite_none_left_eq_some.mp told
    cases same
    exact ⟨.update set, p, clause, rfl, rfl, rfl, rfl⟩
  | selectKeys columns _ p clause =>
    obtain ⟨-, same⟩ := Option.ite_none_left_eq_some.mp told
    cases same
  | insert => cases told
  | raw => cases told

theorem eq_of_stated?_select {d : Dialect} {c : Command} {columns : List String}
    {table : TableRef} {condition : Option Written} {limit : Option Nat}
    (told : c.stated? d = some (.select columns table condition limit)) :
    ∃ p clause, c = selectKeys columns table p clause ∧ condition = p.map Condition.stated ∧
      limit = RowLimit.rows? clause := by
  cases c with
  | selectKeys _ _ p clause =>
    obtain ⟨-, same⟩ := Option.ite_none_left_eq_some.mp told
    cases same
    exact ⟨p, clause, rfl, rfl, rfl⟩
  | update _ set p clause =>
    obtain ⟨-, same⟩ := Option.ite_none_left_eq_some.mp told
    cases same
  | delete => cases told
  | insert => cases told
  | raw => cases told

variable {condition : Option Condition} {limit : Option RowLimit}

def tailTokens (condition : Option Condition) (limit : Option RowLimit) : List Token :=
  conditionTokens condition ++ text (RowLimit.atEnd limit)

theorem tailTokens_cases (condition : Option Condition) (limit : Option RowLimit) :
    tailTokens condition limit = [] ∨
      (∃ more, tailTokens condition limit = text " WHERE " ++ more) ∨
      ∃ more, tailTokens condition limit = text " LIMIT " ++ more := by
  cases condition with
  | some c => exact .inr (.inl ⟨_, List.append_assoc _ _ _⟩)
  | none =>
    cases limit with
    | none => exact .inl rfl
    | some limit =>
      cases limit with
      | top n => exact .inl rfl
      | trailing n => exact .inr (.inr ⟨_, text_append _ _⟩)

theorem blank_tailTokens : Blank (tailTokens condition limit) := by
  rcases tailTokens_cases condition limit with same | ⟨more, same⟩ | ⟨more, same⟩ <;> rw [same]
  · exact .inl rfl
  · exact .inr ⟨_, rfl⟩
  · exact .inr ⟨_, rfl⟩

theorem apart_tailTokens : WrittenValue.Ends (tailTokens condition limit) ∧
    WrittenValue.readSign (tailTokens condition limit) = none ∧
    strip ", " (tailTokens condition limit) = none := by
  rcases tailTokens_cases condition limit with same | ⟨more, same⟩ | ⟨more, same⟩ <;> rw [same]
  · exact ⟨WrittenValue.ends_nil, rfl, rfl⟩
  · exact ⟨WrittenValue.ends_text rfl (by decide) more, rfl, rfl⟩
  · exact ⟨WrittenValue.ends_text rfl (by decide) more, rfl, rfl⟩

theorem strip_atEnd {s : String} (apart : strip s [] = none)
    (unlimited : ∀ more, strip s (text " LIMIT " ++ more) = none) :
    strip s (text (RowLimit.atEnd limit)) = none := by
  cases limit with
  | none => exact apart
  | some limit =>
    cases limit with
    | top n => exact apart
    | trailing n =>
      rw [RowLimit.atEnd, text_append]
      exact unlimited _

theorem readWhere_tailTokens (wellFormed : ∀ p ∈ condition, p.simplified.WellFormed) :
    readWhere (tailTokens condition limit) =
      some (condition.map Condition.stated, text (RowLimit.atEnd limit)) := by
  cases condition with
  | none =>
    change readWhere (text (RowLimit.atEnd limit)) = _
    rw [readWhere, strip_atEnd rfl fun _ => rfl]
    rfl
  | some p =>
    have fits := Condition.fits_written (wellFormed p rfl)
    have stops : Written.Stops (some .or) (text (RowLimit.atEnd limit)) := by
      intro c _
      cases c <;> exact strip_atEnd rfl fun _ => rfl
    have loosest := Written.rank_le_or p.simplified.written.level
    have reads := Written.read_at
      (fun fuel enough => Written.read_tokens fits (stops.mono loosest) enough) loosest stops
    have enough : 3 * p.simplified.written.tokens.length + Written.rank (some .or) ≤
        3 * (p.simplified.written.tokens ++ text (RowLimit.atEnd limit)).length + 2 := by
      rw [List.length_append]
      change _ + 2 ≤ _
      omega
    rw [tailTokens, conditionTokens, List.append_assoc, readWhere, strip_text]
    simp only [Option.bind_eq_bind]
    rw [reads _ enough]
    rfl

variable {d : Dialect} {closeness : ArithmeticOp → Nat}

theorem read_delete (table : TableRef)
    (wellFormed : ∀ p ∈ condition, p.simplified.WellFormed) (limit : Option RowLimit) :
    ofTokens? closeness (delete table condition limit).tokens =
      (delete table condition limit).stated? d := by
  have spelled : (delete table condition limit).tokens =
      text "DELETE " ++ (text (RowLimit.afterVerb limit) ++ (text "FROM " ++
        (Token.table table ++ tailTokens condition limit))) := by
    simp [tokens, headTokens, Command.condition, Command.limit, text_append, tailTokens]
  have notSelect : ∀ more, readSelect (text "DELETE " ++ more) = none := fun _ => rfl
  have reads : readDelete (delete table condition limit).tokens =
      (delete table condition limit).stated? d := by
    rw [spelled, readDelete, strip_text]
    simp only [Option.bind_eq_bind, Option.bind_some]
    rw [RowLimit.readTop_afterVerb limit rfl]
    simp only [Option.bind_some, strip_text, readTable_table table blank_tailTokens,
      readWhere_tailTokens wellFormed, RowLimit.readLimit_atEnd]
    rfl
  rw [ofTokens?, reads, spelled, notSelect]
  rfl

theorem readAssignments_tailTokens (condition : Option Condition) (limit : Option RowLimit) :
    WrittenValue.readAssignments closeness (tailTokens condition limit).length
      (tailTokens condition limit) = none := by
  rcases tailTokens_cases condition limit with same | ⟨more, same⟩ | ⟨more, same⟩ <;> rw [same] <;>
    rfl

theorem read_update (table : TableRef) {set : AssignmentSet} (dialect : set.dialect = d)
    (wellFormed : ∀ p ∈ condition, p.simplified.WellFormed) (limit : Option RowLimit) :
    ofTokens? closeness (update table set condition limit).tokens =
      (update table set condition limit).stated? d := by
  obtain ⟨own, assignments⟩ := set
  obtain rfl : own = d := dialect
  have spelled : (update table ⟨own, assignments⟩ condition limit).tokens =
      text "UPDATE " ++ (text (RowLimit.afterVerb limit) ++ (Token.table table ++
        (text " SET " ++ (AssignmentSet.setTokens ⟨own, assignments⟩ ++
          tailTokens condition limit)))) := by
    simp [tokens, headTokens, Command.condition, Command.limit, text_append, tailTokens]
  have notSelect : ∀ more, readSelect (text "UPDATE " ++ more) = none := fun _ => rfl
  have notDelete : ∀ more, readDelete (text "UPDATE " ++ more) = none := fun _ => rfl
  have notTop : ∀ more, strip "TOP (" (Token.table table ++ more) = none := by
    intro more
    unfold Token.table
    split <;> rfl
  have reads : readUpdate closeness (update table ⟨own, assignments⟩ condition limit).tokens =
      (update table ⟨own, assignments⟩ condition limit).stated? own := by
    rw [spelled, readUpdate, strip_text]
    simp only [Option.bind_eq_bind, Option.bind_some]
    rw [RowLimit.readTop_afterVerb limit (notTop _)]
    have blank : ∀ more, Blank (text " SET " ++ more) := fun _ => .inr ⟨_, rfl⟩
    simp only [Option.bind_some, readTable_table table (blank _), strip_text]
    cases assignments with
    | nil =>
      change (WrittenValue.readAssignments closeness (tailTokens condition limit).length
        (tailTokens condition limit)).bind _ = none
      rw [readAssignments_tailTokens]
      rfl
    | cons a assignments =>
      obtain ⟨ends, stops, last⟩ := apart_tailTokens
      rw [AssignmentSet.readAssignments_setTokens (List.cons_ne_nil a assignments) ends stops last]
      simp only [Option.bind_some, readWhere_tailTokens wellFormed, RowLimit.readLimit_atEnd]
      rfl
  rw [ofTokens?, reads, spelled, notSelect, notDelete]
  rfl

theorem read_selectKeys (columns : List String) (table : TableRef)
    (wellFormed : ∀ p ∈ condition, p.simplified.WellFormed) (limit : Option RowLimit) :
    ofTokens? closeness (selectKeys columns table condition limit).tokens =
      (selectKeys columns table condition limit).stated? d := by
  have spelled : (selectKeys columns table condition limit).tokens =
      text "SELECT " ++ (text (RowLimit.afterVerb limit) ++ (Token.names columns ++
        (text " FROM " ++ (Token.table table ++ tailTokens condition limit)))) := by
    simp [tokens, headTokens, Command.condition, Command.limit, text_append, tailTokens]
  have notDelete : ∀ more, readDelete (text "SELECT " ++ more) = none := fun _ => rfl
  have notUpdate : ∀ more, readUpdate closeness (text "SELECT " ++ more) = none := fun _ => rfl
  have notTop : ∀ more, strip "TOP (" (Token.names columns ++ (text " FROM " ++ more)) = none := by
    intro more
    rcases columns with _ | ⟨column, _ | ⟨next, columns⟩⟩ <;> rfl
  have reads : readSelect (selectKeys columns table condition limit).tokens =
      (selectKeys columns table condition limit).stated? d := by
    rw [spelled, readSelect, strip_text]
    simp only [Option.bind_eq_bind, Option.bind_some]
    rw [RowLimit.readTop_afterVerb limit (notTop _)]
    cases columns with
    | nil => rfl
    | cons column columns =>
      have blank : ∀ more, Blank (text " FROM " ++ more) := fun _ => .inr ⟨_, rfl⟩
      simp only [Option.bind_some, readNames_names (List.cons_ne_nil column columns) (blank _),
        strip_text, readTable_table table blank_tailTokens, readWhere_tailTokens wellFormed,
        RowLimit.readLimit_atEnd]
      rfl
  rw [ofTokens?, reads, spelled, notDelete, notUpdate]
  cases stated? d _ <;> rfl

/-- The text of a command is read as what the command is, where it selects or mutates rows. -/
theorem read_tokens {c : Command} (composed : c.Composed d) :
    ofTokens? closeness c.tokens = c.stated? d := by
  cases c with
  | delete table condition limit => exact read_delete table composed.condition limit
  | update table set condition limit =>
    exact read_update table (composed.dialect set rfl) composed.condition limit
  | insert target set source condition limit =>
    simp only [tokens, headTokens, List.append_assoc]
    rfl
  | selectKeys columns table condition limit =>
    exact read_selectKeys columns table composed.condition limit
  | raw statement => cases composed.notRaw

end Command

namespace Dialect

def readCommand? (d : Dialect) (closeness : ArithmeticOp → Nat) (s : Statement) :
    Option WrittenCommand :=
  (d.readStatement s).bind (WrittenCommand.ofTokens? closeness)

end Dialect

/-- A statement says what its command is, in the text and the parameters that are sent. -/
theorem Request.readCommand?_statement {b : Backend} {c : Command}
    (composed : c.Composed b.dialect) (closeness : ArithmeticOp → Nat) :
    b.dialect.readCommand? closeness (statement ⟨b.dialect, c⟩) = c.stated? b.dialect := by
  have reads := Dialect.readStatement_render (Dialect.clear b).markers
    (Command.stream_toFragment (Dialect.spelled b) composed)
    (Command.part_tokens composed).legible
  rw [Dialect.readCommand?, Request.statement_eq_render composed.notRaw, reads, Option.bind_some]
  exact Command.read_tokens composed

end BulkDml
