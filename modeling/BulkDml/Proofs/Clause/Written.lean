import BulkDml.Clause.Truth
import BulkDml.Proofs.Clause.Token

namespace BulkDml

inductive Connective where
  | and
  | or
deriving DecidableEq

namespace Connective

def text : Connective → String
  | and => " AND "
  | or => " OR "

def combine : Connective → Truth → Truth → Truth
  | and => Truth.and
  | or => Truth.or

def tighter : Connective → Option Connective
  | and => none
  | or => some and

def rank : Connective → Nat
  | and => 1
  | or => 2

end Connective

inductive Written where
  | compare (column : String) (op : CompareOp) (value : Value)
  | compareColumns (left : String) (op : CompareOp) (right : String)
  | isNull (column : String)
  | isNotNull (column : String)
  | among (column : String) (values : List Value)
  | never
  | negated (inner : Written)
  | grouped (inner : Written)
  | joined (left : Written) (c : Connective) (right : Written)
deriving DecidableEq

namespace Written

def truth (order : Collation) (row : String → Value) : Written → Truth
  | compare column op value => Clause.compareTruth order [column] op (row column) value
  | compareColumns left op right =>
    Clause.compareTruth order [left, right] op (row left) (row right)
  | isNull column => .ofBool (row column).isNull
  | isNotNull column => .ofBool (!(row column).isNull)
  | among column values =>
    (values.map (Clause.compareTruth order [column] .eq (row column))).foldr Truth.or .false
  | never => .false
  | negated inner => (inner.truth order row).not
  | grouped inner => inner.truth order row
  | joined left c right => c.combine (left.truth order row) (right.truth order row)

def mapValues (f : Value → Value) : Written → Written
  | compare column op value => compare column op (f value)
  | among column values => among column (values.map f)
  | negated inner => negated (inner.mapValues f)
  | grouped inner => grouped (inner.mapValues f)
  | joined left c right => joined (left.mapValues f) c (right.mapValues f)
  | w => w

def text (s : String) : List Token := s.toList.map .mark

def tokens : Written → List Token
  | compare column op value => .name column :: text (" " ++ op.sql ++ " ") ++ [.value value]
  | compareColumns left op right => .name left :: text (" " ++ op.sql ++ " ") ++ [.name right]
  | isNull column => .name column :: text " IS NULL"
  | isNotNull column => .name column :: text " IS NOT NULL"
  | among column values =>
    .name column :: text " IN (" ++ List.intercalate (text ", ") (values.map fun v => [.value v]) ++
      text ")"
  | never => text "1 = 0"
  | negated inner => text "NOT " ++ inner.tokens
  | grouped inner => text "(" ++ inner.tokens ++ text ")"
  | joined left c right => left.tokens ++ text c.text ++ right.tokens

def strip (s : String) (tokens : List Token) : Option (List Token) := (text s).isPrefixOf? tokens

def readValues : List Token → Option (List Value × List Token)
  | .value v :: .mark ',' :: .mark ' ' :: rest => do
    let (values, rest) ← readValues rest
    return (v :: values, rest)
  | .value v :: .mark ')' :: rest => some ([v], rest)
  | _ => none

def readOp (tokens : List Token) : Option (CompareOp × List Token) :=
  CompareOp.all.findSome? fun op => (strip (" " ++ op.sql ++ " ") tokens).map (op, ·)

def readComparison (column : String) (tokens : List Token) : Option (Written × List Token) := do
  let (op, rest) ← readOp tokens
  match rest with
  | .value v :: rest => return (compare column op v, rest)
  | .name other :: rest => return (compareColumns column op other, rest)
  | _ => none

def readTest : List Token → Option (Written × List Token)
  | .name column :: rest =>
    match strip " IS NULL" rest, strip " IS NOT NULL" rest, strip " IN (" rest with
    | some rest, _, _ => some (isNull column, rest)
    | _, some rest, _ => some (isNotNull column, rest)
    | _, _, some rest => do
      let (values, rest) ← readValues rest
      return (among column values, rest)
    | none, none, none => readComparison column rest
  | tokens => (strip "1 = 0" tokens).map (never, ·)

def read : Option Connective → Nat → List Token → Option (Written × List Token)
  | _, 0, _ => none
  | some c, fuel + 1, tokens => do
    let (left, rest) ← read c.tighter fuel tokens
    match strip c.text rest with
    | some rest => do
      let (right, rest) ← read (some c) fuel rest
      return (joined left c right, rest)
    | none => return (left, rest)
  | none, fuel + 1, tokens =>
    match strip "NOT " tokens, strip "(" tokens with
    | some rest, _ => do
      let (inner, rest) ← read none fuel rest
      return (negated inner, rest)
    | none, some rest => do
      let (inner, rest) ← read (some .or) fuel rest
      let rest ← strip ")" rest
      return (grouped inner, rest)
    | none, none => readTest tokens

def ofTokens? (tokens : List Token) : Option Written :=
  match read (some .or) (3 * tokens.length + 2) tokens with
  | some (w, []) => some w
  | _ => none

@[simp] theorem strip_text (s : String) (rest : List Token) :
    strip s (text s ++ rest) = some rest :=
  isPrefixOf?_append (text s) rest

theorem readValues_listed (v : Value) (values : List Value) (rest : List Token) :
    readValues (List.intercalate (text ", ") ((v :: values).map fun v => [.value v]) ++
      (text ")" ++ rest)) = some (v :: values, rest) := by
  induction values generalizing v with
  | nil => rfl
  | cons w values ih =>
    have later := ih w
    simp only [List.map_cons] at later ⊢
    change readValues (.value v :: .mark ',' :: .mark ' ' ::
      (List.intercalate (text ", ") _ ++ (text ")" ++ rest))) = _
    rw [readValues, later]
    rfl

theorem readOp_sql (op : CompareOp) (rest : List Token) :
    readOp (text (" " ++ op.sql ++ " ") ++ rest) = some (op, rest) := by
  cases op <;> rfl

theorem strip_null_of_op (op : CompareOp) (rest : List Token) :
    strip " IS NULL" (text (" " ++ op.sql ++ " ") ++ rest) = none ∧
      strip " IS NOT NULL" (text (" " ++ op.sql ++ " ") ++ rest) = none ∧
      strip " IN (" (text (" " ++ op.sql ++ " ") ++ rest) = none := by
  cases op <;> exact ⟨rfl, rfl, rfl⟩

theorem readTest_op (column : String) (op : CompareOp) (rest : List Token) :
    readTest (.name column :: (text (" " ++ op.sql ++ " ") ++ rest)) =
      readComparison column (text (" " ++ op.sql ++ " ") ++ rest) := by
  obtain ⟨isNull, isNotNull, among⟩ := strip_null_of_op op rest
  rw [readTest, isNull, isNotNull, among]

theorem readTest_compare (column : String) (op : CompareOp) (v : Value) (rest : List Token) :
    readTest ((compare column op v).tokens ++ rest) = some (compare column op v, rest) := by
  rw [tokens, List.append_assoc, List.cons_append, readTest_op, readComparison, readOp_sql]
  rfl

theorem readTest_compareColumns (left : String) (op : CompareOp) (right : String)
    (rest : List Token) :
    readTest ((compareColumns left op right).tokens ++ rest) =
      some (compareColumns left op right, rest) := by
  rw [tokens, List.append_assoc, List.cons_append, readTest_op, readComparison, readOp_sql]
  rfl

theorem readTest_among (column : String) (v : Value) (values : List Value) (rest : List Token) :
    readTest ((among column (v :: values)).tokens ++ rest) =
      some (among column (v :: values), rest) := by
  have notNull : ∀ more, strip " IS NULL" (text " IN (" ++ more) = none := fun _ => rfl
  have notNotNull : ∀ more, strip " IS NOT NULL" (text " IN (" ++ more) = none := fun _ => rfl
  simp only [tokens, List.append_assoc, List.cons_append]
  rw [readTest, notNull, notNotNull, strip_text]
  dsimp only
  rw [readValues_listed]
  rfl

def level : Written → Option Connective
  | joined _ c _ => some c
  | _ => none

def rank : Option Connective → Nat
  | none => 0
  | some c => c.rank

theorem rank_le_or (level : Option Connective) : rank level ≤ rank (some .or) := by
  rcases level with _ | _ | _ <;> decide

theorem rank_tighter (c : Connective) : rank c.tighter + 1 = c.rank := by
  cases c <;> rfl

/-- A condition that the grammar produces: nothing that binds more loosely stands within a chain
without parentheses, and no list is empty. -/
def Fits : Written → Prop
  | among _ values => values ≠ []
  | negated inner => rank inner.level = 0 ∧ inner.Fits
  | grouped inner => inner.Fits
  | joined left c right =>
    rank left.level < c.rank ∧ rank right.level ≤ c.rank ∧ left.Fits ∧ right.Fits
  | _ => True

def Stops (level : Option Connective) (rest : List Token) : Prop :=
  ∀ c : Connective, c.rank ≤ rank level → strip c.text rest = none

theorem Stops.mono {looser level : Option Connective} {rest : List Token}
    (stops : Stops looser rest) (le : rank level ≤ rank looser) : Stops level rest :=
  fun c lower => stops c (Nat.le_trans lower le)

theorem stops_none (rest : List Token) : Stops none rest := by
  intro c lower
  cases c <;> cases lower

theorem stops_nil (level : Option Connective) : Stops level [] := by
  intro c _
  cases c <;> rfl

theorem stops_close (level : Option Connective) (rest : List Token) :
    Stops level (text ")" ++ rest) := by
  intro c _
  cases c <;> rfl

theorem stops_connective (c : Connective) (rest : List Token) :
    Stops c.tighter (text c.text ++ rest) := by
  intro inner lower
  cases c with
  | and => exact stops_none _ inner lower
  | or =>
    cases inner with
    | and => rfl
    | or => exact absurd lower (by decide)

theorem read_looser {c : Connective} {fuel : Nat} {tokens rest : List Token} {w : Written}
    (reads : read c.tighter fuel tokens = some (w, rest)) (stops : strip c.text rest = none) :
    read (some c) (fuel + 1) tokens = some (w, rest) := by
  rw [read, reads]
  simp [stops]

theorem read_at {w : Written} {tokens rest : List Token} {need : Nat} {own : Option Connective}
    (reads : ∀ fuel, need + rank own ≤ fuel → read own fuel tokens = some (w, rest))
    {level : Option Connective} (le : rank own ≤ rank level) (stops : Stops level rest) :
    ∀ fuel, need + rank level ≤ fuel → read level fuel tokens = some (w, rest) := by
  -- From a chain that binds tighter to the next looser one, at most two times.
  have widen (c : Connective) (stop : strip c.text rest = none)
      (below : ∀ fuel, need + rank c.tighter ≤ fuel → read c.tighter fuel tokens = some (w, rest)) :
      ∀ fuel, need + c.rank ≤ fuel → read (some c) fuel tokens = some (w, rest) := by
    intro fuel enough
    rw [← rank_tighter c] at enough
    obtain ⟨less, rfl⟩ : ∃ less, fuel = less + 1 := ⟨fuel - 1, by omega⟩
    exact read_looser (below less (by omega)) stop
  cases level with
  | none =>
    cases own with
    | none => exact reads
    | some c => cases c <;> exact absurd le (by decide)
  | some c =>
    cases c with
    | and =>
      cases own with
      | none => exact widen .and (stops .and (Nat.le_refl _)) reads
      | some c =>
        cases c with
        | and => exact reads
        | or => exact absurd le (by decide)
    | or =>
      have stop := stops .or (Nat.le_refl _)
      have stopAnd := stops .and (by decide)
      cases own with
      | none => exact widen .or stop (widen .and stopAnd reads)
      | some c =>
        cases c with
        | and => exact widen .or stop reads
        | or => exact reads

theorem read_test {tokens rest : List Token} {w : Written} (own : w.level = none)
    (first : (∃ column more, tokens = .name column :: more) ∨ ∃ more, tokens = text "1 = 0" ++ more)
    (reads : readTest tokens = some (w, rest)) {fuel : Nat} (enough : 0 < fuel) :
    read w.level fuel tokens = some (w, rest) := by
  obtain ⟨less, rfl⟩ : ∃ less, fuel = less + 1 := ⟨fuel - 1, by omega⟩
  have notNegated : strip "NOT " tokens = none := by
    obtain ⟨_, _, rfl⟩ | ⟨_, rfl⟩ := first <;> rfl
  have notGrouped : strip "(" tokens = none := by
    obtain ⟨_, _, rfl⟩ | ⟨_, rfl⟩ := first <;> rfl
  rw [own, read, notNegated, notGrouped]
  exact reads

theorem read_negated {inner : Written} {fuel : Nat} {rest : List Token}
    (reads : read none fuel (inner.tokens ++ rest) = some (inner, rest)) :
    read none (fuel + 1) ((negated inner).tokens ++ rest) = some (negated inner, rest) := by
  rw [tokens, List.append_assoc, read, strip_text]
  dsimp only
  rw [reads]
  rfl

theorem read_grouped {inner : Written} {fuel : Nat} {rest : List Token}
    (reads : read (some .or) fuel (inner.tokens ++ (text ")" ++ rest)) =
      some (inner, text ")" ++ rest)) :
    read none (fuel + 1) ((grouped inner).tokens ++ rest) = some (grouped inner, rest) := by
  have notNegated : ∀ more, strip "NOT " (text "(" ++ more) = none := fun _ => rfl
  rw [tokens, List.append_assoc, List.append_assoc, read, notNegated, strip_text]
  dsimp only
  rw [reads]
  simp only [Option.bind_eq_bind, Option.bind_some, strip_text]
  rfl

theorem read_joined {left right : Written} {c : Connective} {fuel : Nat} {rest : List Token}
    (readsLeft : read c.tighter fuel (left.tokens ++ (text c.text ++ (right.tokens ++ rest))) =
      some (left, text c.text ++ (right.tokens ++ rest)))
    (readsRight : read (some c) fuel (right.tokens ++ rest) = some (right, rest)) :
    read (some c) (fuel + 1) ((joined left c right).tokens ++ rest) =
      some (joined left c right, rest) := by
  rw [tokens, List.append_assoc, List.append_assoc, read, readsLeft]
  simp only [Option.bind_eq_bind, Option.bind_some, strip_text]
  rw [readsRight]
  rfl

theorem length_connective_pos (c : Connective) : 0 < (text c.text).length := by
  cases c <;> decide

theorem length_tokens_pos (w : Written) : 0 < w.tokens.length := by
  cases w with
  | joined left c right =>
    have connective := length_connective_pos c
    simp only [tokens, List.length_append]
    omega
  | _ => simp [tokens, text]

theorem fuel_pos {w : Written} {fuel : Nat} (enough : 3 * w.tokens.length + rank w.level ≤ fuel) :
    0 < fuel := by
  have tokens := length_tokens_pos w
  omega

theorem read_tokens {w : Written} (fits : w.Fits) {rest : List Token} (stops : Stops w.level rest)
    {fuel : Nat} (enough : 3 * w.tokens.length + rank w.level ≤ fuel) :
    read w.level fuel (w.tokens ++ rest) = some (w, rest) := by
  -- A condition is read at its own level; `read_at` takes it to the level of where it stands.
  induction w generalizing rest fuel with
  | compare column op v =>
    exact read_test rfl (.inl ⟨_, _, rfl⟩) (readTest_compare column op v rest) (fuel_pos enough)
  | compareColumns left op right =>
    exact read_test rfl (.inl ⟨_, _, rfl⟩) (readTest_compareColumns left op right rest)
      (fuel_pos enough)
  | isNull column => exact read_test rfl (.inl ⟨_, _, rfl⟩) rfl (fuel_pos enough)
  | isNotNull column => exact read_test rfl (.inl ⟨_, _, rfl⟩) rfl (fuel_pos enough)
  | among column values =>
    obtain ⟨v, values, rfl⟩ := List.exists_cons_of_ne_nil fits
    exact read_test rfl (.inl ⟨_, _, rfl⟩) (readTest_among column v values rest) (fuel_pos enough)
  | never => exact read_test rfl (.inr ⟨rest, rfl⟩) rfl (fuel_pos enough)
  | negated inner ih =>
    obtain ⟨operand, inside⟩ := fits
    have own : inner.level = none := by
      cases level : inner.level with
      | none => rfl
      | some c => cases c <;> rw [level] at operand <;> cases operand
    have length : (text "NOT ").length = 4 := rfl
    obtain ⟨less, rfl⟩ := Nat.exists_eq_add_of_le' (fuel_pos enough)
    simp only [tokens, List.length_append, length] at enough
    have room : 3 * inner.tokens.length + rank inner.level ≤ less := by
      rw [own]
      simp only [rank]
      omega
    have reads := ih inside (own ▸ stops_none rest) room
    rw [own] at reads
    exact read_negated reads
  | grouped inner ih =>
    have length : (text "(").length = 1 ∧ (text ")").length = 1 := ⟨rfl, rfl⟩
    obtain ⟨less, rfl⟩ := Nat.exists_eq_add_of_le' (fuel_pos enough)
    simp only [tokens, List.length_append, length] at enough
    have closes := stops_close (some .or) rest
    have loosest := rank_le_or inner.level
    have room : 3 * inner.tokens.length + rank (some .or) ≤ less := by
      simp only [rank, Connective.rank]
      omega
    exact read_grouped
      (read_at (fun fuel enough => ih fits (closes.mono loosest) enough) loosest closes less room)
  | joined left c right ihLeft ihRight =>
    obtain ⟨tight, loose, insideLeft, insideRight⟩ := fits
    change Stops (some c) rest at stops
    have same : rank right.level ≤ rank (some c) := loose
    have connective := length_connective_pos c
    obtain ⟨less, rfl⟩ := Nat.exists_eq_add_of_le' (fuel_pos enough)
    simp only [tokens, List.length_append] at enough
    have narrow := rank_tighter c
    have total : 3 * left.tokens.length + rank c.tighter ≤ less ∧
        3 * right.tokens.length + rank (some c) ≤ less := by
      change _ + c.rank ≤ less + 1 at enough
      change _ ∧ _ + c.rank ≤ less
      omega
    have between := stops_connective c (right.tokens ++ rest)
    have readsLeft := read_at
      (fun fuel enough => ihLeft insideLeft (between.mono (by omega)) enough) (by omega)
      between less total.1
    have readsRight := read_at
      (fun fuel enough => ihRight insideRight (stops.mono same) enough) same stops less total.2
    exact read_joined readsLeft readsRight

theorem ofTokens?_tokens {w : Written} (fits : w.Fits) : ofTokens? w.tokens = some w := by
  have loosest := rank_le_or w.level
  have stops := stops_nil (some .or)
  have reads := read_at (fun fuel enough => read_tokens fits (stops.mono loosest) enough) loosest
    stops (3 * w.tokens.length + 2) (Nat.le_refl _)
  rw [List.append_nil] at reads
  rw [ofTokens?, reads]

end Written

end BulkDml
