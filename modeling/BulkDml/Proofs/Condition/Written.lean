import BulkDml.Condition.Truth
import BulkDml.Proofs.Clause.Reading

namespace BulkDml

namespace Written

def joinAll (c : Connective) : List Written → Written
  | [] => .never
  | [w] => w
  | w :: rest => .joined w c (joinAll c rest)

variable {c : Connective}

theorem tokens_joinAll {parts : List Written} (some : parts ≠ []) :
    (joinAll c parts).tokens = List.intercalate (text c.text) (parts.map tokens) := by
  induction parts with
  | nil => exact absurd rfl some
  | cons w rest ih =>
    cases rest with
    | nil => simp [joinAll]
    | cons next rest =>
      have later := ih (by simp)
      simp only [joinAll, tokens, List.map_cons, List.intercalate_cons_cons] at later ⊢
      rw [later]

theorem fits_joinAll {parts : List Written} (apart : ∀ w ∈ parts, w.level = none ∧ w.Fits) :
    (joinAll c parts).Fits ∧ rank (joinAll c parts).level ≤ c.rank := by
  induction parts with
  | nil => exact ⟨trivial, Nat.zero_le _⟩
  | cons w rest ih =>
    obtain ⟨⟨own, fits⟩, later⟩ := List.forall_mem_cons.mp apart
    cases rest with
    | nil =>
      rw [joinAll, own]
      exact ⟨fits, Nat.zero_le _⟩
    | cons next rest =>
      obtain ⟨inside, loose⟩ := ih later
      have tight : rank w.level < c.rank := by
        rw [own]
        cases c <;> decide
      exact ⟨⟨tight, loose, fits, inside⟩, Nat.le_refl _⟩

theorem mapValues_joinAll (bind : Value → Value) (parts : List Written) :
    (joinAll c parts).mapValues bind = joinAll c (parts.map (mapValues bind)) := by
  induction parts with
  | nil => rfl
  | cons w rest ih =>
    cases rest with
    | nil => rfl
    | cons next rest =>
      simp only [joinAll, mapValues, List.map_cons] at ih ⊢
      rw [ih]

theorem or_false (t : Truth) : t.or .false = t := by
  cases t <;> rfl

theorem and_true (t : Truth) : t.and .true = t := by
  cases t <;> rfl

theorem truth_joinAll_or (order : Collation) (row : String → Value) (parts : List Written) :
    (joinAll .or parts).truth order row =
      (parts.map (truth order row)).foldr Truth.or .false := by
  induction parts with
  | nil => rfl
  | cons w rest ih =>
    cases rest with
    | nil => exact (or_false _).symm
    | cons next rest =>
      change (w.truth order row).or ((joinAll .or (next :: rest)).truth order row) = _
      rw [ih]
      rfl

theorem truth_joinAll_and (order : Collation) (row : String → Value) {parts : List Written}
    (some : parts ≠ []) :
    (joinAll .and parts).truth order row = (parts.map (truth order row)).foldr Truth.and .true := by
  induction parts with
  | nil => exact absurd rfl some
  | cons w rest ih =>
    cases rest with
    | nil => exact (and_true _).symm
    | cons next rest =>
      change (w.truth order row).and ((joinAll .and (next :: rest)).truth order row) = _
      rw [ih (by simp)]
      rfl

theorem stream_joinAll {d : Dialect} {fragments : List Fragment} {parts : List Written}
    (same : fragments.map Fragment.stream = parts.map fun w => w.tokens.flatMap (Token.symbols d))
    (some : parts ≠ []) :
    (Fragment.join c.text fragments).stream =
      (joinAll c parts).tokens.flatMap (Token.symbols d) := by
  rw [Fragment.stream_join, same, tokens_joinAll some, flatMap_intercalate,
    Clause.symbols_text, List.map_map]
  rfl

end Written

namespace Condition

/-- What bulk operations send: a clause without empty lists, or keys that are as wide as the columns
they are for. -/
def WellFormed : Condition → Prop
  | clause c => c.Listed
  | keys columns tuples =>
    columns ≠ [] ∧ tuples ≠ [] ∧ ∀ tuple ∈ tuples, tuple.length = columns.length
  | raw _ => False

def tupleWritten (columns : List String) (tuple : List Value) : Written :=
  .grouped (Written.joinAll .and (columns.zipWith (Written.compare · .eq ·) tuple))

def keysWritten : List String → List (List Value) → Written
  | [column], tuples => .among column tuples.flatten
  | columns, tuples => .grouped (Written.joinAll .or (tuples.map (tupleWritten columns)))

def written : Condition → Written
  | clause c => c.written
  | keys columns tuples => keysWritten columns tuples
  | raw _ => .never

theorem single_or_wide (columns : List String) :
    (∃ column, columns = [column]) ∨ ∀ column, columns ≠ [column] := by
  rw [← not_exists]
  exact Classical.em _

theorem keysWritten_wide {columns : List String} (wide : ∀ column, columns ≠ [column])
    (tuples : List (List Value)) :
    keysWritten columns tuples =
      .grouped (Written.joinAll .or (tuples.map (tupleWritten columns))) := by
  unfold keysWritten
  split
  · exact absurd rfl (wide _)
  · rfl

theorem keysFragment_wide (d : Dialect) {columns : List String}
    (wide : ∀ column, columns ≠ [column]) {tuples : List (List Value)} (some : tuples ≠ []) :
    keysFragment d columns tuples =
      (Fragment.join " OR " (tuples.map (keyTuple d columns))).parenthesized := by
  unfold keysFragment
  split
  · exact absurd rfl some
  · exact absurd rfl (wide _)
  · rfl

theorem params_keyTuple (d : Dialect) {columns : List String} {tuple : List Value}
    (width : tuple.length = columns.length) : (keyTuple d columns tuple).params = tuple := by
  rw [keyTuple, Fragment.params_parenthesized, Fragment.params_join]
  induction columns generalizing tuple with
  | nil =>
    obtain rfl := List.eq_nil_of_length_eq_zero width
    rfl
  | cons column columns ih =>
    cases tuple with
    | nil => cases width
    | cons v tuple =>
      rw [List.zipWith_cons_cons, List.flatMap_cons, ih (Nat.succ.inj width)]
      simp [keyPart]

/-- A condition on keys binds their values, one key after the other. -/
theorem params_keysFragment (d : Dialect) {columns : List String} {tuples : List (List Value)}
    (widths : ∀ tuple ∈ tuples, tuple.length = columns.length) :
    (keysFragment d columns tuples).params = tuples.flatten := by
  cases tuples with
  | nil => exact Fragment.params_sql _
  | cons tuple rest =>
    rcases single_or_wide columns with ⟨column, rfl⟩ | wide
    · change (Clause.inList _ (tuple :: rest).flatten).params = _
      generalize (tuple :: rest).flatten = values
      simp [Clause.inList, Fragment.params_join, List.flatMap_map]
    · rw [keysFragment_wide d wide (List.cons_ne_nil _ _), Fragment.params_parenthesized,
        Fragment.params_join, List.flatMap_map, ← List.flatMap_id]
      exact List.flatMap_congr fun tuple member => params_keyTuple d (widths tuple member)

theorem WellFormed.mapValues {c : Condition} (wellFormed : c.WellFormed) (bind : Value → Value) :
    (c.mapValues bind).WellFormed := by
  cases c with
  | clause c => exact Clause.Listed.mapValues wellFormed bind
  | keys columns tuples =>
    obtain ⟨columnsSome, tuplesSome, widths⟩ := wellFormed
    refine ⟨columnsSome, by simpa using tuplesSome, ?_⟩
    intro tuple member
    obtain ⟨original, listed, rfl⟩ := List.mem_map.mp member
    rw [List.length_map]
    exact widths original listed
  | raw f => exact wellFormed

theorem mapValues_tupleWritten (bind : Value → Value) (columns : List String)
    (tuple : List Value) :
    tupleWritten columns (tuple.map bind) = (tupleWritten columns tuple).mapValues bind := by
  rw [tupleWritten, tupleWritten, Written.mapValues, Written.mapValues_joinAll,
    List.zipWith_map_right, List.map_zipWith]
  rfl

theorem mapValues_keysWritten (bind : Value → Value) (columns : List String)
    (tuples : List (List Value)) :
    keysWritten columns (tuples.map (·.map bind)) =
      (keysWritten columns tuples).mapValues bind := by
  rcases single_or_wide columns with ⟨column, rfl⟩ | wide
  · simp [keysWritten, Written.mapValues, List.map_flatten]
  · rw [keysWritten_wide wide, keysWritten_wide wide, Written.mapValues, Written.mapValues_joinAll,
      List.map_map, List.map_map]
    congr 3
    funext tuple
    exact mapValues_tupleWritten bind columns tuple

theorem mapValues_written (bind : Value → Value) (c : Condition) :
    (c.mapValues bind).written = c.written.mapValues bind := by
  cases c with
  | clause c => exact c.mapValues_written bind
  | keys columns tuples => exact mapValues_keysWritten bind columns tuples
  | raw f => rfl

theorem zipWith_ne_nil {columns : List String} {tuple : List Value} (some : columns ≠ [])
    (width : tuple.length = columns.length) (part : String → Value → Written) :
    columns.zipWith part tuple ≠ [] := by
  intro none
  rcases List.zipWith_eq_nil_iff.mp none with absent | absent
  · exact some absent
  · rw [absent] at width
    exact some (List.length_eq_zero_iff.mp width.symm)

theorem truth_tupleWritten (order : Collation) (row : String → Value) {columns : List String}
    {tuple : List Value} (some : columns ≠ []) (width : tuple.length = columns.length) :
    (tupleWritten columns tuple).truth order row = tupleTruth order row columns tuple := by
  rw [tupleWritten, Written.truth,
    Written.truth_joinAll_and order row (zipWith_ne_nil some width _)]
  clear some
  induction columns generalizing tuple with
  | nil => rfl
  | cons column columns ih =>
    cases tuple with
    | nil => cases width
    | cons v tuple =>
      have later := ih (Nat.succ.inj width)
      simp only [List.zipWith_cons_cons, List.map_cons, List.foldr_cons, tupleTruth]
      rw [later]
      rfl

theorem truth_keysWritten (order : Collation) (row : String → Value) {columns : List String}
    {tuples : List (List Value)} (some : columns ≠ [])
    (widths : ∀ tuple ∈ tuples, tuple.length = columns.length) :
    (keysWritten columns tuples).truth order row = keysTruth order row columns tuples := by
  rcases single_or_wide columns with ⟨column, rfl⟩ | wide
  · -- A key of one column is listed, and a list is a disjunction of comparisons.
    unfold keysWritten Written.truth keysTruth
    induction tuples with
    | nil => rfl
    | cons tuple tuples ih =>
      obtain ⟨width, later⟩ := List.forall_mem_cons.mp widths
      obtain ⟨v, rfl⟩ := List.length_eq_one_iff.mp width
      rw [List.flatten_cons, List.map_append, List.foldr_append, ih later]
      simp [tupleTruth, Written.and_true]
  · rw [keysWritten_wide wide, Written.truth, Written.truth_joinAll_or, List.map_map, keysTruth]
    congr 1
    apply List.map_congr_left
    intro tuple member
    exact truth_tupleWritten order row some (widths tuple member)

theorem truth_written (order : Collation) (row : String → Value) {c : Condition}
    (wellFormed : c.WellFormed) : c.written.truth order row = c.truth order row := by
  cases c with
  | clause c => exact c.truth_written order row
  | keys columns tuples => exact truth_keysWritten order row wellFormed.1 wellFormed.2.2
  | raw f => exact absurd wellFormed id

theorem compareTruth_eq_true_iff {order : Collation} {column : String} {v w : Value} :
    Clause.compareTruth order [column] .eq v w = .true ↔
      v.isNull = false ∧ w.isNull = false ∧ order [column] v w = .eq := by
  unfold Clause.compareTruth
  split
  · next null =>
    rw [Bool.or_eq_true] at null
    rcases null with null | null <;> simp [null]
  · next present =>
    rw [Bool.or_eq_true, not_or, Bool.not_eq_true, Bool.not_eq_true] at present
    cases order [column] v w <;> simp [present, Truth.ofBool, CompareOp.admits]

theorem and_eq_true_iff {t u : Truth} : t.and u = .true ↔ t = .true ∧ u = .true := by
  cases t <;> cases u <;> decide

theorem tupleTruth_eq_true_iff {order : Collation} {row key : String → Value}
    {columns : List String} :
    tupleTruth order row columns (columns.map key) = .true ↔
      ∀ column ∈ columns, Clause.compareTruth order [column] .eq (row column) (key column) =
        .true := by
  induction columns with
  | nil => simp [tupleTruth]
  | cons column columns ih =>
    rw [List.map_cons, tupleTruth, and_eq_true_iff, ih, List.forall_mem_cons]

theorem keysTruth_eq_true_iff {order : Collation} {row : String → Value} {columns : List String}
    {tuples : List (List Value)} :
    keysTruth order row columns tuples = .true ↔
      ∃ tuple ∈ tuples, tupleTruth order row columns tuple = .true := by
  have listed : .true ∈ tuples.map (tupleTruth order row columns) ↔
      ∃ tuple ∈ tuples, tupleTruth order row columns tuple = .true := List.mem_map
  rw [keysTruth, Filter.foldr_or_eq, ← listed]
  split
  · next holds => exact ⟨fun _ => holds, fun _ => rfl⟩
  · next fails => split <;> simp [fails]

theorem stream_keyTuple (d : Dialect) {columns : List String} {tuple : List Value}
    (some : columns ≠ []) (width : tuple.length = columns.length) :
    (keyTuple d columns tuple).stream =
      (tupleWritten columns tuple).tokens.flatMap (Token.symbols d) := by
  have parts : (columns.zipWith (keyPart d) tuple).map Fragment.stream =
      (columns.zipWith (Written.compare · .eq ·) tuple).map
        fun w => w.tokens.flatMap (Token.symbols d) := by
    rw [List.map_zipWith, List.map_zipWith]
    congr 1
    funext column v
    simp [keyPart, Written.tokens, Clause.symbols_text, Token.symbols, CompareOp.sql]
  have chain := Written.stream_joinAll (c := .and) parts (zipWith_ne_nil some width _)
  rw [keyTuple, Fragment.stream_parenthesized]
  change .inl '(' :: ((Fragment.join Connective.and.text _).stream ++ _) = _
  rw [chain]
  simp [tupleWritten, Written.tokens, Clause.symbols_text]

theorem stream_keysFragment (d : Dialect) {columns : List String} {tuples : List (List Value)}
    (columnsSome : columns ≠ []) (tuplesSome : tuples ≠ [])
    (widths : ∀ tuple ∈ tuples, tuple.length = columns.length) :
    (keysFragment d columns tuples).stream =
      (keysWritten columns tuples).tokens.flatMap (Token.symbols d) := by
  rcases single_or_wide columns with ⟨column, rfl⟩ | wide
  · obtain ⟨tuple, rest, rfl⟩ := List.exists_cons_of_ne_nil tuplesSome
    exact Clause.stream_inList d column (tuple :: rest).flatten
  · have parts : (tuples.map (keyTuple d columns)).map Fragment.stream =
        (tuples.map (tupleWritten columns)).map fun w => w.tokens.flatMap (Token.symbols d) := by
      rw [List.map_map, List.map_map]
      apply List.map_congr_left
      intro tuple member
      exact stream_keyTuple d columnsSome (widths tuple member)
    have chain := Written.stream_joinAll (c := .or) parts (by simpa using tuplesSome)
    rw [keysFragment_wide d wide tuplesSome, keysWritten_wide wide, Fragment.stream_parenthesized]
    change .inl '(' :: ((Fragment.join Connective.or.text _).stream ++ _) = _
    rw [chain]
    simp [Written.tokens, Clause.symbols_text]

theorem stream_toFragment (d : Dialect) {c : Condition} (wellFormed : c.WellFormed) :
    (c.toFragment d).stream = c.written.tokens.flatMap (Token.symbols d) := by
  cases c with
  | clause c => exact c.stream_toFragment d
  | keys columns tuples => exact stream_keysFragment d wellFormed.1 wellFormed.2.1 wellFormed.2.2
  | raw f => exact absurd wellFormed id

theorem fits_tupleWritten (columns : List String) (tuple : List Value) :
    (tupleWritten columns tuple).Fits := by
  have parts : ∀ w ∈ columns.zipWith (Written.compare · .eq ·) tuple,
      w.level = none ∧ w.Fits := by
    intro w member
    obtain ⟨i, inside, rfl⟩ := List.mem_iff_getElem.mp member
    rw [List.getElem_zipWith]
    exact ⟨rfl, trivial⟩
  exact (Written.fits_joinAll parts).1

theorem fits_keysWritten {columns : List String} {tuples : List (List Value)}
    (columnsSome : columns ≠ []) (tuplesSome : tuples ≠ [])
    (widths : ∀ tuple ∈ tuples, tuple.length = columns.length) :
    (keysWritten columns tuples).Fits := by
  rcases single_or_wide columns with ⟨column, rfl⟩ | wide
  · obtain ⟨tuple, rest, rfl⟩ := List.exists_cons_of_ne_nil tuplesSome
    obtain ⟨v, rfl⟩ := List.length_eq_one_iff.mp (widths tuple List.mem_cons_self)
    exact List.cons_ne_nil v rest.flatten
  · rw [keysWritten_wide wide]
    refine (Written.fits_joinAll (c := .or) ?_).1
    intro w member
    obtain ⟨tuple, _, rfl⟩ := List.mem_map.mp member
    exact ⟨rfl, fits_tupleWritten columns tuple⟩

theorem fits_written {c : Condition} (wellFormed : c.WellFormed) : c.written.Fits := by
  cases c with
  | clause c => exact Clause.fits_written wellFormed
  | keys columns tuples => exact fits_keysWritten wellFormed.1 wellFormed.2.1 wellFormed.2.2
  | raw f => exact absurd wellFormed id

theorem readCondition?_toFragment {d : Dialect} (clear : d.Clear) {c : Condition}
    (wellFormed : c.WellFormed) : d.readCondition? (d.render (c.toFragment d)) = some c.written :=
  Dialect.readCondition?_render clear (fits_written wellFormed) (stream_toFragment d wellFormed)

end Condition

end BulkDml
