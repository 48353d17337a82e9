import BulkDml.Dialect.Identifier

namespace BulkDml.Dialect

/-- What is read up to a closing quote was written before one that is not doubled. -/
theorem eq_of_readQuoted (d : Dialect) {text name rest : List Char}
    (read : readQuoted d.closeQuote text = some (name, rest)) :
    text = name.flatMap d.quoteChar ++ d.closeQuote :: rest ∧ rest.head? ≠ some d.closeQuote := by
  fun_induction readQuoted d.closeQuote text generalizing name rest with
  | case1 => cases read
  | case2 =>
    cases read
    simp
  | case3 more ih =>
    obtain ⟨⟨name, rest⟩, found, done⟩ := Option.map_eq_some_iff.mp read
    cases done
    obtain ⟨written, ends⟩ := ih found
    exact ⟨by simp [quoteChar, written], ends⟩
  | case4 next more single =>
    cases read
    exact ⟨by simp, by simpa using single⟩
  | case5 c rest' other ih =>
    obtain ⟨⟨name, rest⟩, found, done⟩ := Option.map_eq_some_iff.mp read
    cases done
    obtain ⟨written, ends⟩ := ih found
    exact ⟨by simp [quoteChar, other, written], ends⟩

theorem eq_of_readIdentifier (d : Dialect) {text rest : List Char} {name : String}
    (read : d.readIdentifier text = some (name, rest)) :
    text = (d.quote name).toList ++ rest ∧ rest.head? ≠ some d.closeQuote := by
  cases text with
  | nil => cases read
  | cons c text =>
    rw [readIdentifier] at read
    split at read
    · next opens =>
      obtain ⟨⟨chars, rest⟩, found, done⟩ := Option.map_eq_some_iff.mp read
      cases done
      obtain ⟨written, ends⟩ := d.eq_of_readQuoted found
      exact ⟨by simp [quote, opens, written], ends⟩
    · cases read

/-- Reading accepts a quoted identifier where no closing quote prolongs it, and nothing else. -/
theorem readIdentifier_eq_some_iff (d : Dialect) {text rest : List Char} {name : String} :
    d.readIdentifier text = some (name, rest) ↔
      text = (d.quote name).toList ++ rest ∧ rest.head? ≠ some d.closeQuote := by
  constructor
  · exact d.eq_of_readIdentifier
  · rintro ⟨rfl, ends⟩
    exact d.readIdentifier_quote name ends

theorem quote_injective (d : Dialect) : Function.Injective d.quote := by
  intro s t same
  have ends : ([] : List Char).head? ≠ some d.closeQuote := nofun
  have first := d.readIdentifier_quote s ends
  rw [same, d.readIdentifier_quote t ends] at first
  exact (congrArg Prod.fst (Option.some.inj first)).symm

def readTable (d : Dialect) (text : List Char) : Option TableRef := do
  match ← d.readIdentifier text with
  | (name, []) => return ⟨none, name⟩
  | (schema, '.' :: rest) => do
    let (name, rest) ← d.readIdentifier rest
    if rest.isEmpty then return ⟨some schema, name⟩ else none
  | _ => none

theorem readTable_quoteTable {d : Dialect} (apart : d.closeQuote ≠ '.') (t : TableRef) :
    d.readTable (d.quoteTable t).toList = some t := by
  have ends : ([] : List Char).head? ≠ some d.closeQuote := nofun
  have whole (name : String) : d.readIdentifier (d.quote name).toList = some (name, []) := by
    simpa using d.readIdentifier_quote name ends
  obtain ⟨schema, name⟩ := t
  cases schema with
  | none =>
    change d.readTable (d.quote name).toList = _
    rw [readTable, whole]
    rfl
  | some schema =>
    have dot : ('.' :: (d.quote name).toList).head? ≠ some d.closeQuote := by
      simpa using apart.symm
    have spelled : (d.quoteTable ⟨some schema, name⟩).toList =
        (d.quote schema).toList ++ '.' :: (d.quote name).toList := by
      simp [quoteTable]
    rw [readTable, spelled, d.readIdentifier_quote schema dot]
    simp [whole]

/-- Nothing that is quoted can end the quotes or be taken for something else: identifiers are read
back from before any text, and so are tables with their schemas. -/
theorem quote_inescapable (b : Backend) :
    (∀ (text rest : List Char) (name : String),
      b.dialect.readIdentifier text = some (name, rest) ↔
        text = (b.dialect.quote name).toList ++ rest ∧
          rest.head? ≠ some b.dialect.closeQuote) ∧
    Function.Injective b.dialect.quote ∧
    (∀ t : TableRef, b.dialect.readTable (b.dialect.quoteTable t).toList = some t) ∧
    Function.Injective b.dialect.quoteTable := by
  have apart : b.dialect.closeQuote ≠ '.' := by cases b <;> decide
  refine ⟨fun _ _ _ => b.dialect.readIdentifier_eq_some_iff, b.dialect.quote_injective,
    readTable_quoteTable apart, fun t u same => ?_⟩
  have read := readTable_quoteTable apart t
  rw [same, readTable_quoteTable apart u] at read
  exact (Option.some.inj read).symm

/-- Of three closing quotes the first two are one character, and the last one ends the name. -/
example : readQuoted ']' ['a', ']', ']', ']', '.'] = some (['a', ']'], ['.']) := by
  decide

end BulkDml.Dialect
