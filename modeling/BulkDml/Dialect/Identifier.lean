import BulkDml.Dialect.Basic

namespace BulkDml.Dialect

def readQuoted (close : Char) : List Char → Option (List Char × List Char)
  | [] => none
  | c :: rest =>
    if c = close then
      match rest with
      | [] => some ([], [])
      | next :: more =>
        if next = close then (readQuoted close more).map fun (name, rest) => (close :: name, rest)
        else some ([], next :: more)
    else (readQuoted close rest).map fun (name, rest) => (c :: name, rest)

def readIdentifier (d : Dialect) : List Char → Option (String × List Char)
  | [] => none
  | c :: rest =>
    if c = d.openQuote then
      (readQuoted d.closeQuote rest).map fun (name, rest) => (String.ofList name, rest)
    else none

theorem readQuoted_cons_of_ne {close c : Char} (apart : c ≠ close) (rest : List Char) :
    readQuoted close (c :: rest) =
      (readQuoted close rest).map fun (name, rest) => (c :: name, rest) := by
  rw [readQuoted.eq_def]
  simp [apart]

theorem readQuoted_quoteChar (d : Dialect) (name : List Char) {rest : List Char}
    (ends : rest.head? ≠ some d.closeQuote) :
    readQuoted d.closeQuote (name.flatMap d.quoteChar ++ d.closeQuote :: rest) =
      some (name, rest) := by
  induction name with
  | nil =>
    cases rest with
    | nil => simp [readQuoted]
    | cons next more =>
      have apart : next ≠ d.closeQuote := by simpa using ends
      simp [readQuoted, apart]
  | cons c name ih =>
    by_cases same : c = d.closeQuote
    · simp [quoteChar, same, readQuoted, ih]
    · simp [quoteChar, same, readQuoted_cons_of_ne same, ih]

theorem readIdentifier_quote (d : Dialect) (name : String) {rest : List Char}
    (ends : rest.head? ≠ some d.closeQuote) :
    d.readIdentifier ((d.quote name).toList ++ rest) = some (name, rest) := by
  simp [quote, readIdentifier, readQuoted_quoteChar d name.toList ends]

end BulkDml.Dialect
