import BulkDml.Proofs.Clause.Token

namespace BulkDml

namespace Dialect

def takeMarker (d : Dialect) (text : List Char) : Option (String × List Char) := do
  let rest ← d.sign.isPrefixOf? text
  match d.markers with
  | .numbered _ _ =>
    return (String.ofList (d.sign ++ rest.takeWhile Char.isDigit), rest.dropWhile Char.isDigit)
  | .anonymous _ => return (String.ofList d.sign, rest)

def scanMarkers (d : Dialect) : Nat → List Char → List String
  | _, [] => []
  | 0, _ :: _ => []
  | fuel + 1, c :: text =>
    if c = d.openQuote then
      match d.readIdentifier (c :: text) with
      | some (_, rest) => d.scanMarkers fuel rest
      | none => []
    else match d.takeMarker (c :: text) with
      | some (marker, rest) => marker :: d.scanMarkers fuel rest
      | none => d.scanMarkers fuel text

def markersIn (d : Dialect) (sql : String) : List String := d.scanMarkers sql.length sql.toList

def Numbers (d : Dialect) (s : Statement) : Prop :=
  d.markersIn s.sql = (List.range s.params.length).map d.marker

instance (d : Dialect) (s : Statement) : Decidable (d.Numbers s) :=
  inferInstanceAs (Decidable (_ = _))

theorem takeMarker_of_plain {d : Dialect} {c : Char} (plain : d.Plain c) (text : List Char) :
    d.takeMarker (c :: text) = none := by
  rw [takeMarker, isPrefixOf?_of_plain plain]
  rfl

theorem takeMarker_marker (d : Dialect) (next : Nat) {text : List Char}
    (ends : ∀ c, text.head? = some c → c.isDigit = false) :
    d.takeMarker ((d.marker next).toList ++ text) = some (d.marker next, text) := by
  cases style : d.markers with
  | numbered sign first =>
    obtain ⟨digits, rest⟩ := takeWhile_digits (first + next) ends
    have spelled : String.ofList (Nat.toDigits 10 (first + next)) = (first + next).repr :=
      Nat.repr_eq_ofList_toDigits.symm
    simp [takeMarker, Dialect.sign, style, marker, isPrefixOf?_append, digits, rest, spelled]
  | anonymous sign =>
    simp [takeMarker, Dialect.sign, style, marker, isPrefixOf?_append]

theorem scanMarkers_write {d : Dialect} (apart : d.MarkersApart) {tokens : List Token}
    (legible : d.Legible tokens) (next fuel : Nat) (enough : (d.write next tokens).length ≤ fuel) :
    d.scanMarkers fuel (d.write next tokens) =
      (List.range' next (Token.params tokens).length).map d.marker := by
  -- Each token that is passed is at least one character of the text, so that the fuel lasts.
  induction tokens generalizing next fuel with
  | nil => cases fuel <;> rfl
  | cons t rest ih =>
    cases t with
    | mark c =>
      obtain ⟨plain, legible⟩ := legible
      rw [write_mark] at enough ⊢
      obtain ⟨fuel, rfl⟩ := Nat.exists_eq_add_of_le' (Nat.le_of_add_left_le enough)
      rw [scanMarkers, if_neg plain.1, takeMarker_of_plain plain, Token.params_mark]
      exact ih legible next fuel (Nat.le_of_add_le_add_right enough)
    | name s =>
      obtain ⟨separates, legible⟩ := legible
      have ends : (d.write next rest).head? ≠ some d.closeQuote := fun closes =>
        (head?_write_of_separates separates _ _ closes).1 rfl
      have reads := d.readIdentifier_quote s ends
      have opened : (d.quote s).toList =
          d.openQuote :: (s.toList.flatMap d.quoteChar ++ [d.closeQuote]) := by simp [quote]
      rw [write_name] at enough ⊢
      rw [opened, List.cons_append] at enough reads ⊢
      obtain ⟨fuel, rfl⟩ := Nat.exists_eq_add_of_le' (Nat.le_of_add_left_le enough)
      have fits : (d.write next rest).length ≤ fuel := by
        simp only [List.length_cons, List.length_append] at enough
        omega
      rw [scanMarkers, if_pos rfl, reads, Token.params_name]
      exact ih legible next fuel fits
    | value v =>
      obtain ⟨separates, legible⟩ := legible
      obtain ⟨c, text, spelled, differs⟩ := marker_eq_cons apart next
      have reads := d.takeMarker_marker next fun c first =>
        (head?_write_of_separates separates (next + 1) c first).2
      rw [write_value] at enough ⊢
      rw [spelled, List.cons_append] at enough reads ⊢
      obtain ⟨fuel, rfl⟩ := Nat.exists_eq_add_of_le' (Nat.le_of_add_left_le enough)
      have fits : (d.write (next + 1) rest).length ≤ fuel := by
        simp only [List.length_cons, List.length_append] at enough
        omega
      rw [scanMarkers, if_neg differs, reads, Token.params_value, List.length_cons,
        List.range'_succ, List.map_cons]
      exact congrArg _ (ih legible (next + 1) fuel fits)

theorem numbers_render {d : Dialect} (apart : d.MarkersApart) {f : Fragment} {tokens : List Token}
    (written : f.stream = tokens.flatMap (Token.symbols d)) (legible : d.Legible tokens) :
    d.Numbers (d.render f) := by
  have text := toList_sql_render written
  have enough : (d.write 0 tokens).length ≤ (d.render f).sql.length :=
    Nat.le_of_eq (by rw [← text, String.length_toList])
  rw [Numbers, markersIn, params_render written, text, List.range_eq_range']
  exact scanMarkers_write apart legible 0 _ enough

example : Backend.postgreSql.dialect.markersIn "\"$1\" = $1 OR \"a\"\"$9\" IN ($2, $10)" =
    ["$1", "$2", "$10"] := by
  cbv

end Dialect

end BulkDml
