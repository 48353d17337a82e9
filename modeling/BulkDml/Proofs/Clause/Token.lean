import Mathlib.Data.List.Basic
import BulkDml.Dialect.Identifier
import BulkDml.Fragment.Stream
import BulkDml.Proofs.Digits

namespace BulkDml

inductive Token where
  | mark (c : Char)
  | name (s : String)
  | value (v : Value)
deriving DecidableEq

namespace Token

def symbols (d : Dialect) : Token → List Symbol
  | mark c => [.inl c]
  | name s => (d.quote s).toList.map .inl
  | value v => [.inr v]

def value? : Token → Option Value
  | value v => some v
  | _ => none

def params (tokens : List Token) : List Value := tokens.filterMap value?

@[simp] theorem params_nil : params [] = [] := rfl

@[simp] theorem params_mark (c : Char) (rest : List Token) :
    params (mark c :: rest) = params rest := rfl

@[simp] theorem params_name (s : String) (rest : List Token) :
    params (name s :: rest) = params rest := rfl

@[simp] theorem params_value (v : Value) (rest : List Token) :
    params (value v :: rest) = v :: params rest := rfl

end Token

theorem flatMap_intercalate {α β : Type} (f : α → List β) (separator : List α)
    (parts : List (List α)) :
    (List.intercalate separator parts).flatMap f =
      List.intercalate (separator.flatMap f) (parts.map (·.flatMap f)) := by
  induction parts with
  | nil => rfl
  | cons part rest ih =>
    cases rest with
    | nil => simp
    | cons next rest =>
      simp only [List.map_cons, List.intercalate_cons_cons, List.flatMap_append] at ih ⊢
      rw [ih]

theorem map_intercalate {α β : Type} (f : α → β) (separator : List α) (parts : List (List α)) :
    (List.intercalate separator parts).map f =
      List.intercalate (separator.map f) (parts.map (·.map f)) := by
  have single (xs : List α) : xs.map f = xs.flatMap fun x => [f x] := List.map_eq_flatMap
  simp only [single, flatMap_intercalate]

theorem isPrefixOf?_append {α : Type} [BEq α] [LawfulBEq α] (front rest : List α) :
    front.isPrefixOf? (front ++ rest) = some rest :=
  List.isPrefixOf?_eq_some_iff_append_eq.mpr rfl

def renderSymbols (marker : Nat → String) : Nat → List Symbol → List Char
  | _, [] => []
  | next, .inl c :: rest => c :: renderSymbols marker next rest
  | next, .inr _ :: rest => (marker next).toList ++ renderSymbols marker (next + 1) rest

theorem renderSymbols_text (marker : Nat → String) (next : Nat) (text : List Char)
    (rest : List Symbol) :
    renderSymbols marker next (text.map .inl ++ rest) = text ++ renderSymbols marker next rest := by
  induction text with
  | nil => rfl
  | cons c text ih => simp [renderSymbols, ih]

theorem renderSymbols_append (marker : Nat → String) (next : Nat) (front back : List Symbol) :
    renderSymbols marker next (front ++ back) = renderSymbols marker next front ++
      renderSymbols marker (next + (front.filterMap Sum.getRight?).length) back := by
  induction front generalizing next with
  | nil => rfl
  | cons s front ih =>
    cases s with
    | inl c => simp [renderSymbols, ih, List.filterMap_cons]
    | inr v => simp [renderSymbols, ih, Nat.add_assoc, Nat.add_comm 1]

theorem renderSymbols_append_text (marker : Nat → String) (next : Nat) (symbols : List Symbol)
    (text : List Char) :
    renderSymbols marker next (symbols ++ text.map .inl) =
      renderSymbols marker next symbols ++ text := by
  have alone (next : Nat) := renderSymbols_text marker next text []
  simp only [List.append_nil, renderSymbols] at alone
  rw [renderSymbols_append, alone]

namespace Fragment

theorem toList_renderText (marker : Nat → String) (next : Nat) (segments : List Segment) :
    (renderText marker next segments).toList =
      renderSymbols marker next (segments.flatMap Segment.stream) := by
  induction segments generalizing next with
  | nil => rfl
  | cons s rest ih =>
    cases s with
    | sql text => simp [renderText, Segment.stream, renderSymbols_text, ih]
    | param v => simp [renderText, Segment.stream, renderSymbols, ih]

theorem params_eq_stream (f : Fragment) : f.params = f.stream.filterMap Sum.getRight? := by
  unfold params stream
  induction f.segments with
  | nil => rfl
  | cons s rest ih =>
    cases s with
    | sql text => simp [Segment.stream, ih, List.filterMap_append]
    | param v => simp [Segment.stream, ih]

@[simp] theorem params_append (f g : Fragment) : (f ++ g).params = f.params ++ g.params := by
  simp [params_eq_stream]

@[simp] theorem params_sql (text : String) : (sql text).params = [] := by
  simp [params_eq_stream, List.filterMap_map]

@[simp] theorem params_param (v : Value) : (param v).params = [v] := rfl

@[simp] theorem params_pushSql (f : Fragment) (text : String) :
    (f.pushSql text).params = f.params := by
  simp [params_eq_stream, List.filterMap_map]

@[simp] theorem params_pushParam (f : Fragment) (v : Value) :
    (f.pushParam v).params = f.params ++ [v] := by
  simp [params_eq_stream]

@[simp] theorem params_parenthesized (f : Fragment) : f.parenthesized.params = f.params := by
  simp [parenthesized]

theorem params_join (separator : String) (parts : List Fragment) :
    (join separator parts).params = parts.flatMap params := by
  rw [params_eq_stream, stream_join]
  induction parts with
  | nil => rfl
  | cons part parts ih =>
    cases parts with
    | nil => simp [params_eq_stream]
    | cons next parts =>
      rw [List.map_cons, List.map_cons] at *
      rw [List.intercalate_cons_cons, List.filterMap_append, List.filterMap_append, ih]
      simp [params_eq_stream, List.filterMap_map]

/-- Fragments one after the other count their parameters as one. -/
theorem renderText_append (marker : Nat → String) (next : Nat) (f g : Fragment) :
    renderText marker next (f ++ g).segments = renderText marker next f.segments ++
      renderText marker (next + f.params.length) g.segments := by
  apply String.toList_inj.mp
  rw [String.toList_append, toList_renderText, toList_renderText, toList_renderText,
    params_eq_stream]
  change renderSymbols marker next (f ++ g).stream = _
  rw [stream_append, renderSymbols_append]
  rfl

theorem renderText_pushSql (marker : Nat → String) (next : Nat) (f : Fragment) (text : String) :
    renderText marker next (f.pushSql text).segments =
      renderText marker next f.segments ++ text := by
  apply String.toList_inj.mp
  rw [String.toList_append, toList_renderText, toList_renderText]
  change renderSymbols marker next (f.pushSql text).stream = _
  rw [stream_pushSql, renderSymbols_append_text]
  rfl

end Fragment

namespace Dialect

def sign (d : Dialect) : List Char :=
  match d.markers with
  | .numbered sign _ => sign.toList
  | .anonymous sign => sign.toList

/-- Reads a marker, of which the `next` unnumbered one is meant if it has no number, and gives the
position of its parameter. -/
def readMarker (d : Dialect) (next : Nat) (text : List Char) : Option (Nat × List Char) := do
  let rest ← d.sign.isPrefixOf? text
  match d.markers with
  | .numbered _ first =>
    return (Nat.ofDigitChars 10 (rest.takeWhile Char.isDigit) 0 - first,
      rest.dropWhile Char.isDigit)
  | .anonymous _ => return (next, rest)

def readTokens (d : Dialect) (params : List Value) : Nat → Nat → List Char → Option (List Token)
  | _, _, [] => some []
  | 0, _, _ :: _ => none
  | fuel + 1, next, c :: text =>
    if c = d.openQuote then do
      let (s, rest) ← d.readIdentifier (c :: text)
      return .name s :: (← d.readTokens params fuel next rest)
    else match d.readMarker next (c :: text) with
      | some (position, rest) => do
        let v ← params[position]?
        return .value v :: (← d.readTokens params fuel (next + 1) rest)
      | none => do return .mark c :: (← d.readTokens params fuel next text)

def readStatement (d : Dialect) (s : Statement) : Option (List Token) :=
  d.readTokens s.params s.sql.length 0 s.sql.toList

def Plain (d : Dialect) (c : Char) : Prop :=
  c ≠ d.openQuote ∧ d.sign ≠ [] ∧ d.sign.head? ≠ some c

instance (d : Dialect) (c : Char) : Decidable (d.Plain c) := inferInstanceAs (Decidable (_ ∧ _))

/-- What follows an identifier or a parameter neither prolongs it nor is another one. -/
def Separates (d : Dialect) (tokens : List Token) : Prop :=
  ∀ t, tokens.head? = some t → ∃ c, t = .mark c ∧ c ≠ d.closeQuote ∧ c.isDigit = false

def Legible (d : Dialect) : List Token → Prop
  | [] => True
  | .mark c :: rest => d.Plain c ∧ Legible d rest
  | .name _ :: rest => d.Separates rest ∧ Legible d rest
  | .value _ :: rest => d.Separates rest ∧ Legible d rest

def write (d : Dialect) (next : Nat) (tokens : List Token) : List Char :=
  renderSymbols d.marker next (tokens.flatMap (Token.symbols d))

theorem write_mark (d : Dialect) (next : Nat) (c : Char) (rest : List Token) :
    d.write next (.mark c :: rest) = c :: d.write next rest := rfl

theorem write_name (d : Dialect) (next : Nat) (s : String) (rest : List Token) :
    d.write next (.name s :: rest) = (d.quote s).toList ++ d.write next rest := by
  simp only [write, List.flatMap_cons, Token.symbols]
  exact renderSymbols_text _ _ _ _

theorem write_value (d : Dialect) (next : Nat) (v : Value) (rest : List Token) :
    d.write next (.value v :: rest) = (d.marker next).toList ++ d.write (next + 1) rest := rfl

theorem head?_write_of_separates {d : Dialect} {rest : List Token} (separates : d.Separates rest)
    (next : Nat) :
    ∀ c, (d.write next rest).head? = some c → c ≠ d.closeQuote ∧ c.isDigit = false := by
  intro c first
  cases rest with
  | nil => cases first
  | cons t rest =>
    obtain ⟨c', rfl, closes, digit⟩ := separates t rfl
    rw [write_mark] at first
    cases first
    exact ⟨closes, digit⟩

theorem isPrefixOf?_of_plain {d : Dialect} {c : Char} (plain : d.Plain c) (text : List Char) :
    d.sign.isPrefixOf? (c :: text) = none := by
  obtain ⟨_, filled, apart⟩ := plain
  obtain ⟨s, rest, sign⟩ := List.exists_cons_of_ne_nil filled
  have differs : (s == c) = false := by simpa [sign] using apart
  simp [sign, List.isPrefixOf?, differs]

theorem readMarker_of_plain {d : Dialect} {c : Char} (plain : d.Plain c) (next : Nat)
    (text : List Char) : d.readMarker next (c :: text) = none := by
  rw [readMarker, isPrefixOf?_of_plain plain]
  rfl

theorem readMarker_marker (d : Dialect) (next : Nat) {text : List Char}
    (ends : ∀ c, text.head? = some c → c.isDigit = false) :
    d.readMarker next ((d.marker next).toList ++ text) = some (next, text) := by
  cases style : d.markers with
  | numbered sign first =>
    obtain ⟨digits, rest⟩ := takeWhile_digits (first + next) ends
    simp [readMarker, Dialect.sign, style, marker, isPrefixOf?_append, digits, rest]
  | anonymous sign =>
    simp [readMarker, Dialect.sign, style, marker, isPrefixOf?_append]

def MarkersApart (d : Dialect) : Prop := ∃ s rest, d.sign = s :: rest ∧ s ≠ d.openQuote

theorem marker_eq_cons {d : Dialect} (apart : d.MarkersApart) (next : Nat) :
    ∃ c rest, (d.marker next).toList = c :: rest ∧ c ≠ d.openQuote := by
  obtain ⟨s, rest, sign, differs⟩ := apart
  cases style : d.markers with
  | numbered text first =>
    have spelled : text.toList = s :: rest := by simpa [Dialect.sign, style] using sign
    exact ⟨s, rest ++ (toString (first + next)).toList, by simp [marker, style, spelled], differs⟩
  | anonymous text =>
    have spelled : text.toList = s :: rest := by simpa [Dialect.sign, style] using sign
    exact ⟨s, rest, by simp [marker, style, spelled], differs⟩

theorem readTokens_write {d : Dialect} (apart : d.MarkersApart) {tokens : List Token}
    (legible : d.Legible tokens) (before : List Value) (fuel : Nat)
    (enough : (d.write before.length tokens).length ≤ fuel) :
    d.readTokens (before ++ Token.params tokens) fuel before.length
      (d.write before.length tokens) = some tokens := by
  -- The parameters that were read already stand before those of the remaining tokens.
  induction tokens generalizing before fuel with
  | nil => simp [write, renderSymbols, readTokens]
  | cons t rest ih =>
    cases t with
    | mark c =>
      obtain ⟨plain, legible⟩ := legible
      rw [write_mark] at enough ⊢
      obtain ⟨fuel, rfl⟩ := Nat.exists_eq_add_of_le' (Nat.le_of_add_left_le enough)
      have fits := Nat.le_of_add_le_add_right enough
      have later := ih legible before fuel fits
      rw [readTokens, if_neg plain.1, readMarker_of_plain plain]
      simp [later]
    | name s =>
      obtain ⟨separates, legible⟩ := legible
      have ends : (d.write before.length rest).head? ≠ some d.closeQuote := fun closes =>
        (head?_write_of_separates separates _ _ closes).1 rfl
      have reads := d.readIdentifier_quote s ends
      rw [write_name] at enough ⊢
      have opened : (d.quote s).toList =
          d.openQuote :: (s.toList.flatMap d.quoteChar ++ [d.closeQuote]) := by simp [quote]
      rw [opened, List.cons_append] at enough reads ⊢
      obtain ⟨fuel, rfl⟩ := Nat.exists_eq_add_of_le' (Nat.le_of_add_left_le enough)
      have fits : (d.write before.length rest).length ≤ fuel := by
        simp only [List.length_cons, List.length_append] at enough
        omega
      have later := ih legible before fuel fits
      rw [readTokens, if_pos rfl, reads]
      simp [later]
    | value v =>
      obtain ⟨separates, legible⟩ := legible
      obtain ⟨c, text, spelled, differs⟩ := marker_eq_cons apart before.length
      have reads := d.readMarker_marker before.length fun c first =>
        (head?_write_of_separates separates (before.length + 1) c first).2
      rw [write_value] at enough ⊢
      rw [spelled, List.cons_append] at enough reads ⊢
      obtain ⟨fuel, rfl⟩ := Nat.exists_eq_add_of_le' (Nat.le_of_add_left_le enough)
      have next : before.length + 1 = (before ++ [v]).length := by simp
      have fits : (d.write (before ++ [v]).length rest).length ≤ fuel := by
        rw [← next]
        simp only [List.length_cons, List.length_append] at enough
        omega
      have later := ih legible (before ++ [v]) fuel fits
      rw [readTokens, if_neg differs, reads]
      rw [List.append_assoc, List.singleton_append, ← next] at later
      simp [later]

end Dialect

theorem Token.symbols_params (d : Dialect) (tokens : List Token) :
    (tokens.flatMap (symbols d)).filterMap Sum.getRight? = params tokens := by
  induction tokens with
  | nil => rfl
  | cons t rest ih =>
    rw [List.flatMap_cons, List.filterMap_append, ih]
    cases t with
    | mark c => rfl
    | name s => simp [symbols, Function.comp_def]
    | value v => rfl

namespace Dialect

variable {d : Dialect} {f : Fragment} {tokens : List Token}

theorem params_render (written : f.stream = tokens.flatMap (Token.symbols d)) :
    (d.render f).params = Token.params tokens := by
  rw [← Token.symbols_params d, ← written]
  exact f.params_eq_stream

theorem toList_sql_render (written : f.stream = tokens.flatMap (Token.symbols d)) :
    (d.render f).sql.toList = d.write 0 tokens := by
  rw [write, ← written]
  exact Fragment.toList_renderText d.marker 0 f.segments

/-- What a fragment says can be read from its text. -/
theorem readStatement_render (apart : d.MarkersApart)
    (written : f.stream = tokens.flatMap (Token.symbols d)) (legible : d.Legible tokens) :
    d.readStatement (d.render f) = some tokens := by
  have text := toList_sql_render written
  rw [readStatement, params_render written, text]
  apply readTokens_write apart legible []
  exact Nat.le_of_eq (by rw [List.length_nil, ← text, String.length_toList])

end Dialect

end BulkDml
