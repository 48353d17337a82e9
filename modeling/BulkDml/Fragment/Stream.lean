import BulkDml.Fragment.Basic

namespace BulkDml

abbrev Symbol := Char ⊕ Value

def Segment.stream : Segment → List Symbol
  | .sql text => text.toList.map .inl
  | .param v => [.inr v]

/-- No text is empty, and no two texts are side by side. -/
def Segment.Canonical : List Segment → Prop
  | [] => True
  | .param _ :: rest => Canonical rest
  | .sql text :: rest => text ≠ "" ∧ (∀ t, rest.head? ≠ some (.sql t)) ∧ Canonical rest

namespace Fragment

def stream (f : Fragment) : List Symbol := f.segments.flatMap Segment.stream

def Canonical (f : Fragment) : Prop := Segment.Canonical f.segments

theorem stream_empty : empty.stream = [] := rfl

theorem flatMap_stream_addText (text : String) (segments : List Segment) :
    (addText text segments).flatMap Segment.stream =
      segments.flatMap Segment.stream ++ text.toList.map .inl := by
  fun_induction addText text segments with
  | case1 => simp [Segment.stream]
  | case2 last => simp [Segment.stream]
  | case3 s rest _ ih => simp [ih]

@[simp] theorem stream_pushSql (f : Fragment) (text : String) :
    (f.pushSql text).stream = f.stream ++ text.toList.map .inl := by
  unfold pushSql
  split
  · next blank => simp [blank]
  · exact flatMap_stream_addText text f.segments

@[simp] theorem stream_pushParam (f : Fragment) (v : Value) :
    (f.pushParam v).stream = f.stream ++ [.inr v] := by
  simp [pushParam, stream, Segment.stream]

@[simp] theorem stream_push (f : Fragment) (s : Segment) :
    (f.push s).stream = f.stream ++ s.stream := by
  cases s with
  | sql text => exact stream_pushSql f text
  | param v => exact stream_pushParam f v

@[simp] theorem stream_append (f g : Fragment) : (f ++ g).stream = f.stream ++ g.stream := by
  change (g.segments.foldl push f).stream = f.stream ++ g.segments.flatMap Segment.stream
  generalize g.segments = segments
  induction segments generalizing f with
  | nil => simp
  | cons s rest ih => simp [ih]

@[simp] theorem stream_sql (text : String) : (sql text).stream = text.toList.map .inl := by
  simp [sql, stream_empty]

@[simp] theorem stream_param (v : Value) : (param v).stream = [.inr v] := by
  simp [param, stream_empty]

@[simp] theorem stream_parenthesized (f : Fragment) :
    f.parenthesized.stream = .inl '(' :: (f.stream ++ [.inl ')']) := by
  simp [parenthesized]

theorem stream_join (separator : String) (parts : List Fragment) :
    (join separator parts).stream =
      List.intercalate (separator.toList.map .inl) (parts.map stream) := by
  cases parts with
  | nil => rfl
  | cons first rest =>
    have folded : ∀ (out : Fragment) (rest : List Fragment),
        (rest.foldl (fun out part => out.pushSql separator ++ part) out).stream =
          out.stream ++
            (rest.map fun part => separator.toList.map .inl ++ part.stream).flatten := by
      intro out rest
      induction rest generalizing out with
      | nil => simp
      | cons part rest ih => simp [ih]
    have spread : ∀ (x : List Symbol) (rest : List Fragment),
        List.intercalate (separator.toList.map .inl) (x :: rest.map stream) =
          x ++ (rest.map fun part => separator.toList.map .inl ++ part.stream).flatten := by
      intro x rest
      induction rest generalizing x with
      | nil => simp
      | cons part rest ih => simp [ih]
    simp only [join, List.map_cons]
    rw [folded, spread, stream_append, stream_empty, List.nil_append]

theorem canonical_empty : empty.Canonical := trivial

theorem canonical_addText {text : String} (filled : text ≠ "") {segments : List Segment}
    (canonical : Segment.Canonical segments) : Segment.Canonical (addText text segments) := by
  fun_induction addText text segments with
  | case1 => simp [Segment.Canonical, filled]
  | case2 last => simp [Segment.Canonical, filled]
  | case3 s rest distinct ih =>
    cases s with
    | param v => exact ih canonical
    | sql first =>
      obtain ⟨filledFirst, apart, canonicalRest⟩ := canonical
      refine ⟨filledFirst, ?_, ih canonicalRest⟩
      cases rest with
      | nil => exact absurd rfl (distinct first rfl)
      | cons next more =>
        cases next with
        | sql t => exact absurd rfl (apart t)
        | param v => cases more <;> simp [addText]

theorem canonical_pushSql {f : Fragment} (canonical : f.Canonical) (text : String) :
    (f.pushSql text).Canonical := by
  unfold pushSql
  split
  · exact canonical
  · next filled => exact canonical_addText filled canonical

theorem canonical_pushParam {f : Fragment} (canonical : f.Canonical) (v : Value) :
    (f.pushParam v).Canonical := by
  have pushed : ∀ segments : List Segment, Segment.Canonical segments →
      Segment.Canonical (segments ++ [.param v]) := by
    intro segments
    induction segments with
    | nil => simp [Segment.Canonical]
    | cons s rest ih =>
      intro canonical
      cases s with
      | param w => exact ih canonical
      | sql text =>
        obtain ⟨filled, apart, canonicalRest⟩ := canonical
        refine ⟨filled, ?_, ih canonicalRest⟩
        cases rest with
        | nil => simp
        | cons next more => simpa using apart
  exact pushed f.segments canonical

theorem canonical_push {f : Fragment} (canonical : f.Canonical) (s : Segment) :
    (f.push s).Canonical := by
  cases s with
  | sql text => exact canonical_pushSql canonical text
  | param v => exact canonical_pushParam canonical v

theorem canonical_append {f : Fragment} (canonical : f.Canonical) (g : Fragment) :
    (f ++ g).Canonical := by
  change (g.segments.foldl push f).Canonical
  generalize g.segments = segments
  induction segments generalizing f with
  | nil => exact canonical
  | cons s rest ih => exact ih (canonical_push canonical s)

theorem canonical_sql (text : String) : (sql text).Canonical :=
  canonical_pushSql canonical_empty text

theorem canonical_param (v : Value) : (param v).Canonical := canonical_pushParam canonical_empty v

theorem canonical_parenthesized (f : Fragment) : f.parenthesized.Canonical :=
  canonical_pushSql (canonical_append (canonical_sql "(") f) ")"

theorem canonical_join (separator : String) (parts : List Fragment) :
    (join separator parts).Canonical := by
  cases parts with
  | nil => exact canonical_empty
  | cons first rest =>
    have folded : ∀ (out : Fragment) (rest : List Fragment), out.Canonical →
        (rest.foldl (fun out part => out.pushSql separator ++ part) out).Canonical := by
      intro out rest
      induction rest generalizing out with
      | nil => exact id
      | cons part rest ih =>
        exact fun canonical => ih _ (canonical_append (canonical_pushSql canonical separator) part)
    exact folded _ rest (canonical_append canonical_empty first)

def BeginsWithoutText (symbols : List Symbol) : Prop := ∀ c, symbols.head? ≠ some (.inl c)

theorem text_eq_of_append_eq {a b : List Char} {s t : List Symbol}
    (withoutLeft : BeginsWithoutText s) (withoutRight : BeginsWithoutText t)
    (same : a.map .inl ++ s = b.map .inl ++ t) : a = b ∧ s = t := by
  induction a generalizing b with
  | nil =>
    cases b with
    | nil => exact ⟨rfl, same⟩
    | cons c b => exact absurd (congrArg List.head? same) (by simpa using withoutLeft c)
  | cons c a ih =>
    cases b with
    | nil => exact absurd (congrArg List.head? same).symm (by simpa using withoutRight c)
    | cons d b =>
      simp only [List.map_cons, List.cons_append, List.cons.injEq, Sum.inl.injEq] at same
      obtain ⟨rfl, rest⟩ := same
      obtain ⟨rfl, tails⟩ := ih rest
      exact ⟨rfl, tails⟩

theorem beginsWithoutText_of_canonical {segments : List Segment}
    (withoutText : ∀ t, segments.head? ≠ some (.sql t)) :
    BeginsWithoutText (segments.flatMap Segment.stream) := by
  cases segments with
  | nil => simp [BeginsWithoutText]
  | cons s rest =>
    cases s with
    | sql t => exact absurd rfl (withoutText t)
    | param v => simp [BeginsWithoutText, Segment.stream]

theorem text_ne_nil {text : String} (filled : text ≠ "") : text.toList ≠ [] := by
  simpa using filled

theorem segments_eq_of_stream_eq {left right : List Segment}
    (canonicalLeft : Segment.Canonical left) (canonicalRight : Segment.Canonical right)
    (same : left.flatMap Segment.stream = right.flatMap Segment.stream) : left = right := by
  induction left generalizing right with
  | nil =>
    cases right with
    | nil => rfl
    | cons s rest =>
      cases s with
      | param v => simp [Segment.stream] at same
      | sql text => simp [Segment.stream, text_ne_nil canonicalRight.1] at same
  | cons s rest ih =>
    cases right with
    | nil =>
      cases s with
      | param v => simp [Segment.stream] at same
      | sql text => simp [Segment.stream, text_ne_nil canonicalLeft.1] at same
    | cons r more =>
      cases s with
      | param v =>
        cases r with
        | param w =>
          simp only [List.flatMap_cons, Segment.stream, List.cons_append, List.nil_append,
            List.cons.injEq, Sum.inr.injEq] at same
          obtain ⟨rfl, tails⟩ := same
          exact congrArg _ (ih canonicalLeft canonicalRight tails)
        | sql text =>
          have first := congrArg List.head? same
          cases chars : text.toList with
          | nil => exact absurd chars (text_ne_nil canonicalRight.1)
          | cons c cs => simp [Segment.stream, chars] at first
      | sql text =>
        cases r with
        | param w =>
          have first := congrArg List.head? same
          cases chars : text.toList with
          | nil => exact absurd chars (text_ne_nil canonicalLeft.1)
          | cons c cs => simp [Segment.stream, chars] at first
        | sql other =>
          obtain ⟨texts, tails⟩ := text_eq_of_append_eq
            (beginsWithoutText_of_canonical canonicalLeft.2.1)
            (beginsWithoutText_of_canonical canonicalRight.2.1) same
          rw [String.toList_inj.mp texts, ih canonicalLeft.2.2 canonicalRight.2.2 tails]

theorem eq_of_stream_eq {f g : Fragment} (canonicalLeft : f.Canonical)
    (canonicalRight : g.Canonical) (same : f.stream = g.stream) : f = g :=
  congrArg Fragment.mk (segments_eq_of_stream_eq canonicalLeft canonicalRight same)

end Fragment

end BulkDml
