import Mathlib.Data.List.Forall2
import BulkDml.Proofs.Clause.Token

namespace BulkDml

def Symbol.Same : Symbol → Symbol → Prop
  | .inl c, .inl c' => c = c'
  | .inr v, .inr w => v.same w = true
  | _, _ => False

def Symbol.ofText (text : String) : List Symbol := text.toList.map .inl

theorem Symbol.same_char_left {c : Char} {x : Symbol} : Same (.inl c) x ↔ x = .inl c := by
  cases x with
  | inl c' => simp [Same, eq_comm]
  | inr v => simp [Same]

theorem Symbol.same_char_right {c : Char} {x : Symbol} : Same x (.inl c) ↔ x = .inl c := by
  cases x with
  | inl c' => simp [Same]
  | inr v => simp [Same]

namespace Fragment

theorem head?_eq_of_same_right {c : Char} {s t : List Symbol}
    (same : List.Forall₂ Symbol.Same s (.inl c :: t)) : s.head? = some (.inl c) := by
  obtain ⟨x, s, first, -, rfl⟩ := List.forall₂_cons_right_iff.mp same
  rw [Symbol.same_char_right.mp first]
  rfl

theorem head?_eq_of_same_left {c : Char} {s t : List Symbol}
    (same : List.Forall₂ Symbol.Same (.inl c :: s) t) : t.head? = some (.inl c) := by
  obtain ⟨x, t, first, -, rfl⟩ := List.forall₂_cons_left_iff.mp same
  rw [Symbol.same_char_left.mp first]
  rfl

theorem forall₂_text_append_iff {a b : List Char} {s t : List Symbol}
    (withoutLeft : BeginsWithoutText s) (withoutRight : BeginsWithoutText t) :
    List.Forall₂ Symbol.Same (a.map .inl ++ s) (b.map .inl ++ t) ↔
      a = b ∧ List.Forall₂ Symbol.Same s t := by
  induction a generalizing b with
  | nil =>
    cases b with
    | nil => simp
    | cons c b =>
      refine iff_of_false (fun same => ?_) nofun
      exact withoutLeft c (head?_eq_of_same_right same)
  | cons c a ih =>
    cases b with
    | nil =>
      refine iff_of_false (fun same => ?_) nofun
      exact withoutRight c (head?_eq_of_same_left same)
    | cons d b =>
      rw [List.map_cons, List.map_cons, List.cons_append, List.cons_append, List.forall₂_cons, ih,
        List.cons.injEq, and_assoc]
      rfl

theorem exists_stream_text {text : String} (filled : text ≠ "") :
    ∃ c chars, (Segment.sql text).stream = .inl c :: chars := by
  obtain ⟨c, chars, spelled⟩ := List.exists_cons_of_ne_nil (text_ne_nil filled)
  exact ⟨c, chars.map .inl, by simp [Segment.stream, spelled]⟩

theorem flatMap_stream_ne_nil {s : Segment} {rest : List Segment}
    (canonical : Segment.Canonical (s :: rest)) : (s :: rest).flatMap Segment.stream ≠ [] := by
  cases s with
  | param v => exact List.cons_ne_nil _ _
  | sql text =>
    obtain ⟨c, chars, spelled⟩ := exists_stream_text canonical.1
    simp [spelled]

theorem sameSegments_iff {left right : List Segment} (canonicalLeft : Segment.Canonical left)
    (canonicalRight : Segment.Canonical right) :
    same.sameSegments left right = true ↔
      List.Forall₂ Symbol.Same (left.flatMap Segment.stream) (right.flatMap Segment.stream) := by
  induction left generalizing right with
  | nil =>
    cases right with
    | nil => simp [same.sameSegments]
    | cons r more =>
      refine iff_of_false Bool.false_ne_true fun same => ?_
      exact flatMap_stream_ne_nil canonicalRight (List.forall₂_nil_left_iff.mp same)
  | cons s rest ih =>
    cases right with
    | nil =>
      refine iff_of_false Bool.false_ne_true fun same => ?_
      exact flatMap_stream_ne_nil canonicalLeft (List.forall₂_nil_right_iff.mp same)
    | cons r more =>
      rw [same.sameSegments, Bool.and_eq_true, List.flatMap_cons, List.flatMap_cons]
      cases s with
      | param v =>
        cases r with
        | param w =>
          have left : Segment.Canonical rest := canonicalLeft
          have right : Segment.Canonical more := canonicalRight
          rw [ih left right, Segment.stream, Segment.stream, List.singleton_append,
            List.singleton_append, List.forall₂_cons]
          rfl
        | sql text =>
          obtain ⟨c, chars, spelled⟩ := exists_stream_text canonicalRight.1
          rw [spelled]
          exact iff_of_false (fun same => Bool.false_ne_true same.1) fun same =>
            (List.forall₂_cons.mp same).1
      | sql text =>
        cases r with
        | param w =>
          obtain ⟨c, chars, spelled⟩ := exists_stream_text canonicalLeft.1
          rw [spelled]
          exact iff_of_false (fun same => Bool.false_ne_true same.1) fun same =>
            (List.forall₂_cons.mp same).1
        | sql other =>
          have apart := beginsWithoutText_of_canonical canonicalLeft.2.1
          have apart' := beginsWithoutText_of_canonical canonicalRight.2.1
          rw [ih canonicalLeft.2.2 canonicalRight.2.2, Segment.same, beq_iff_eq,
            ← String.toList_inj]
          exact (forall₂_text_append_iff apart apart').symm

/-- Fragments in canonical form compare as the streams of their symbols do. -/
theorem same_iff {f g : Fragment} (canonicalLeft : f.Canonical) (canonicalRight : g.Canonical) :
    f.same g = true ↔ List.Forall₂ Symbol.Same f.stream g.stream :=
  sameSegments_iff canonicalLeft canonicalRight

theorem eq_iff {f g : Fragment} (canonicalLeft : f.Canonical) (canonicalRight : g.Canonical) :
    f = g ↔ f.stream = g.stream :=
  ⟨congrArg stream, eq_of_stream_eq canonicalLeft canonicalRight⟩

theorem paramCount_eq_length (f : Fragment) : f.paramCount = f.params.length := by
  unfold paramCount params
  induction f.segments with
  | nil => rfl
  | cons s rest ih =>
    cases s with
    | sql text =>
      rw [List.countP_cons_of_neg Bool.false_ne_true, ih]
      rfl
    | param v =>
      rw [List.countP_cons_of_pos rfl, ih]
      rfl

theorem paramCount_append (f g : Fragment) :
    (f ++ g).paramCount = f.paramCount + g.paramCount := by
  simp only [paramCount_eq_length, params_append, List.length_append]

/-- A text that is numbered from a later position has later markers. -/
theorem renderText_shift (marker : Nat → String) (first next : Nat) (segments : List Segment) :
    renderText marker (first + next) segments =
      renderText (fun n => marker (first + n)) next segments := by
  induction segments generalizing next with
  | nil => rfl
  | cons s rest ih => cases s <;> simp [renderText, Nat.add_assoc, ih]

theorem render_append (marker : Nat → String) (f g : Fragment) :
    (f ++ g).render marker =
      ⟨(f.render marker).sql ++ (g.render fun n => marker (f.paramCount + n)).sql,
        (f.render marker).params ++ (g.render marker).params⟩ := by
  have text := renderText_append marker 0 f g
  rw [Nat.zero_add, ← paramCount_eq_length] at text
  have shifted := renderText_shift marker f.paramCount 0 g.segments
  rw [Nat.add_zero] at shifted
  rw [render, text, shifted, params_append]
  rfl

theorem isEmpty_iff {f : Fragment} (canonical : f.Canonical) (marker : Nat → String) :
    f.isEmpty = true ↔ f.render marker = ⟨"", []⟩ := by
  have text : (f.render marker).sql.toList = renderSymbols marker 0 f.stream :=
    toList_renderText marker 0 f.segments
  have params : (f.render marker).params = f.stream.filterMap Sum.getRight? := f.params_eq_stream
  constructor
  · intro none
    have nothing : f.segments = [] := List.isEmpty_iff.mp none
    simp [render, Fragment.params, renderText, nothing]
  · intro rendered
    rw [rendered] at text params
    have nothing : f.stream = [] := by
      cases symbols : f.stream with
      | nil => rfl
      | cons x rest =>
        rw [symbols] at text params
        cases x with
        | inl c => cases text
        | inr v => cases params
    have empty : f = Fragment.empty := eq_of_stream_eq canonical canonical_empty nothing
    rw [empty]
    rfl

theorem canonical_concat (d : Dialect) (f g : Fragment) : (d.concat f g).Canonical := by
  unfold Dialect.concat
  split
  · exact canonical_join _ _
  · exact canonical_append (canonical_sql _) _

inductive Program where
  | empty
  | sql (text : String)
  | param (v : Value)
  | pushSql (front : Program) (text : String)
  | pushParam (front : Program) (v : Value)
  | append (front back : Program)
  | join (separator : String) (parts : List Program)
  | parenthesized (inner : Program)
  | concat (d : Dialect) (left right : Program)

namespace Program

def run : Program → Fragment
  | empty => Fragment.empty
  | sql text => Fragment.sql text
  | param v => Fragment.param v
  | pushSql front text => front.run.pushSql text
  | pushParam front v => front.run.pushParam v
  | append front back => front.run ++ back.run
  | join separator parts => Fragment.join separator (parts.map run)
  | parenthesized inner => inner.run.parenthesized
  | concat d left right => d.concat left.run right.run

def concatSymbols (style : ConcatStyle) (left right : List Symbol) : List Symbol :=
  match style with
  | .between operator => left ++ Symbol.ofText (" " ++ operator ++ " ") ++ right
  | .call function =>
    Symbol.ofText (function ++ "(") ++ left ++ Symbol.ofText ", " ++ right ++ Symbol.ofText ")"

def symbols : Program → List Symbol
  | empty => []
  | sql text => Symbol.ofText text
  | param v => [.inr v]
  | pushSql front text => front.symbols ++ Symbol.ofText text
  | pushParam front v => front.symbols ++ [.inr v]
  | append front back => front.symbols ++ back.symbols
  | join separator parts => List.intercalate (Symbol.ofText separator) (parts.map symbols)
  | parenthesized inner => Symbol.ofText "(" ++ inner.symbols ++ Symbol.ofText ")"
  | concat d left right => concatSymbols d.concatenation left.symbols right.symbols

theorem stream_run (p : Program) : p.run.stream = p.symbols := by
  fun_induction run p with
  | case1 => simp [symbols, stream_empty]
  | case2 text => simp [symbols, Symbol.ofText]
  | case3 v => simp [symbols]
  | case4 front text ih => simp [symbols, Symbol.ofText, ih]
  | case5 front v ih => simp [symbols, ih]
  | case6 front back ihFront ihBack => simp [symbols, ihFront, ihBack]
  | case7 separator parts ih =>
    have each : (parts.map run).map stream = parts.map symbols := by
      rw [List.map_map]
      exact List.map_congr_left ih
    rw [stream_join, each, symbols]
    rfl
  | case8 inner ih => simp [symbols, Symbol.ofText, ih]
  | case9 d left right ihLeft ihRight =>
    rw [symbols, Dialect.concat]
    cases d.concatenation <;>
      simp [concatSymbols, Symbol.ofText, stream_join, ihLeft, ihRight]

theorem canonical_run (p : Program) : p.run.Canonical := by
  fun_induction run p with
  | case1 => exact canonical_empty
  | case2 text => exact canonical_sql text
  | case3 v => exact canonical_param v
  | case4 front text ih => exact canonical_pushSql ih text
  | case5 front v ih => exact canonical_pushParam ih v
  | case6 front back ih _ => exact canonical_append ih _
  | case7 separator parts _ => exact canonical_join separator _
  | case8 inner _ => exact canonical_parenthesized _
  | case9 d left right _ _ => exact canonical_concat d _ _

/-- What a program makes is the canonical form of the stream that it denotes, and the operations on
it are those on streams. -/
structure Canonizes (p : Program) : Prop where
  canonical : p.run.Canonical
  stream : p.run.stream = p.symbols
  eq_iff : ∀ q : Program, p.run = q.run ↔ p.symbols = q.symbols
  same_iff : ∀ q : Program, p.run.same q.run = true ↔
    List.Forall₂ Symbol.Same p.symbols q.symbols
  empty_append : Fragment.empty ++ p.run = p.run
  append_empty : p.run ++ Fragment.empty = p.run
  append_assoc : ∀ q r : Program, p.run ++ q.run ++ r.run = p.run ++ (q.run ++ r.run)
  paramCount : p.run.paramCount = (p.symbols.filterMap Sum.getRight?).length
  paramCount_append : ∀ q : Program,
    (p.run ++ q.run).paramCount = p.run.paramCount + q.run.paramCount
  render_append : ∀ (marker : Nat → String) (q : Program), (p.run ++ q.run).render marker =
    ⟨(p.run.render marker).sql ++ (q.run.render fun n => marker (p.run.paramCount + n)).sql,
      (p.run.render marker).params ++ (q.run.render marker).params⟩
  isEmpty_iff : ∀ marker : Nat → String,
    p.run.isEmpty = true ↔ p.run.render marker = ⟨"", []⟩

/-- However a fragment was put together, it is the one canonical form of what it denotes. -/
theorem run_canonizes (p : Program) : p.Canonizes where
  canonical := p.canonical_run
  stream := p.stream_run
  eq_iff q := by
    rw [Fragment.eq_iff p.canonical_run q.canonical_run, p.stream_run, q.stream_run]
  same_iff q := by
    rw [Fragment.same_iff p.canonical_run q.canonical_run, p.stream_run, q.stream_run]
  empty_append := by
    refine eq_of_stream_eq (canonical_append canonical_empty _) p.canonical_run ?_
    rw [stream_append, stream_empty, List.nil_append]
  append_empty := rfl
  append_assoc q r := by
    refine eq_of_stream_eq (canonical_append (canonical_append p.canonical_run _) _)
      (canonical_append p.canonical_run _) ?_
    simp only [stream_append, List.append_assoc]
  paramCount := by rw [paramCount_eq_length, params_eq_stream, p.stream_run]
  paramCount_append q := Fragment.paramCount_append p.run q.run
  render_append marker q := Fragment.render_append marker p.run q.run
  isEmpty_iff marker := Fragment.isEmpty_iff p.canonical_run marker

end Program

end Fragment

end BulkDml
