import BulkDml.Proofs.Clause.Reading

namespace BulkDml

def isStatementChar (c : Char) : Bool :=
  c.isDigit || c.isUpper || " ,.()=<>+-*/|".toList.contains c

def isStatementText (s : String) : Bool := s.toList.all isStatementChar

def isSeparator (s : String) : Bool := isStatementText s && s.toList.head?.any (!·.isDigit)

theorem isStatementText_append {s t : String} (first : isStatementText s = true)
    (second : isStatementText t = true) : isStatementText (s ++ t) = true := by
  unfold isStatementText at *
  rw [String.toList_append, List.all_append, first, second]
  rfl

theorem isSeparator_iff {s : String} :
    isSeparator s = true ↔
      isStatementText s = true ∧ ∃ c chars, s.toList = c :: chars ∧ c.isDigit = false := by
  unfold isSeparator
  cases s.toList <;> simp

theorem isSeparator_append {s t : String} (first : isSeparator s = true)
    (second : isStatementText t = true) : isSeparator (s ++ t) = true := by
  obtain ⟨known, c, chars, spelled, letter⟩ := isSeparator_iff.mp first
  have begins : (s ++ t).toList = c :: (chars ++ t.toList) := by
    rw [String.toList_append, spelled, List.cons_append]
  exact isSeparator_iff.mpr ⟨isStatementText_append known second, c, _, begins, letter⟩

theorem isStatementText_toString (n : Nat) : isStatementText (toString n) = true := by
  apply List.all_eq_true.mpr
  intro c member
  rw [Nat.toString_eq_repr, Nat.toList_repr] at member
  have digit : c.isDigit = true := Nat.isDigit_of_mem_toDigits (by decide) (by decide) member
  simp [isStatementChar, digit]

namespace Backend

theorem plain (b : Backend) {c : Char} (known : isStatementChar c = true) : b.dialect.Plain c := by
  have opening : isStatementChar b.dialect.openQuote = false := by cases b <;> decide
  have signs : b.dialect.sign ≠ [] := by cases b <;> decide
  have sign : b.dialect.sign.head?.all (!isStatementChar ·) = true := by cases b <;> decide
  refine ⟨?_, signs, ?_⟩
  · rintro rfl
    exact Bool.false_ne_true (opening.symm.trans known)
  · intro head
    simp [head, known] at sign

theorem closes (b : Backend) {c : Char} (known : isStatementChar c = true) :
    c ≠ b.dialect.closeQuote := by
  have closing : isStatementChar b.dialect.closeQuote = false := by cases b <;> decide
  rintro rfl
  exact Bool.false_ne_true (closing.symm.trans known)

end Backend

namespace Dialect

def Part (d : Dialect) (tokens : List Token) : Prop :=
  ∀ rest : List Token, d.Legible rest → d.Separates rest → d.Legible (tokens ++ rest)

variable {d : Dialect} {xs : List Token}

theorem Part.legible (part : d.Part xs) : d.Legible xs := by
  have alone := part [] trivial fun _ => nofun
  rwa [List.append_nil] at alone

theorem part_nil : d.Part [] := fun _ legible _ => legible

theorem part_name (s : String) : d.Part [.name s] := fun _ legible separates => ⟨separates, legible⟩

theorem part_value (v : Value) : d.Part [.value v] :=
  fun _ legible separates => ⟨separates, legible⟩

theorem part_written (clear : d.Clear) (w : Written) : d.Part w.tokens :=
  fun _ legible separates => legible_tokens clear w legible separates

end Dialect

namespace Backend

open Dialect

variable {b : Backend} {xs ys : List Token}

theorem part_text_append {s : String} (known : isStatementText s = true)
    (second : b.dialect.Part ys) : b.dialect.Part (Written.text s ++ ys) := by
  intro rest legible separates
  rw [List.append_assoc]
  apply legible_text_of_plain _ (second rest legible separates)
  intro c member
  exact b.plain (List.all_eq_true.mp known c member)

theorem part_text {s : String} (known : isStatementText s = true) :
    b.dialect.Part (Written.text s) := by
  have part := part_text_append (b := b) known part_nil
  rwa [List.append_nil] at part

theorem part_separated {s : String} (first : b.dialect.Part xs)
    (known : isSeparator s = true) (second : b.dialect.Part ys) :
    b.dialect.Part (xs ++ (Written.text s ++ ys)) := by
  obtain ⟨text, c, chars, spelled, letter⟩ := isSeparator_iff.mp known
  have among : c ∈ s.toList := by simp [spelled]
  have closes : c ≠ b.dialect.closeQuote := b.closes (List.all_eq_true.mp text c among)
  intro rest legible separates
  rw [List.append_assoc]
  -- Only the first character of the separator can prolong what stands before it.
  apply first _ (part_text_append text second rest legible separates)
  rw [List.append_assoc]
  exact separates_text_of_closes spelled closes letter (ys ++ rest)

theorem part_ended {s : String} (first : b.dialect.Part xs) (known : isSeparator s = true) :
    b.dialect.Part (xs ++ Written.text s) := by
  have part := part_separated first known part_nil
  rwa [List.append_nil] at part

theorem part_list {parts : List (List Token)} (each : ∀ part ∈ parts, b.dialect.Part part) :
    b.dialect.Part (List.intercalate (Written.text ", ") parts) := by
  induction parts with
  | nil => exact part_nil
  | cons part parts ih =>
    obtain ⟨first, later⟩ := List.forall_mem_cons.mp each
    cases parts with
    | nil => simpa using first
    | cons next parts =>
      rw [List.intercalate_cons_cons, List.append_assoc]
      exact part_separated first (by decide) (ih later)

end Backend

end BulkDml
