import Mathlib.Data.List.Basic

namespace BulkDml

theorem takeWhile_digits (n : Nat) {text : List Char}
    (ends : ∀ c, text.head? = some c → c.isDigit = false) :
    (Nat.toDigits 10 n ++ text).takeWhile Char.isDigit = Nat.toDigits 10 n ∧
      (Nat.toDigits 10 n ++ text).dropWhile Char.isDigit = text := by
  have digits : ∀ c ∈ Nat.toDigits 10 n, c.isDigit = true := fun c member =>
    Nat.isDigit_of_mem_toDigits (by decide) (by decide) member
  rw [List.takeWhile_append_of_pos digits, List.dropWhile_append_of_pos digits]
  cases text with
  | nil => simp
  | cons c text => simp [ends c rfl]

theorem exists_first_digit (n : Nat) :
    ∃ c rest, Nat.toDigits 10 n = c :: rest ∧ c.isDigit = true ∧ (0 < n → c ≠ '0') := by
  obtain ⟨c, rest, digits⟩ :=
    List.exists_cons_of_ne_nil (Nat.toDigits_ne_nil (b := 10) (n := n))
  have digit : c.isDigit = true :=
    Nat.isDigit_of_mem_toDigits (b := 10) (n := n) (by decide) (by decide) (by simp [digits])
  refine ⟨c, rest, digits, digit, ?_⟩
  -- The first digit stays the first one when more of them are written after it.
  induction n using Nat.strongRecOn generalizing c rest with
  | ind n ih =>
    intro positive
    by_cases small : n < 10
    · rw [Nat.toDigits_of_lt_base small] at digits
      cases digits
      exact mt Nat.digitChar_eq_zero.mp (Nat.ne_of_gt positive)
    · rw [Nat.toDigits_of_base_le (by decide) (Nat.not_lt.mp small)] at digits
      obtain ⟨first, more, before⟩ :=
        List.exists_cons_of_ne_nil (Nat.toDigits_ne_nil (b := 10) (n := n / 10))
      rw [before] at digits
      cases digits
      exact ih (n / 10) (by omega) _ _ before digit (by omega)

end BulkDml
