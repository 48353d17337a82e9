import Mathlib.Tactic.Common
import BulkDml.Json.Tagged
import BulkDml.Proofs.Digits

namespace BulkDml.Json

def EndsNumber (rest : List Char) : Prop :=
  ∀ c, rest.head? = some c → c.isDigit = false ∧ c ≠ '.' ∧ c ≠ 'e' ∧ c ≠ 'E'

theorem endsNumber_cons {c : Char}
    (mark : c.isDigit = false ∧ c ≠ '.' ∧ c ≠ 'e' ∧ c ≠ 'E') (rest : List Char) :
    EndsNumber (c :: rest) := by
  rintro first ⟨⟩
  exact mark

def digitsOf (n : Nat) : List Nat := (Nat.toDigits 10 n).map fun c => c.toNat - 48

theorem ofDigits_digitsOf (n : Nat) : ofDigits (digitsOf n) = n := by
  rw [ofDigits, digitsOf, List.foldl_map]
  exact Nat.ofDigitChars_ten_toDigits

theorem readDigits_toDigits (n : Nat) {rest : List Char} (ends : EndsNumber rest) :
    readDigits (Nat.toDigits 10 n ++ rest) = (digitsOf n, rest) := by
  obtain ⟨digits, left⟩ := takeWhile_digits n fun c first => (ends c first).1
  rw [readDigits, digits, left, digitsOf]

/-- A number is a zero alone, or does not begin with a zero. -/
theorem digitsOf_eq (n : Nat) :
    digitsOf n = [0] ∨ ∃ first rest, digitsOf n = (first + 1) :: rest := by
  obtain ⟨c, rest, digits, digit, leading⟩ := exists_first_digit n
  cases n with
  | zero => exact .inl (by decide)
  | succ n =>
    have nonzero : c.toNat ≠ 48 := fun same =>
      leading (Nat.succ_pos n) (Char.toNat_inj.mp same)
    have atLeast : 48 ≤ c.toNat := by
      simp only [Char.isDigit, Bool.and_eq_true, decide_eq_true_eq] at digit
      exact digit.1
    obtain ⟨first, value⟩ : ∃ first, c.toNat - 48 = first + 1 := ⟨c.toNat - 49, by omega⟩
    exact .inr ⟨first, _, by rw [digitsOf, digits, List.map_cons, value]⟩

theorem readWhole_toDigits (n : Nat) {rest : List Char} (ends : EndsNumber rest) :
    readWhole (Nat.toDigits 10 n ++ rest) = some (digitsOf n, rest) := by
  rw [readWhole, readDigits_toDigits n ends]
  obtain zero | ⟨first, more, nonzero⟩ := digitsOf_eq n
  · rw [zero]
    rfl
  · rw [nonzero]
    rfl

theorem readFraction_of_ends {rest : List Char} (ends : EndsNumber rest) :
    readFraction rest = some ([], rest) := by
  unfold readFraction
  split
  · exact absurd rfl (ends '.' rfl).2.1
  · rfl

theorem readExponent_of_ends {rest : List Char} (ends : EndsNumber rest) :
    readExponent rest = some (0, rest) := by
  cases rest with
  | nil => rfl
  | cons c rest =>
    obtain ⟨-, -, small, capital⟩ := ends c rfl
    exact if_neg (not_or.mpr ⟨small, capital⟩)

theorem writeInt_eq (n : Int) :
    writeInt n = if n < 0 then '-' :: Nat.toDigits 10 n.natAbs else Nat.toDigits 10 n.natAbs := by
  cases n with
  | ofNat n =>
    have positive : ¬ Int.ofNat n < 0 := Int.not_lt.mpr (Int.natCast_nonneg n)
    rw [if_neg positive]
    change (toString n).toList = _
    simp
  | negSucc n =>
    rw [if_pos (Int.negSucc_lt_zero n)]
    change ("-" ++ toString (n + 1)).toList = _
    simp

/-- Written integers begin neither with a blank nor with a bracket. -/
theorem writeInt_eq_cons (n : Int) :
    ∃ c chars, writeInt n = c :: chars ∧ isSpace c = false ∧ c ≠ ']' := by
  rw [writeInt_eq]
  split
  · exact ⟨'-', _, rfl, by decide, by decide⟩
  · obtain ⟨c, rest, digits, digit, -⟩ := exists_first_digit n.natAbs
    refine ⟨c, rest, digits, ?_, ?_⟩
    · by_contra space
      simp only [isSpace, Bool.not_eq_false, Bool.or_eq_true, beq_iff_eq] at space
      obtain ((rfl | rfl) | rfl) | rfl := space <;> cases digit
    · rintro rfl
      cases digit

theorem length_writeInt_pos (n : Int) : 0 < (writeInt n).length := by
  obtain ⟨c, chars, written, -⟩ := writeInt_eq_cons n
  rw [written]
  exact Nat.succ_pos _

def NumberText.ofInt (n : Int) : NumberText := ⟨decide (n < 0), digitsOf n.natAbs, [], 0, true⟩

theorem NumberText.integer?_ofInt (n : Int) : (NumberText.ofInt n).integer? = some n := by
  simp only [integer?, ofInt, ofDigits_digitsOf, Bool.not_true, Bool.false_eq_true, if_false,
    decide_eq_true_eq]
  by_cases negative : n < 0
  · have nonzero : n.natAbs ≠ 0 := by omega
    rw [if_pos negative, if_neg nonzero]
    congr 1
    omega
  · rw [if_neg negative]
    congr 1
    omega

theorem readNumber_writeInt (n : Int) {rest : List Char} (ends : EndsNumber rest) :
    readNumber (writeInt n ++ rest) = some (.ofInt n, rest) := by
  have whole := readWhole_toDigits n.natAbs ends
  rw [writeInt_eq]
  split
  · next negative =>
    simp [readNumber, whole, readFraction_of_ends ends, readExponent_of_ends ends,
      NumberText.ofInt, negative]
  · next positive =>
    have unsigned : ∀ s, Nat.toDigits 10 n.natAbs ++ rest ≠ '-' :: s := by
      obtain ⟨c, digits, first, digit, -⟩ := exists_first_digit n.natAbs
      rw [first]
      rintro s ⟨⟩
      cases digit
    rw [readNumber]
    · simp [whole, readFraction_of_ends ends, readExponent_of_ends ends, NumberText.ofInt, positive]
    · exact unsigned

theorem readInt64_writeInt (n : Int64) {rest : List Char} (ends : EndsNumber rest) :
    readInt64 (writeInt n.toInt ++ rest) = some (n, rest) := by
  have inRange : -0x8000000000000000 ≤ n.toInt ∧ n.toInt < 0x8000000000000000 :=
    ⟨n.le_toInt, n.toInt_lt⟩
  simp only [readInt64, readNumber_writeInt n.toInt ends, Option.bind_eq_bind, Option.bind_some,
    NumberText.integer?_ofInt]
  rw [if_pos inRange, n.ofInt_toInt]
  rfl

theorem readByte_writeInt (b : UInt8) {rest : List Char} (ends : EndsNumber rest) :
    readByte (writeInt b.toNat ++ rest) = some (b, rest) := by
  have inRange : 0 ≤ (b.toNat : Int) ∧ (b.toNat : Int) < 256 :=
    ⟨Int.natCast_nonneg _, Int.ofNat_lt.mpr b.toNat_lt⟩
  have byte : b.toNat.toUInt8 = b := UInt8.ofNat_toNat
  simp only [readByte, readNumber_writeInt b.toNat ends, Option.bind_eq_bind, Option.bind_some,
    NumberText.integer?_ofInt]
  rw [if_pos inRange, Int.toNat_natCast, byte]
  rfl

end BulkDml.Json
