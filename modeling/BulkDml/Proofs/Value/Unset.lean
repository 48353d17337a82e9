import Mathlib.Tactic.Common
import BulkDml.ColumnType

namespace BulkDml

namespace Binary64

theorem isZero_iff (x : Binary64) : x.isZero = true ↔ x.bits.toNat % 0x8000000000000000 = 0 := by
  simp only [isZero, exponentField, fraction, leadingBit, Bool.and_eq_true, beq_iff_eq,
    Nat.shiftRight_eq_div_pow, Nat.shiftLeft_eq]
  omega

theorem rank_eq_zero_iff (x : Binary64) : x.rank = 0 ↔ x.isZero = true := by
  have units : x.units = 0 ↔ x.significand = 0 := by
    unfold Binary64.units
    dsimp only
    split
    · rw [Int.neg_eq_zero, Int.natCast_eq_zero, Nat.shiftLeft_eq_zero_iff]
    · rw [Int.natCast_eq_zero, Nat.shiftLeft_eq_zero_iff]
  have significand : x.significand = 0 ↔ x.isZero = true := by
    unfold Binary64.significand isZero
    split
    · next zero => simp [zero]
    · next nonzero =>
      have leading : leadingBit ≠ 0 := by decide
      simp [nonzero, leading]
  have finite : x.isZero = true → x.isInfinite = false := by
    unfold isZero isInfinite
    simp only [Bool.and_eq_true, beq_iff_eq]
    intro zero
    simp [zero.1]
  unfold rank
  split
  · next infinite =>
    have beyond : unitsBeyond ≠ 0 := by decide
    refine iff_of_false ?_ fun zero => ?_
    · split <;> simp [beyond]
    · rw [finite zero] at infinite
      cases infinite
  · rw [units, significand]

theorem numEq_zero_iff (x : Binary64) : x.numEq zero = true ↔ x.isZero = true := by
  have zeroRank : zero.rank = 0 := by decide
  have zeroNumber : zero.isNaN = false := by decide
  have number : x.isZero = true → x.isNaN = false := by
    unfold isZero isNaN
    simp only [Bool.and_eq_true, beq_iff_eq]
    intro isZero
    simp [isZero.1]
  unfold numEq compare?
  rw [zeroNumber, zeroRank, Bool.or_false]
  split
  · next notNumber =>
    refine iff_of_false (by simp) fun isZero => ?_
    rw [number isZero] at notNumber
    cases notNumber
  · rw [beq_iff_eq, Option.some_inj, Int.compare_eq_eq, rank_eq_zero_iff]

theorem magnitudeBits_range {num : Nat} (positive : 0 < num) :
    0 < magnitudeBits num 1 ∧ magnitudeBits num 1 ≤ 0x7ff0000000000000 := by
  have logarithm : -1 ≤ floorLog2 num 1 := by
    have one : Nat.log2 1 = 0 := by decide
    simp only [floorLog2, one]
    split <;> omega
  unfold magnitudeBits
  rw [if_neg (Nat.ne_of_gt positive)]
  have scaled : 0 < (max (floorLog2 num 1 - 52) (-1074) + 1074).toNat * leadingBit :=
    Nat.mul_pos (by omega) (by decide)
  exact ⟨Nat.lt_min.mpr ⟨Nat.add_pos_left scaled _, by decide⟩, Nat.min_le_right _ _⟩

/-- The sign of a number stands above its magnitude. -/
theorem magnitude_of_sign {w : Nat} (bounded : w ≤ 0x7ff0000000000000) (sign : Bool) :
    (if sign then w.toUInt64 ||| 0x8000000000000000 else w.toUInt64).toNat % 0x8000000000000000 =
      w := by
  have word : w.toUInt64.toNat = w := Nat.mod_eq_of_lt (by omega)
  cases sign with
  | false =>
    rw [if_neg Bool.false_ne_true, word]
    omega
  | true =>
    have sum : w ||| 0x8000000000000000 = w + 0x8000000000000000 := by
      have apart : 0x8000000000000000 + w = 0x8000000000000000 ||| w :=
        Nat.two_pow_add_eq_or_of_lt (i := 63) (by omega) 1
      rw [Nat.or_comm, ← apart, Nat.add_comm]
    rw [if_pos rfl, UInt64.toNat_or, word]
    change (w ||| 0x8000000000000000) % _ = w
    omega

/-- Rounding takes no integer to zero, but for zero itself. -/
theorem isZero_ofInt (n : Int) : (ofInt n).isZero = true ↔ n = 0 := by
  constructor
  · intro zero
    by_contra nonzero
    obtain ⟨positive, bounded⟩ := magnitudeBits_range (Int.natAbs_pos.mpr nonzero)
    have magnitude := magnitude_of_sign bounded (n < 0)
    rw [isZero_iff] at zero
    change (ofInt n).bits.toNat % _ = _ at magnitude
    omega
  · rintro rfl
    decide

end Binary64

namespace ColumnType

inductive Unset : ColumnType → Value → Prop where
  | null {t : ColumnType} : Unset t .null
  | integer : Unset .integer (.integer 0)
  | falseInteger : Unset .integer (.bool false)
  | real {x : Binary64} (zero : x.isZero = true) : Unset .real (.real x)
  | integerReal : Unset .real (.integer 0)
  | bool : Unset .bool (.bool false)
  | integerBool : Unset .bool (.integer 0)

theorem isUnset_iff {t : ColumnType} {v : Value} (accepted : t.accepts v = true) :
    t.isUnset v = true ↔ t.Unset v := by
  constructor
  · intro unset
    cases v with
    | null => exact .null
    | integer n =>
      cases t with
      | integer =>
        obtain rfl : n = 0 := by simpa [isUnset, Value.isNull, Value.asInteger?] using unset
        exact .integer
      | real =>
        have zero : n.toInt = 0 := by
          simpa [isUnset, Value.isNull, Value.asReal?, Binary64.numEq_zero_iff,
            Binary64.isZero_ofInt] using unset
        obtain rfl : n = 0 := Int64.toInt_inj.mp zero
        exact .integerReal
      | bool =>
        obtain rfl : n = 0 := by simpa [isUnset, Value.isNull] using unset
        exact .integerBool
      | timestamp => cases unset
      | _ => cases accepted
    | real x =>
      cases t with
      | real =>
        refine .real ?_
        simpa [isUnset, Value.isNull, Value.asReal?, Binary64.numEq_zero_iff] using unset
      | _ => cases accepted
    | bool b =>
      cases b with
      | false =>
        cases t with
        | integer => exact .falseInteger
        | bool => exact .bool
        | _ => cases accepted
      | true =>
        cases t with
        | integer => cases unset
        | bool => cases unset
        | _ => cases accepted
    | text s =>
      cases t with
      | text => cases unset
      | _ => cases accepted
    | blob bytes =>
      cases t with
      | blob => cases unset
      | _ => cases accepted
    | timestamp ms =>
      cases t with
      | timestamp => cases unset
      | _ => cases accepted
  · intro unset
    cases unset with
    | real zero =>
      simpa [isUnset, Value.isNull, Value.asReal?, Binary64.numEq_zero_iff] using zero
    | integerReal => decide
    | _ => rfl

theorem accepts_default (t : ColumnType) : t.accepts t.default = true := by
  cases t <;> rfl

end ColumnType

end BulkDml
