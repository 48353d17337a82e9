import BulkDml.Binary64.Basic

namespace BulkDml.Binary64

def roundDiv (num den : Nat) : Nat :=
  let quotient := num / den
  let twice := 2 * (num % den)
  if twice > den ∨ (twice = den ∧ quotient % 2 = 1) then quotient + 1 else quotient

def floorLog2 (num den : Nat) : Int :=
  let guess : Int := (num.log2 : Int) - (den.log2 : Int)
  let reached :=
    if guess ≥ 0 then den <<< guess.toNat ≤ num else den ≤ num <<< (-guess).toNat
  if reached then guess else guess - 1

/-- Bits of the magnitude `num / den`, rounded to nearest. A significand that rounds up to the next
power of two carries into the exponent field by plain addition; from `2^1024` on the result is
infinite. -/
def magnitudeBits (num den : Nat) : Nat :=
  if num = 0 then 0
  else
    let scale := max (floorLog2 num den - 52) (-1074)
    let significand :=
      if scale ≥ 0 then roundDiv num (den <<< scale.toNat)
      else roundDiv (num <<< (-scale).toNat) den
    min ((scale + 1074).toNat * leadingBit + significand) 0x7ff0000000000000

def ofQuotient (sign : Bool) (num den : Nat) : Binary64 :=
  let magnitude : UInt64 := (magnitudeBits num den).toUInt64
  ⟨if sign then magnitude ||| 0x8000000000000000 else magnitude⟩

def ofInt (n : Int) : Binary64 := ofQuotient (n < 0) n.natAbs 1

def toQuotient (x : Binary64) : Nat × Nat :=
  if x.exponent ≥ 0 then (x.significand <<< x.exponent.toNat, 1)
  else (x.significand, 1 <<< (-x.exponent).toNat)

def mul (x y : Binary64) : Binary64 :=
  let (a, b) := x.toQuotient
  let (c, d) := y.toQuotient
  ofQuotient (x.negative != y.negative) (a * c) (b * d)

def div (x y : Binary64) : Binary64 :=
  let (a, b) := x.toQuotient
  let (c, d) := y.toQuotient
  ofQuotient (x.negative != y.negative) (a * d) (b * c)

end BulkDml.Binary64
