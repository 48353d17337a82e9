import BulkDml.Binary64.Basic

namespace BulkDml

structure Decimal where
  coefficient : Nat
  exponent : Int
deriving DecidableEq, Inhabited

namespace Decimal

inductive Tie where
  | away
  | even
deriving DecidableEq

def digitCount (n : Nat) : Nat :=
  if n = 0 then 0 else digitCount (n / 10) + 1
termination_by n
decreasing_by omega

def floorLog10 (num den : Nat) : Int :=
  if den ≤ num then (digitCount (num / den) : Int) - 1 else -(digitCount ((den - 1) / num) : Int)

/-- Bounds and value of the interval of reals that round to a positive number, in units of
`2^(exponent - 2)`. Below a power of two the gap is half as wide. The ends belong to the interval
if the significand is even. -/
structure Interval where
  low : Nat
  value : Nat
  high : Nat
  closed : Bool
  unit : Int
deriving DecidableEq

def Interval.ofBinary64 (x : Binary64) : Interval :=
  let m := x.significand
  { low := if m = Binary64.leadingBit ∧ x.exponentField > 1 then 4 * m - 1 else 4 * m - 2
    value := 4 * m
    high := 4 * m + 2
    closed := m % 2 = 0
    unit := x.exponent - 2 }

def scale (unit place : Int) : Nat × Nat :=
  (Nat.pow 10 (-place).toNat <<< unit.toNat, Nat.pow 10 place.toNat <<< (-unit).toNat)

def Interval.contains (i : Interval) (c : Nat) (place : Int) : Bool :=
  let (num, den) := scale i.unit place
  if i.closed then i.low * num ≤ c * den && c * den ≤ i.high * num
  else i.low * num < c * den && c * den < i.high * num

def Interval.onGrid? (i : Interval) (tie : Tie) (place : Int) : Option Nat :=
  let (num, den) := scale i.unit place
  let below := i.value * num / den
  let rest := i.value * num % den
  match i.contains below place, i.contains (below + 1) place with
  | true, true =>
    let up : Bool := match tie with
      | .away => den ≤ 2 * rest
      | .even => den < 2 * rest || (den == 2 * rest && below % 2 == 1)
    some (if up then below + 1 else below)
  | true, false => some below
  | false, true => some (below + 1)
  | false, false => none

def trim (d : Decimal) : Nat → Decimal
  | 0 => d
  | n + 1 =>
    if d.coefficient % 10 = 0 then trim ⟨d.coefficient / 10, d.exponent + 1⟩ n else d

/-- The shortest decimal that reads back as the magnitude of a finite nonzero number. Seventeen
digits always suffice. -/
def shortest (tie : Tie) (x : Binary64) : Decimal :=
  let i := Interval.ofBinary64 x
  let (num, den) := scale i.unit 0
  let top := floorLog10 (i.value * num) den
  let hit := (List.range 17).findSome? fun (n : Nat) =>
    let place := top - (n : Int)
    (i.onGrid? tie place).map (Decimal.mk · place)
  (hit.getD ⟨0, 0⟩).trim 17

end Decimal

end BulkDml
