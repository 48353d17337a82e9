import BulkDml.Json.Text
import BulkDml.Binary64.Rounding

namespace BulkDml.Json

structure NumberText where
  negative : Bool
  whole : List Nat
  fraction : List Nat
  exponent : Int
  /-- Neither fraction nor exponent were written. -/
  integral : Bool
deriving DecidableEq

def readDigits (s : List Char) : List Nat × List Char :=
  ((s.takeWhile Char.isDigit).map fun c => c.toNat - 48, s.dropWhile Char.isDigit)

def ofDigits (digits : List Nat) : Nat := digits.foldl (fun n d => 10 * n + d) 0

def readWhole (s : List Char) : Option (List Nat × List Char) :=
  match readDigits s with
  | ([], _) => none
  | ([0], rest) => some ([0], rest)
  | (0 :: _, _) => none
  | (digits, rest) => some (digits, rest)

def readFraction : List Char → Option (List Nat × List Char)
  | '.' :: rest =>
    match readDigits rest with
    | ([], _) => none
    | (digits, rest) => some (digits, rest)
  | s => some ([], s)

def readExponentDigits (sign : Int) (s : List Char) : Option (Int × List Char) :=
  match readDigits s with
  | ([], _) => none
  | (digits, rest) => some (sign * ofDigits digits, rest)

def readExponent : List Char → Option (Int × List Char)
  | c :: rest =>
    if c = 'e' ∨ c = 'E' then
      match rest with
      | '+' :: rest => readExponentDigits 1 rest
      | '-' :: rest => readExponentDigits (-1) rest
      | rest => readExponentDigits 1 rest
    else some (0, c :: rest)
  | [] => some (0, [])

def readNumber : Reader NumberText := fun s => do
  let (negative, s) := match s with
    | '-' :: rest => (true, rest)
    | s => (false, s)
  let (whole, afterWhole) ← readWhole s
  let (fraction, afterFraction) ← readFraction afterWhole
  let (exponent, rest) ← readExponent afterFraction
  return (⟨negative, whole, fraction, exponent, rest.length == afterWhole.length⟩, rest)

def NumberText.integer? (n : NumberText) : Option Int :=
  if !n.integral then none
  else
    let magnitude := ofDigits n.whole
    if n.negative then (if magnitude = 0 then none else some (-(magnitude : Int)))
    else some magnitude

def readInt64 : Reader Int64 := fun s => do
  let (number, rest) ← readNumber s
  let n ← number.integer?
  if -0x8000000000000000 ≤ n ∧ n < 0x8000000000000000 then return (Int64.ofInt n, rest) else none

def readByte : Reader UInt8 := fun s => do
  let (number, rest) ← readNumber s
  let n ← number.integer?
  if 0 ≤ n ∧ n < 256 then return (n.toNat.toUInt8, rest) else none

/-- The integer of 64 bits that a number starts with, and the power of ten that scales it. -/
structure Scaled where
  significand : Nat
  exponent : Int
deriving DecidableEq

def fits (significand digit : Nat) : Bool := 10 * significand + digit < 0x10000000000000000

def Scaled.addWhole (s : Scaled) (digit : Nat) : Scaled :=
  if s.exponent = 0 && fits s.significand digit then ⟨10 * s.significand + digit, 0⟩
  else ⟨s.significand, s.exponent + 1⟩

def Scaled.addFraction (s : Scaled) : List Nat → Scaled
  | [] => s
  | digit :: rest =>
    if fits s.significand digit then
      addFraction ⟨10 * s.significand + digit, s.exponent - 1⟩ rest
    else s

def NumberText.scaled (n : NumberText) : Scaled :=
  let s := (n.whole.foldl Scaled.addWhole ⟨0, 0⟩).addFraction n.fraction
  { s with exponent := s.exponent + n.exponent }

def powerOfTen (n : Nat) : Binary64 := Binary64.ofInt (Nat.pow 10 n)

def scaleDown (x : Binary64) (n : Nat) : Binary64 :=
  if n ≤ 308 then x.div (powerOfTen n)
  else if x.isZero then x
  else scaleDown (x.div (powerOfTen 308)) (n - 308)
termination_by n
decreasing_by omega

def scaleUp? (x : Binary64) (n : Nat) : Option Binary64 :=
  if x.isZero then some x
  else if n ≤ 308 then
    let y := x.mul (powerOfTen n)
    if y.isInfinite then none else some y
  else none

def NumberText.real? (n : NumberText) : Option Binary64 := do
  let s := n.scaled
  let x := Binary64.ofInt s.significand
  let magnitude ← if s.exponent ≥ 0 then scaleUp? x s.exponent.toNat
    else some (scaleDown x (-s.exponent).toNat)
  return if n.negative then magnitude.neg else magnitude

def readReal : Reader Binary64 := fun s => do
  let (number, rest) ← readNumber s
  return (← number.real?, rest)

end BulkDml.Json
