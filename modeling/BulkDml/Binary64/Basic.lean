
namespace BulkDml

structure Binary64 where
  bits : UInt64
deriving DecidableEq, Inhabited

namespace Binary64

def zero : Binary64 := ⟨0⟩

def negative (x : Binary64) : Bool := x.bits.toNat >>> 63 == 1

def exponentField (x : Binary64) : Nat := (x.bits.toNat >>> 52) % 2048

def leadingBit : Nat := 1 <<< 52

def fraction (x : Binary64) : Nat := x.bits.toNat % leadingBit

def isNaN (x : Binary64) : Bool := x.exponentField == 2047 && x.fraction != 0

def isInfinite (x : Binary64) : Bool := x.exponentField == 2047 && x.fraction == 0

def isFinite (x : Binary64) : Bool := x.exponentField != 2047

def significand (x : Binary64) : Nat :=
  if x.exponentField = 0 then x.fraction else leadingBit + x.fraction

def exponent (x : Binary64) : Int :=
  if x.exponentField = 0 then -1074 else (x.exponentField : Int) - 1075

def isZero (x : Binary64) : Bool := x.exponentField == 0 && x.fraction == 0

def neg (x : Binary64) : Binary64 := ⟨x.bits ^^^ 0x8000000000000000⟩

def infinity (sign : Bool) : Binary64 :=
  ⟨if sign then 0xfff0000000000000 else 0x7ff0000000000000⟩

def units (x : Binary64) : Int :=
  let magnitude := x.significand <<< (x.exponent + 1074).toNat
  if x.negative then -(magnitude : Int) else magnitude

def unitsOfOne : Nat := 1 <<< 1074

def unitsBeyond : Nat := 1 <<< 2200

def rank (x : Binary64) : Int :=
  if x.isInfinite then (if x.negative then -(unitsBeyond : Int) else unitsBeyond) else x.units

def compare? (x y : Binary64) : Option Ordering :=
  if x.isNaN || y.isNaN then none else some (compare x.rank y.rank)

def numEq (x y : Binary64) : Bool := x.compare? y == some .eq

end Binary64

end BulkDml
