import BulkDml.Decimal.Shortest

namespace BulkDml.Decimal

def digits (d : Decimal) : List Char := (toString d.coefficient).toList

def leading (d : Decimal) : Int := d.exponent + d.digits.length - 1

structure Layout where
  /-- Positional notation is used for leading exponents from here … -/
  least : Option Int
  /-- … up to, but not including, here. -/
  beyond : Option Int
  fractionAlways : Bool
  plus : Bool
  tie : Tie
deriving DecidableEq

def positional (fractionAlways : Bool) (d : Decimal) : List Char :=
  let ds := d.digits
  if d.exponent ≥ 0 then
    ds ++ List.replicate d.exponent.toNat '0' ++ (if fractionAlways then ['.', '0'] else [])
  else
    let places := (-d.exponent).toNat
    if ds.length > places then
      ds.take (ds.length - places) ++ '.' :: ds.drop (ds.length - places)
    else
      '0' :: '.' :: (List.replicate (places - ds.length) '0' ++ ds)

def scientific (plus : Bool) (d : Decimal) : List Char :=
  let mantissa := match d.digits with
    | [] => []
    | [digit] => [digit]
    | digit :: rest => digit :: '.' :: rest
  let sign := if d.leading < 0 then ['-'] else if plus then ['+'] else []
  mantissa ++ 'e' :: (sign ++ (toString d.leading.natAbs).toList)

def Layout.isPositional (l : Layout) (d : Decimal) : Bool :=
  l.least.all (· ≤ d.leading) && l.beyond.all (d.leading < ·)

def Layout.magnitude (l : Layout) (x : Binary64) : List Char :=
  let d := shortest l.tie x
  if l.isPositional d then positional l.fractionAlways d else scientific l.plus d

def Layout.finite (l : Layout) (x : Binary64) : List Char :=
  (if x.negative then ['-'] else []) ++
    if x.isZero then '0' :: (if l.fractionAlways then ['.', '0'] else []) else l.magnitude x

def Layout.text (l : Layout) (x : Binary64) : String :=
  if x.isNaN then "NaN"
  else if x.isInfinite then (if x.negative then "-inf" else "inf")
  else String.ofList (l.finite x)

def Layout.plain : Layout := ⟨none, none, false, false, .away⟩

def Layout.logged : Layout := ⟨some (-4), some 16, true, false, .away⟩

def Layout.json : Layout := ⟨some (-5), some 16, true, true, .even⟩

end BulkDml.Decimal
