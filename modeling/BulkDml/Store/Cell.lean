import BulkDml.Clause.Truth
import BulkDml.Assignment.Expr
import BulkDml.Decimal.Layout
import BulkDml.Text.Utf8

namespace BulkDml.Store

/-- The embedded database has no booleans, timestamps or NaNs. -/
def stored : Value → Value
  | .bool b => .integer (if b then 1 else 0)
  | .timestamp ms => .integer ms
  | .real x => if x.isNaN then .null else .real x
  | v => v

def readInteger? (s : String) : Option Int :=
  let natural? (digits : List Char) : Option Nat :=
    if digits ≠ [] ∧ digits.all Char.isDigit then
      some (digits.foldl (fun n c => 10 * n + (c.toNat - '0'.toNat)) 0)
    else none
  match s.toList with
  | '-' :: digits => (natural? digits).map fun n => -(n : Int)
  | digits => (natural? digits).map Int.ofNat

def int64? (n : Int) : Option Int64 :=
  if -0x8000000000000000 ≤ n ∧ n < 0x8000000000000000 then some (Int64.ofInt n) else none

/-- Text that writes an integer counts as that integer where a key is involved. -/
def numeric : Value → Value
  | .text s => ((readInteger? s).bind int64?).elim (.text s) .integer
  | v => v

def keyOf? (v : Value) : Option Int64 :=
  match numeric v with
  | .integer n => some n
  | .real x =>
    if x.isFinite ∧ x.units % Binary64.unitsOfOne = 0 then int64? (x.units / Binary64.unitsOfOne)
    else none
  | _ => none

def scaled? : Value → Option Int
  | .integer n => some (n.toInt * Binary64.unitsOfOne)
  | .real x => some x.rank
  | _ => none

def storageClass : Value → Nat
  | .null => 0
  | .text _ => 2
  | .blob _ => 3
  | _ => 1

def compareCells (v w : Value) : Ordering :=
  match scaled? v, scaled? w, v, w with
  | some a, some b, _, _ => compare a b
  | _, _, .text s, .text t => compare s t
  | _, _, .blob a, .blob b => List.compareLex compare a b
  | _, _, v, w => compare (storageClass v) (storageClass w)

def textOf : Value → String
  | .integer n => toString n.toInt
  | .real x => Decimal.Layout.logged.text x
  | .text s => s
  | .blob bytes => Text.decodeLossy bytes
  | _ => ""

/-- Arithmetic is on integers; what gives no integer of 64 bits gives null. -/
def arithmetic (op : ArithmeticOp) (a b : Int) : Value :=
  let result? : Option Int := match op with
    | .add => some (a + b)
    | .sub => some (a - b)
    | .mul => some (a * b)
    | .div => if b = 0 then none else some (Int.tdiv a b)
    | .concat => none
  (result?.bind int64?).elim .null .integer

def combine (op : ArithmeticOp) (v w : Value) : Value :=
  if v.isNull || w.isNull then .null
  else if op = .concat then .text (textOf v ++ textOf w)
  else match numeric v, numeric w with
    | .integer a, .integer b => arithmetic op a.toInt b.toInt
    | _, _ => .null

end BulkDml.Store
