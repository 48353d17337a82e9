import BulkDml.Binary64.Rounding

namespace BulkDml

inductive Value where
  | null
  | integer (n : Int64)
  | real (x : Binary64)
  | text (s : String)
  | bool (b : Bool)
  | blob (bytes : List UInt8)
  | timestamp (ms : Int64)
deriving DecidableEq, Inhabited

namespace Value

def isNull : Value → Bool
  | null => true
  | _ => false

def asInteger? : Value → Option Int64
  | integer n => some n
  | timestamp ms => some ms
  | bool b => some (if b then 1 else 0)
  | _ => none

def asReal? : Value → Option Binary64
  | real x => some x
  | integer n => some (Binary64.ofInt n.toInt)
  | _ => none

def asText? : Value → Option String
  | text s => some s
  | _ => none

def typeName : Value → String
  | null => "null"
  | integer _ => "integer"
  | real _ => "real"
  | text _ => "text"
  | bool _ => "bool"
  | blob _ => "blob"
  | timestamp _ => "timestamp"

/-- Equality of values as a program compares them: reals by number, so that a NaN differs from
itself and the two zeros agree, and all else by identity. -/
def same : Value → Value → Bool
  | real x, real y => x.numEq y
  | real _, _ => false
  | _, real _ => false
  | v, w => v == w

def sameAll : List Value → List Value → Bool
  | [], [] => true
  | v :: vs, w :: ws => v.same w && sameAll vs ws
  | _, _ => false

end Value

class ToValue (α : Type) where
  toValue : α → Value

export ToValue (toValue)

instance : ToValue Value := ⟨id⟩
instance : ToValue Int64 := ⟨.integer⟩
instance : ToValue Int32 := ⟨fun n => .integer n.toInt64⟩
instance : ToValue UInt32 := ⟨fun n => .integer (Int64.ofNat n.toNat)⟩
instance : ToValue Binary64 := ⟨.real⟩
instance : ToValue Bool := ⟨.bool⟩
instance : ToValue String := ⟨.text⟩
instance : ToValue (List UInt8) := ⟨.blob⟩

instance {α : Type} [ToValue α] : ToValue (Option α) := ⟨fun v => v.elim .null toValue⟩

end BulkDml
