import BulkDml.Text.Utf8
import BulkDml.Text.Quoted

namespace BulkDml.Json

abbrev Reader (α : Type) := List Char → Option (α × List Char)

def isSpace (c : Char) : Bool := c == ' ' || c == '\n' || c == '\t' || c == '\r'

def skipSpace (s : List Char) : List Char := s.dropWhile isSpace

def expect (c : Char) : List Char → Option (List Char)
  | d :: rest => if d = c then some rest else none
  | [] => none

def shortEscape? (c : Char) : Option Char :=
  if c = '"' then some '"'
  else if c = '\\' then some '\\'
  else if c = '\x08' then some 'b'
  else if c = '\x0c' then some 'f'
  else if c = '\n' then some 'n'
  else if c = '\r' then some 'r'
  else if c = '\t' then some 't'
  else none

def hexDigit (n : Nat) : Char := if n < 10 then Char.ofNat (48 + n) else Char.ofNat (87 + n)

def escapeChar (c : Char) : List Char :=
  match shortEscape? c with
  | some e => ['\\', e]
  | none =>
    if c.toNat < 32 then ['\\', 'u', '0', '0', hexDigit (c.toNat / 16), hexDigit (c.toNat % 16)]
    else [c]

def writeString (s : String) : List Char := '"' :: (s.toList.flatMap escapeChar ++ ['"'])

def hexValue? (c : Char) : Option Nat :=
  if '0' ≤ c ∧ c ≤ '9' then some (c.toNat - 48)
  else if 'a' ≤ c ∧ c ≤ 'f' then some (c.toNat - 87)
  else if 'A' ≤ c ∧ c ≤ 'F' then some (c.toNat - 55)
  else none

def unescape? (c : Char) : Option Nat :=
  if c = '"' ∨ c = '\\' ∨ c = '/' then some c.toNat
  else if c = 'b' then some 8
  else if c = 'f' then some 12
  else if c = 'n' then some 10
  else if c = 'r' then some 13
  else if c = 't' then some 9
  else none

def hex4? (a b c d : Char) : Option Nat := do
  return 4096 * (← hexValue? a) + 256 * (← hexValue? b) + 16 * (← hexValue? c) + (← hexValue? d)

/-- The numbers of a string's characters and escapes up to the closing quote, after an opening one.
Raw controls are taken only if `controls` is set. -/
def readUnits (controls : Bool) : Reader (List Nat)
  | [] => none
  | '"' :: rest => some ([], rest)
  | '\\' :: 'u' :: a :: b :: c :: d :: rest => do
    let n ← hex4? a b c d
    let (units, rest) ← readUnits controls rest
    return (n :: units, rest)
  | '\\' :: e :: rest => do
    let n ← unescape? e
    let (units, rest) ← readUnits controls rest
    return (n :: units, rest)
  | c :: rest =>
    if c.toNat < 32 && !controls || c = '\\' then none
    else do
      let (units, rest) ← readUnits controls rest
      return (c.toNat :: units, rest)

def isHighSurrogate (n : Nat) : Bool := 0xD800 ≤ n && n ≤ 0xDBFF

def isLowSurrogate (n : Nat) : Bool := 0xDC00 ≤ n && n ≤ 0xDFFF

def combine : List Nat → List Nat
  | high :: low :: rest =>
    if isHighSurrogate high && isLowSurrogate low then
      (0x10000 + (high - 0xD800) * 1024 + (low - 0xDC00)) :: combine rest
    else high :: combine (low :: rest)
  | units => units

def characters? (points : List Nat) : Option (List Char) :=
  points.mapM fun n => if h : n.isValidChar then some (Char.ofNatAux n h) else none

def readString : Reader String := fun s => do
  let (units, rest) ← readUnits false (← expect '"' s)
  return (String.ofList (← characters? (combine units)), rest)

def readStringBytes : Reader (List UInt8) := fun s => do
  let (units, rest) ← readUnits true (← expect '"' s)
  return ((combine units).flatMap Text.encodePoint, rest)

end BulkDml.Json
