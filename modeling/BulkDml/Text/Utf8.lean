
namespace BulkDml.Text

/-- The bytes of a code point. Surrogates, which are no characters, have three bytes like their
neighbours. -/
def encodePoint (n : Nat) : List UInt8 :=
  if n < 0x80 then [n.toUInt8]
  else if n < 0x800 then [(0xC0 + n / 64).toUInt8, (0x80 + n % 64).toUInt8]
  else if n < 0x10000 then
    [(0xE0 + n / 4096).toUInt8, (0x80 + n / 64 % 64).toUInt8, (0x80 + n % 64).toUInt8]
  else
    [(0xF0 + n / 262144).toUInt8, (0x80 + n / 4096 % 64).toUInt8, (0x80 + n / 64 % 64).toUInt8,
      (0x80 + n % 64).toUInt8]

def encode (s : List Char) : List UInt8 := s.flatMap (encodePoint ·.toNat)

def replacement : Char := '\uFFFD'

/-- Between two bytes: at a character boundary, or inside a sequence of which `missing` bytes are
still to come, the next of them between `low` and `high`. -/
inductive DecoderState where
  | boundary
  | inside (missing low high bits : Nat)
deriving DecidableEq

/-- A byte at a character boundary. The bounds on the second byte exclude overlong forms,
surrogates and code points beyond the last. -/
def decodeFirst (b : Nat) : List Char × DecoderState :=
  if b < 0x80 then ([Char.ofNat b], .boundary)
  else if 0xC2 ≤ b ∧ b ≤ 0xDF then ([], .inside 1 0x80 0xBF (b - 0xC0))
  else if b = 0xE0 then ([], .inside 2 0xA0 0xBF 0)
  else if b = 0xED then ([], .inside 2 0x80 0x9F 13)
  else if 0xE1 ≤ b ∧ b ≤ 0xEF then ([], .inside 2 0x80 0xBF (b - 0xE0))
  else if b = 0xF0 then ([], .inside 3 0x90 0xBF 0)
  else if b = 0xF4 then ([], .inside 3 0x80 0x8F 4)
  else if 0xF1 ≤ b ∧ b ≤ 0xF3 then ([], .inside 3 0x80 0xBF (b - 0xF0))
  else ([replacement], .boundary)

def decodeStep : DecoderState → Nat → List Char × DecoderState
  | .boundary, b => decodeFirst b
  | .inside missing low high bits, b =>
    if low ≤ b ∧ b ≤ high then
      if missing ≤ 1 then ([Char.ofNat (bits * 64 + b % 64)], .boundary)
      else ([], .inside (missing - 1) 0x80 0xBF (bits * 64 + b % 64))
    else
      let (out, next) := decodeFirst b
      (replacement :: out, next)

def decodeFrom : DecoderState → List UInt8 → List Char
  | .boundary, [] => []
  | .inside .., [] => [replacement]
  | state, b :: rest =>
    let (out, next) := decodeStep state b.toNat
    out ++ decodeFrom next rest

/-- Each longest prefix of a well-formed sequence that breaks off becomes one replacement character,
and so does each byte that starts no sequence. -/
def decodeLossy (bytes : List UInt8) : String := String.ofList (decodeFrom .boundary bytes)

end BulkDml.Text
