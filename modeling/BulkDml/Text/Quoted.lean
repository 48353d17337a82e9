import BulkDml.Text.Unprintable

namespace BulkDml.Text

def hexDigits (n : Nat) : List Char := Nat.toDigits 16 n

def shortEscape? (c : Char) : Option Char :=
  if c = '"' then some '"'
  else if c = '\\' then some '\\'
  else if c = '\n' then some 'n'
  else if c = '\r' then some 'r'
  else if c = '\t' then some 't'
  else if c = '\x00' then some '0'
  else none

def quoteChar (c : Char) : List Char :=
  match shortEscape? c with
  | some e => ['\\', e]
  | none =>
    if isUnprintable c then '\\' :: 'u' :: '{' :: (hexDigits c.toNat ++ ['}']) else [c]

def quoteText (s : String) : String :=
  String.ofList ('"' :: (s.toList.flatMap quoteChar ++ ['"']))

def quoteByte (b : UInt8) : List Char :=
  let c := Char.ofNat b.toNat
  match shortEscape? c with
  | some e => ['\\', e]
  | none =>
    if 32 ≤ b.toNat ∧ b.toNat < 127 then [c]
    else '\\' :: 'x' :: (if b.toNat < 16 then '0' :: hexDigits b.toNat else hexDigits b.toNat)

def quoteBytes (bytes : List UInt8) : String :=
  String.ofList ('b' :: '"' :: (bytes.flatMap quoteByte ++ ['"']))

end BulkDml.Text
