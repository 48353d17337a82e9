import Mathlib.Tactic.Common
import BulkDml.Json.Text

namespace BulkDml

namespace Text

/-- Characters are no surrogates. -/
theorem toNat_valid (c : Char) : c.toNat < 0xD800 ∨ 0xDFFF < c.toNat ∧ c.toNat < 0x110000 :=
  c.valid

theorem encodePoint_toNat (c : Char) : encodePoint c.toNat = String.utf8EncodeChar c := by
  have valid := toNat_valid c
  have one : c.toNat < 0x80 ↔ c.val.toNat ≤ 127 := Nat.lt_succ_iff
  have two : c.toNat < 0x800 ↔ c.val.toNat ≤ 2047 := Nat.lt_succ_iff
  have three : c.toNat < 0x10000 ↔ c.val.toNat ≤ 65535 := Nat.lt_succ_iff
  have value : c.val.toNat = c.toNat := rfl
  simp only [encodePoint, String.utf8EncodeChar, one, two, three]
  rw [value]
  -- The first byte has room for the highest bits, so that no remainder cuts them.
  split
  · rfl
  · split
    · next two =>
      have first : 0xC0 + c.toNat / 64 = c.toNat / 64 % 32 + 192 := by omega
      rw [first, Nat.add_comm 0x80]
    · split
      · next three =>
        have first : 0xE0 + c.toNat / 4096 = c.toNat / 4096 % 16 + 224 := by omega
        rw [first, Nat.add_comm 0x80, Nat.add_comm 0x80]
      · next four =>
        have first : 0xF0 + c.toNat / 262144 = c.toNat / 262144 % 8 + 240 := by omega
        rw [first, Nat.add_comm 0x80, Nat.add_comm 0x80, Nat.add_comm 0x80]

theorem encode_toList (s : String) : encode s.toList = s.toUTF8.data.toList := by
  have bytes : s.toUTF8 = s.toList.utf8Encode := String.utf8Encode_toList.symm
  rw [bytes, List.utf8Encode, List.data_toByteArray]
  simp only [encode, encodePoint_toNat]

end Text

namespace Json

theorem hexValue?_hexDigit : ∀ n < 16, hexValue? (hexDigit n) = some n := by
  decide

theorem hex4?_hexDigit {n : Nat} (small : n < 256) :
    hex4? '0' '0' (hexDigit (n / 16)) (hexDigit (n % 16)) = some n := by
  have zero : hexValue? '0' = some 0 := by decide
  have high := hexValue?_hexDigit (n / 16) (by omega)
  have low := hexValue?_hexDigit (n % 16) (by omega)
  have whole : 16 * (n / 16) + n % 16 = n := Nat.div_add_mod n 16
  simp [hex4?, zero, high, low, whole]

/-- A one-letter escape is read as its character, and never taken for the start of a number. -/
theorem unescape?_shortEscape {c e : Char} (short : shortEscape? c = some e) :
    e ≠ 'u' ∧ unescape? e = some c.toNat := by
  unfold shortEscape? at short
  repeat' split at short
  -- Characters that are none of the listed ones have no such escape.
  rotate_right
  · cases short
  all_goals
    subst c
    cases short
    decide

theorem ne_of_shortEscape {c : Char} (long : shortEscape? c = none) : c ≠ '"' ∧ c ≠ '\\' := by
  constructor
  · rintro rfl
    exact absurd long (by decide)
  · rintro rfl
    exact absurd long (by decide)

section

variable (controls : Bool)

theorem readUnits_short {e : Char} {n : Nat} (letter : e ≠ 'u') (known : unescape? e = some n)
    (rest : List Char) :
    readUnits controls ('\\' :: e :: rest) =
      (readUnits controls rest).map fun (units, rest) => (n :: units, rest) := by
  rw [readUnits]
  · rw [known]
    cases readUnits controls rest <;> rfl
  · intro a b c d rest' numbered
    exact fun _ => letter numbered

theorem readUnits_numbered {a b c d : Char} {n : Nat} (known : hex4? a b c d = some n)
    (rest : List Char) :
    readUnits controls ('\\' :: 'u' :: a :: b :: c :: d :: rest) =
      (readUnits controls rest).map fun (units, rest) => (n :: units, rest) := by
  rw [readUnits, known]
  cases readUnits controls rest <;> rfl

theorem readUnits_plain {c : Char} (printed : 32 ≤ c.toNat) (unquoted : c ≠ '"')
    (unescaped : c ≠ '\\') (rest : List Char) :
    readUnits controls (c :: rest) =
      (readUnits controls rest).map fun (units, rest) => (c.toNat :: units, rest) := by
  have taken : ¬ ((c.toNat < 32 && !controls || c = '\\') = true) := by
    simp [unescaped, Nat.not_lt.mpr printed]
  rw [readUnits, if_neg taken]
  · cases readUnits controls rest <;> rfl
  · exact unquoted
  · intro a b c d rest' escaped
    exact fun _ => unescaped escaped
  · intro e rest' escaped
    exact fun _ => unescaped escaped

theorem readUnits_escapeChar (c : Char) (rest : List Char) :
    readUnits controls (escapeChar c ++ rest) =
      (readUnits controls rest).map fun (units, rest) => (c.toNat :: units, rest) := by
  unfold escapeChar
  cases short : shortEscape? c with
  | some e =>
    obtain ⟨letter, known⟩ := unescape?_shortEscape short
    exact readUnits_short controls letter known rest
  | none =>
    obtain ⟨unquoted, unescaped⟩ := ne_of_shortEscape short
    dsimp only
    split
    · next control =>
      exact readUnits_numbered controls (hex4?_hexDigit (by omega)) rest
    · next printed =>
      exact readUnits_plain controls (Nat.not_lt.mp printed) unquoted unescaped rest

theorem readUnits_written (s rest : List Char) :
    readUnits controls (s.flatMap escapeChar ++ '"' :: rest) = some (s.map Char.toNat, rest) := by
  induction s with
  | nil => rfl
  | cons c s ih =>
    rw [List.flatMap_cons, List.append_assoc, readUnits_escapeChar, ih]
    rfl

end

theorem combine_eq_self {units : List Nat} (lone : ∀ n ∈ units, isHighSurrogate n = false) :
    combine units = units := by
  induction units with
  | nil => rfl
  | cons n units ih =>
    obtain ⟨here, later⟩ := List.forall_mem_cons.mp lone
    cases units with
    | nil => rfl
    | cons m units => rw [combine, here, Bool.false_and, if_neg Bool.false_ne_true, ih later]

theorem isHighSurrogate_toNat (c : Char) : isHighSurrogate c.toNat = false := by
  have valid := Text.toNat_valid c
  simp only [isHighSurrogate, Bool.and_eq_false_iff, decide_eq_false_iff_not]
  omega

theorem combine_toNat (s : List Char) : combine (s.map Char.toNat) = s.map Char.toNat := by
  refine combine_eq_self fun n member => ?_
  obtain ⟨c, -, rfl⟩ := List.mem_map.mp member
  exact isHighSurrogate_toNat c

theorem characters?_toNat (s : List Char) : characters? (s.map Char.toNat) = some s := by
  unfold characters?
  induction s with
  | nil => rfl
  | cons c s ih =>
    have valid : c.toNat.isValidChar := c.valid
    rw [List.map_cons, List.mapM_cons, dif_pos valid, ih]
    rfl

theorem readString_writeString (s : String) (rest : List Char) :
    readString (writeString s ++ rest) = some (s, rest) := by
  have opened : writeString s ++ rest = '"' :: (s.toList.flatMap escapeChar ++ '"' :: rest) := by
    simp [writeString]
  simp [readString, opened, expect, readUnits_written, combine_toNat, characters?_toNat]

theorem readStringBytes_writeString (s : String) (rest : List Char) :
    readStringBytes (writeString s ++ rest) = some (s.toUTF8.data.toList, rest) := by
  have opened : writeString s ++ rest = '"' :: (s.toList.flatMap escapeChar ++ '"' :: rest) := by
    simp [writeString]
  rw [← Text.encode_toList]
  simp [readStringBytes, opened, expect, readUnits_written, combine_toNat, Text.encode,
    List.flatMap_map]

end Json

end BulkDml
