import BulkDml.Proofs.Json.Number
import BulkDml.Proofs.Json.Text

namespace BulkDml

namespace Json

def Reads {α : Type} (read : Reader α) (text : List Char) (value : α) : Prop :=
  ∀ rest, EndsNumber rest → read (skipSpace (text ++ rest)) = some (value, rest)

theorem skipSpace_cons {c : Char} (solid : isSpace c = false) (rest : List Char) :
    skipSpace (c :: rest) = c :: rest := by
  simp [skipSpace, solid]

theorem skipSpace_writeString (s : String) (rest : List Char) :
    skipSpace (writeString s ++ rest) = writeString s ++ rest :=
  skipSpace_cons (by decide) _

theorem skipSpace_writeInt (n : Int) (rest : List Char) :
    skipSpace (writeInt n ++ rest) = writeInt n ++ rest := by
  obtain ⟨c, chars, written, solid, -⟩ := writeInt_eq_cons n
  rw [written, List.cons_append, skipSpace_cons solid]

theorem reads_string (s : String) : Reads readString (writeString s) s := by
  intro rest _
  rw [skipSpace_writeString, readString_writeString]

theorem reads_int64 (n : Int64) : Reads readInt64 (writeInt n.toInt) n := by
  intro rest ends
  rw [skipSpace_writeInt, readInt64_writeInt n ends]

theorem reads_byte (b : UInt8) : Reads readByte (writeInt b.toNat) b := by
  intro rest ends
  rw [skipSpace_writeInt, readByte_writeInt b ends]

theorem reads_bool (b : Bool) : Reads readBool (if b then "true" else "false").toList b := by
  intro rest _
  cases b <;> rfl

def listed (bytes : List UInt8) : List Char :=
  List.intercalate [','] (bytes.map fun b => writeInt b.toNat)

theorem listed_singleton (b : UInt8) : listed [b] = writeInt b.toNat := by
  simp [listed]

theorem listed_cons_cons (b next : UInt8) (bytes : List UInt8) :
    listed (b :: next :: bytes) = writeInt b.toNat ++ ',' :: listed (next :: bytes) := by
  simp [listed, List.intercalate_cons_cons]

theorem listed_eq_cons (b : UInt8) (bytes : List UInt8) :
    ∃ c chars, listed (b :: bytes) = c :: chars ∧ isSpace c = false ∧ c ≠ ']' := by
  obtain ⟨c, chars, written, solid, unclosed⟩ := writeInt_eq_cons b.toNat
  cases bytes with
  | nil => exact ⟨c, chars, by rw [listed_singleton, written], solid, unclosed⟩
  | cons next bytes =>
    rw [listed_cons_cons, written]
    exact ⟨c, _, rfl, solid, unclosed⟩

/-- A list that is not empty is read if the fuel is no less than its text. -/
theorem readBytesFrom_listed (b : UInt8) (bytes : List UInt8) (rest : List Char) (fuel : Nat)
    (enough : (listed (b :: bytes)).length ≤ fuel) :
    readBytesFrom fuel (listed (b :: bytes) ++ ']' :: rest) = some (b :: bytes, rest) := by
  -- Each byte that is read takes a character or more from the text, so that the fuel lasts.
  induction bytes generalizing b fuel with
  | nil =>
    have positive := length_writeInt_pos b.toNat
    have read := reads_byte b (']' :: rest) (endsNumber_cons (by decide) rest)
    rw [listed_singleton] at enough ⊢
    obtain ⟨fuel, rfl⟩ : ∃ k, fuel = k + 1 := Nat.exists_eq_add_of_le' (by omega)
    rw [readBytesFrom, read]
    rfl
  | cons next bytes ih =>
    have read := reads_byte b (',' :: (listed (next :: bytes) ++ ']' :: rest))
      (endsNumber_cons (by decide) _)
    rw [listed_cons_cons] at enough ⊢
    rw [List.length_append, List.length_cons] at enough
    obtain ⟨fuel, rfl⟩ : ∃ k, fuel = k + 1 := Nat.exists_eq_add_of_le' (by omega)
    have later := ih next fuel (by omega)
    rw [List.append_assoc, List.cons_append, readBytesFrom, read]
    simp [skipSpace_cons (c := ',') (by decide), later]

theorem reads_bytes (bytes : List UInt8) : Reads readBytes (writeBytes bytes) bytes := by
  intro rest _
  have opened : writeBytes bytes ++ rest = '[' :: (listed bytes ++ ']' :: rest) := by
    simp [writeBytes, listed]
  rw [opened, skipSpace_cons (by decide)]
  cases bytes with
  | nil => rfl
  | cons b bytes =>
    obtain ⟨c, chars, written, solid, unclosed⟩ := listed_eq_cons b bytes
    have enough : (listed (b :: bytes)).length ≤ (listed (b :: bytes) ++ ']' :: rest).length := by
      simp
    have whole := readBytesFrom_listed b bytes rest _ enough
    rw [written, List.cons_append] at whole ⊢
    rw [readBytes, skipSpace_cons solid]
    split
    · next closed => exact absurd (List.cons.inj closed).1 unclosed
    · exact whole

/-- Bytes are also read from a string, as the UTF-8 form of its text. -/
theorem reads_stringBytes (s : String) :
    Reads readBytes (writeString s) s.toUTF8.data.toList := by
  intro rest _
  rw [skipSpace_writeString, ← readStringBytes_writeString]
  rfl

theorem readTagged_writeTagged {α : Type} (bare : String → Option α)
    {contents : String → Option (Reader α)} {name : String} {read : Reader α} {text : List Char}
    {value : α} (known : contents name = some read) (reads : Reads read text value) :
    readTagged bare contents (writeTagged name text) = some value := by
  have inner := reads ['}'] (endsNumber_cons (by decide) [])
  have named := reads_string name (':' :: (text ++ ['}'])) (endsNumber_cons (by decide) _)
  rw [readTagged, writeTagged, skipSpace_cons (by decide)]
  simp only [named, known, Option.bind_eq_bind, Option.bind_some]
  rw [skipSpace_cons (by decide)]
  simp only [expect, if_true, Option.bind_some, inner]
  rfl

theorem readTagged_writeString {α : Type} (bare : String → Option α)
    (contents : String → Option (Reader α)) (name : String) :
    readTagged bare contents (writeString name) = bare name := by
  have whole := skipSpace_writeString name []
  have named := readString_writeString name []
  rw [List.append_nil] at whole named
  rw [readTagged, whole]
  split
  · next opened => cases opened
  · rw [named]
    rfl

/-- The name and the contents can be told from a document. -/
theorem writeTagged_inj {name name' : String} {text text' : List Char} :
    writeTagged name text = writeTagged name' text' ↔ name = name' ∧ text = text' := by
  constructor
  · intro same
    have inner := (List.cons.inj same).2
    have first := readString_writeString name (':' :: (text ++ ['}']))
    rw [inner, readString_writeString] at first
    obtain ⟨rfl, rest⟩ := Prod.mk.inj (Option.some.inj first)
    exact ⟨rfl, List.append_cancel_right (List.cons.inj rest).2.symm⟩
  · rintro ⟨rfl, rfl⟩
    rfl

end Json

namespace Value

open Json

theorem reads_reading {α : Type} (f : α → Value) {read : Reader α} {text : List Char} {a : α}
    (reads : Reads read text a) : Reads (reading f read) text (f a) := by
  intro rest ends
  rw [reading, reads rest ends]
  rfl

theorem ofJson?_writeTagged {name : String} {read : Reader Value} {text : List Char} {v : Value}
    (known : readContents name = some read) (reads : Reads read text v) :
    ofJson? (writeTagged name text) = some v :=
  readTagged_writeTagged _ known reads

theorem ofJson?_toJson {v : Value} (notReal : ∀ x, v ≠ real x) : ofJson? v.toJson = some v := by
  cases v with
  | null => exact readTagged_writeString _ _ _
  | integer n => exact ofJson?_writeTagged rfl (reads_reading integer (reads_int64 n))
  | real x => exact absurd rfl (notReal x)
  | text s => exact ofJson?_writeTagged rfl (reads_reading text (reads_string s))
  | bool b => exact ofJson?_writeTagged rfl (reads_reading bool (reads_bool b))
  | blob bytes => exact ofJson?_writeTagged rfl (reads_reading blob (reads_bytes bytes))
  | timestamp ms => exact ofJson?_writeTagged rfl (reads_reading timestamp (reads_int64 ms))

/-- What is written of a real has the name of reals. -/
theorem toJson_ne_real {v : Value} (notReal : ∀ x, v ≠ real x) (x : Binary64) :
    (real x).toJson ≠ v.toJson := by
  intro same
  cases v with
  | null => cases same
  | real y => exact notReal y rfl
  | _ => exact absurd (writeTagged_inj.mp same).1 (by decide)

theorem eq_of_toJson_eq {v w : Value} (notReal : ∀ x, v ≠ real x) (same : w.toJson = v.toJson) :
    w = v := by
  by_cases inexact : ∃ x, w = real x
  · obtain ⟨x, rfl⟩ := inexact
    exact absurd same (toJson_ne_real notReal x)
  · have read := ofJson?_toJson (not_exists.mp inexact)
    rw [same, ofJson?_toJson notReal] at read
    exact (Option.some.inj read).symm

/-- Documents that are read although nothing is written so: null as a name with contents, and bytes
as the text that they are the UTF-8 form of. -/
inductive SecondForm : Value → List Char → Prop where
  | null : SecondForm null (writeTagged "Null" "null".toList)
  | blob (s : String) :
    SecondForm (blob s.toUTF8.data.toList) (writeTagged "Blob" (writeString s))

theorem ofJson?_secondForm {v : Value} {text : List Char} (form : SecondForm v text) :
    ofJson? text = some v := by
  cases form with
  | null => exact ofJson?_writeTagged rfl fun _ _ => rfl
  | blob s => exact ofJson?_writeTagged rfl (reads_reading blob (reads_stringBytes s))

theorem toJson_ne_secondForm {v : Value} {text : List Char} (form : SecondForm v text)
    (w : Value) : w.toJson ≠ text := by
  intro same
  cases form with
  | null =>
    cases w with
    | null => cases same
    | _ => exact absurd (writeTagged_inj.mp same).1 (by decide)
  | blob s =>
    cases w with
    | null => cases same
    | blob bytes => cases (writeTagged_inj.mp same).2
    | _ => exact absurd (writeTagged_inj.mp same).1 (by decide)

/-- A value that is no real is read unchanged from its document, and no other value, be it a real,
has the same one. The second forms are read too, but are never written. -/
theorem toJson_readable :
    (∀ v : Value, (∀ x, v ≠ real x) →
      ofJson? v.toJson = some v ∧ ∀ w : Value, w.toJson = v.toJson → w = v) ∧
    ∀ (v : Value) (text : List Char), SecondForm v text →
      ofJson? text = some v ∧ ∀ w : Value, w.toJson ≠ text := by
  constructor
  · intro v notReal
    exact ⟨ofJson?_toJson notReal, fun _ same => eq_of_toJson_eq notReal same⟩
  · intro v text form
    exact ⟨ofJson?_secondForm form, toJson_ne_secondForm form⟩

theorem toJson_readable_escaped :
    (∀ x, text "\"\\\x01\n😀" ≠ real x) ∧
      ofJson? (text "\"\\\x01\n😀").toJson = some (text "\"\\\x01\n😀") ∧
      SecondForm (blob [0xC3, 0xA9]) (writeTagged "Blob" (writeString "é")) ∧
      ofJson? (writeTagged "Blob" (writeString "é")) = some (blob [0xC3, 0xA9]) := by
  have notReal : ∀ x, text "\"\\\x01\n😀" ≠ real x := by
    rintro x ⟨⟩
  have form : SecondForm (blob [0xC3, 0xA9]) (writeTagged "Blob" (writeString "é")) :=
    .blob "é"
  exact ⟨notReal, (toJson_readable.1 _ notReal).1, form, (toJson_readable.2 _ _ form).1⟩

end Value

end BulkDml
