import BulkDml.Assignment.Value
import BulkDml.Proofs.Clause.Written

namespace BulkDml

def ArithmeticOp.all : List ArithmeticOp := [add, sub, mul, div, concat]

inductive WrittenValue where
  | null
  | integer (n : Int64)
  | bool (b : Bool)
  | param (v : Value)
  | column (name : String)
  | grouped (inner : WrittenValue)
  | call (left right : WrittenValue)
  | operation (left : WrittenValue) (op : ArithmeticOp) (right : WrittenValue)
deriving DecidableEq

namespace WrittenValue

open Written (text strip strip_text)

def integerText (n : Int64) : String := toString n.toInt

def boolText (b : Bool) : String := if b then "TRUE" else "FALSE"

def signText (op : ArithmeticOp) : String := " " ++ op.sql ++ " "

def tokens : WrittenValue → List Token
  | null => text "NULL"
  | integer n => text (integerText n)
  | bool b => text (boolText b)
  | param v => [.value v]
  | column name => [.name name]
  | grouped inner => text "(" ++ inner.tokens ++ text ")"
  | call left right => text "CONCAT(" ++ left.tokens ++ text ", " ++ right.tokens ++ text ")"
  | operation left op right => left.tokens ++ text (signText op) ++ right.tokens

def value : WrittenValue → AssignedValue
  | null => .literal .null
  | integer n => .literal (.integer n)
  | bool b => .literal (.bool b)
  | param v => .param v
  | column name => .column name
  | grouped inner => inner.value
  | call left right => .binary left.value .concat right.value
  | operation left op right => .binary left.value op right.value

def readDigits : List Token → List Char × List Token
  | .mark c :: rest =>
    if c.isDigit then (c :: (readDigits rest).1, (readDigits rest).2) else ([], .mark c :: rest)
  | tokens => ([], tokens)

def readNatural (tokens : List Token) : Option (Nat × List Token) :=
  match readDigits tokens with
  | ([], _) => none
  | (digits, rest) => some (Nat.ofDigitChars 10 digits 0, rest)

def readInteger (tokens : List Token) : Option (WrittenValue × List Token) :=
  match strip "-" tokens with
  | some rest => (readNatural rest).map fun (n, rest) => (integer (Int64.ofInt (-n)), rest)
  | none => (readNatural tokens).map fun (n, rest) => (integer (Int64.ofInt n), rest)

def readConstant (tokens : List Token) : Option (WrittenValue × List Token) :=
  (strip "NULL" tokens).map (null, ·) <|> (strip (boolText true) tokens).map (bool true, ·) <|>
    (strip (boolText false) tokens).map (bool false, ·) <|> readInteger tokens

def readGroup (read : List Token → Option (WrittenValue × List Token)) (tokens : List Token) :
    Option (WrittenValue × List Token) := do
  let (inner, rest) ← read (← strip "(" tokens)
  return (grouped inner, ← strip ")" rest)

def readCall (read : List Token → Option (WrittenValue × List Token)) (tokens : List Token) :
    Option (WrittenValue × List Token) := do
  let (left, rest) ← read (← strip "CONCAT(" tokens)
  let (right, rest) ← read (← strip ", " rest)
  return (call left right, ← strip ")" rest)

def readOperand (read : List Token → Option (WrittenValue × List Token)) :
    List Token → Option (WrittenValue × List Token)
  | .value v :: rest => some (param v, rest)
  | .name s :: rest => some (column s, rest)
  | tokens => readGroup read tokens <|> readCall read tokens <|> readConstant tokens

def readSign (tokens : List Token) : Option (ArithmeticOp × List Token) :=
  ArithmeticOp.all.findSome? fun op => (strip (signText op) tokens).map (op, ·)

/-- A chain with one more operator and operand. An operator that binds closer takes the last operand
of the chain away from the one before; operators that bind alike group to the left. -/
def attach (closeness : ArithmeticOp → Nat) :
    WrittenValue → ArithmeticOp → WrittenValue → WrittenValue
  | operation left before last, op, right =>
    if closeness before < closeness op then operation left before (attach closeness last op right)
    else operation (operation left before last) op right
  | chain, op, right => operation chain op right

def readChain (closeness : ArithmeticOp → Nat)
    (readNext : List Token → Option (WrittenValue × List Token)) :
    Nat → WrittenValue → List Token → Option (WrittenValue × List Token)
  | 0, chain, tokens => some (chain, tokens)
  | fuel + 1, chain, tokens =>
    match readSign tokens with
    | some (op, rest) => do
      let (right, rest) ← readNext rest
      readChain closeness readNext fuel (attach closeness chain op right) rest
    | none => some (chain, tokens)

def read (closeness : ArithmeticOp → Nat) :
    Nat → List Token → Option (WrittenValue × List Token)
  | 0, _ => none
  | fuel + 1, tokens => do
    let (first, rest) ← readOperand (read closeness fuel) tokens
    readChain closeness (readOperand (read closeness fuel)) rest.length first rest

def Ends (rest : List Token) : Prop := ∀ c, rest.head? = some (.mark c) → c.isDigit = false

theorem ends_nil : Ends [] := by
  intro c found
  cases found

theorem ends_text {s : String} {c : Char} {chars : List Char} (spelled : s.toList = c :: chars)
    (letter : c.isDigit = false) (rest : List Token) : Ends (text s ++ rest) := by
  intro first at_
  rw [text, spelled] at at_
  cases at_
  exact letter

theorem readDigits_digits {digits : List Char} (all : ∀ c ∈ digits, c.isDigit = true)
    {rest : List Token} (ends : Ends rest) :
    readDigits (digits.map .mark ++ rest) = (digits, rest) := by
  induction digits with
  | nil =>
    cases rest with
    | nil => rfl
    | cons t rest =>
      cases t with
      | mark c =>
        have letter := ends c rfl
        simp [readDigits, letter]
      | _ => rfl
  | cons c digits ih =>
    obtain ⟨digit, later⟩ := List.forall_mem_cons.mp all
    simp [readDigits, digit, ih later]

theorem readNatural_toString (n : Nat) {rest : List Token} (ends : Ends rest) :
    readNatural (text (toString n) ++ rest) = some (n, rest) := by
  have digits : ∀ c ∈ Nat.toDigits 10 n, c.isDigit = true := fun c member =>
    Nat.isDigit_of_mem_toDigits (by decide) (by decide) member
  have spelled : text (toString n) = (Nat.toDigits 10 n).map .mark := by simp [text]
  have some : Nat.toDigits 10 n ≠ [] := Nat.toDigits_ne_nil
  rw [readNatural, spelled, readDigits_digits digits ends]
  split
  · next none => exact absurd (congrArg Prod.fst none) some
  · next found =>
    cases found
    simp

theorem strip_of_ne {s : String} {first c : Char} {chars : List Char}
    (spelled : s.toList = first :: chars) (apart : first ≠ c) (rest : List Token) :
    strip s (.mark c :: rest) = none := by
  have differs : (Token.mark first == Token.mark c) = false := by simpa using apart
  simp [strip, text, spelled, List.isPrefixOf?, differs]

theorem strip_digits {s : String} {first : Char} {chars : List Char}
    (spelled : s.toList = first :: chars) (letter : first.isDigit = false) (n : Nat)
    (rest : List Token) : strip s (text (toString n) ++ rest) = none := by
  obtain ⟨c, digits, head, digit, -⟩ := exists_first_digit n
  have apart : first ≠ c := by
    rintro rfl
    rw [digit] at letter
    cases letter
  have written : text (toString n) ++ rest = .mark c :: (digits.map .mark ++ rest) := by
    simp [text, head]
  rw [written]
  exact strip_of_ne spelled apart _

theorem integerText_eq (n : Int64) :
    (∃ k : Nat, n = Int64.ofInt k ∧ integerText n = toString k) ∨
      ∃ k : Nat, n = Int64.ofInt (-k) ∧ integerText n = "-" ++ toString k := by
  have whole : n = Int64.ofInt n.toInt := n.ofInt_toInt.symm
  unfold integerText
  cases sign : n.toInt with
  | ofNat k =>
    rw [sign] at whole
    exact .inl ⟨k, whole, rfl⟩
  | negSucc k =>
    rw [sign] at whole
    exact .inr ⟨k + 1, whole, rfl⟩

theorem integerText_eq_cons (n : Int64) : ∃ c chars, (integerText n).toList = c :: chars := by
  obtain ⟨k, -, written⟩ | ⟨k, -, written⟩ := integerText_eq n
  · obtain ⟨c, digits, head, -⟩ := exists_first_digit k
    exact ⟨c, digits, by simp [written, head]⟩
  · exact ⟨'-', (toString k).toList, by simp [written]⟩

theorem readInteger_integerText (n : Int64) {rest : List Token} (ends : Ends rest) :
    readInteger (text (integerText n) ++ rest) = some (integer n, rest) := by
  obtain ⟨k, rfl, spelled⟩ | ⟨k, rfl, spelled⟩ := integerText_eq n
  · rw [spelled, readInteger, strip_digits rfl (by decide), readNatural_toString k ends]
    rfl
  · have split : text ("-" ++ toString k) ++ rest = text "-" ++ (text (toString k) ++ rest) := by
      simp [text]
    rw [spelled, split, readInteger, strip_text]
    dsimp only
    rw [readNatural_toString k ends]
    rfl

theorem strip_integerText {s : String} {first : Char} {chars : List Char}
    (spelled : s.toList = first :: chars) (letter : first.isDigit = false) (unsigned : first ≠ '-')
    (n : Int64) (rest : List Token) : strip s (text (integerText n) ++ rest) = none := by
  obtain ⟨k, -, written⟩ | ⟨k, -, written⟩ := integerText_eq n
  · rw [written]
    exact strip_digits spelled letter k rest
  · have split : text ("-" ++ toString k) ++ rest = .mark '-' :: (text (toString k) ++ rest) := by
      simp [text]
    rw [written, split]
    exact strip_of_ne spelled unsigned _

variable {closeness : ArithmeticOp → Nat} {reader : List Token → Option (WrittenValue × List Token)}

theorem readOperand_text {s : String} {c : Char} {chars : List Char}
    (spelled : s.toList = c :: chars) (rest : List Token) :
    readOperand reader (text s ++ rest) =
      (readGroup reader (text s ++ rest) <|> readCall reader (text s ++ rest) <|>
        readConstant (text s ++ rest)) := by
  rw [text, spelled]
  rfl

theorem readOperand_integer (n : Int64) {rest : List Token} (ends : Ends rest) :
    readOperand reader ((integer n).tokens ++ rest) = some (integer n, rest) := by
  obtain ⟨c, chars, spelled⟩ := integerText_eq_cons n
  have notGroup := strip_integerText (s := "(") rfl (by decide) (by decide) n rest
  have notCall := strip_integerText (s := "CONCAT(") rfl (by decide) (by decide) n rest
  have notNull := strip_integerText (s := "NULL") rfl (by decide) (by decide) n rest
  have notTrue := strip_integerText (s := boolText true) rfl (by decide) (by decide) n rest
  have notFalse := strip_integerText (s := boolText false) rfl (by decide) (by decide) n rest
  rw [tokens, readOperand_text spelled, readGroup, notGroup, readCall, notCall, readConstant,
    notNull, notTrue, notFalse, readInteger_integerText n ends]
  rfl

theorem readOperand_grouped {inner : WrittenValue} {rest : List Token}
    (reads : reader (inner.tokens ++ (text ")" ++ rest)) = some (inner, text ")" ++ rest)) :
    readOperand reader ((grouped inner).tokens ++ rest) = some (grouped inner, rest) := by
  have opened : readGroup reader (text "(" ++ (inner.tokens ++ (text ")" ++ rest))) =
      some (grouped inner, rest) := by
    simp [readGroup, reads]
  rw [tokens, List.append_assoc, List.append_assoc, readOperand_text rfl, opened]
  rfl

theorem readOperand_call {left right : WrittenValue} {rest : List Token}
    (readsLeft : reader (left.tokens ++ (text ", " ++ (right.tokens ++ (text ")" ++ rest)))) =
      some (left, text ", " ++ (right.tokens ++ (text ")" ++ rest))))
    (readsRight : reader (right.tokens ++ (text ")" ++ rest)) = some (right, text ")" ++ rest)) :
    readOperand reader ((call left right).tokens ++ rest) = some (call left right, rest) := by
  have notGroup : ∀ more, strip "(" (text "CONCAT(" ++ more) = none := fun _ => rfl
  have called : readCall reader (text "CONCAT(" ++
      (left.tokens ++ (text ", " ++ (right.tokens ++ (text ")" ++ rest))))) =
        some (call left right, rest) := by
    simp [readCall, readsLeft, readsRight]
  simp only [tokens, List.append_assoc]
  rw [readOperand_text rfl, called, readGroup, notGroup]
  rfl

def isOperation : WrittenValue → Bool
  | operation .. => true
  | _ => false

/-- No operator stands next to another without parentheses in between. -/
def Fits : WrittenValue → Prop
  | grouped inner => inner.Fits
  | call left right => left.Fits ∧ right.Fits
  | operation left _ right =>
    left.isOperation = false ∧ right.isOperation = false ∧ left.Fits ∧ right.Fits
  | _ => True

theorem readSign_signText (op : ArithmeticOp) (rest : List Token) :
    readSign (text (signText op) ++ rest) = some (op, rest) := by
  cases op <;> rfl

theorem ends_signText (op : ArithmeticOp) (rest : List Token) :
    Ends (text (signText op) ++ rest) := by
  cases op <;> exact ends_text rfl (by decide) rest

theorem attach_operand {left : WrittenValue} (alone : left.isOperation = false) (op : ArithmeticOp)
    (right : WrittenValue) : attach closeness left op right = operation left op right := by
  cases left with
  | operation => cases alone
  | _ => rfl

theorem readChain_stops {rest : List Token} (stops : readSign rest = none) (fuel : Nat)
    (chain : WrittenValue) :
    readChain closeness reader fuel chain rest = some (chain, rest) := by
  cases fuel with
  | zero => rfl
  | succ fuel => rw [readChain, stops]

theorem read_operand {t : WrittenValue} {fuel : Nat} {rest : List Token}
    (reads : readOperand (read closeness fuel) (t.tokens ++ rest) = some (t, rest))
    (stops : readSign rest = none) :
    read closeness (fuel + 1) (t.tokens ++ rest) = some (t, rest) := by
  rw [read, reads]
  exact readChain_stops stops _ t

theorem read_operation {left right : WrittenValue} (op : ArithmeticOp)
    (alone : left.isOperation = false) {fuel : Nat} {rest : List Token}
    (readsLeft : readOperand (read closeness fuel)
      (left.tokens ++ (text (signText op) ++ (right.tokens ++ rest))) =
        some (left, text (signText op) ++ (right.tokens ++ rest)))
    (readsRight : readOperand (read closeness fuel) (right.tokens ++ rest) = some (right, rest))
    (stops : readSign rest = none) :
    read closeness (fuel + 1) ((operation left op right).tokens ++ rest) =
      some (operation left op right, rest) := by
  have sign : ∃ n, (text (signText op) ++ (right.tokens ++ rest)).length = n + 1 := by
    cases op <;> exact ⟨_, rfl⟩
  obtain ⟨n, length⟩ := sign
  rw [tokens, List.append_assoc, List.append_assoc, read, readsLeft]
  simp only [Option.bind_eq_bind, Option.bind_some, length]
  rw [readChain, readSign_signText]
  simp only [Option.bind_eq_bind, readsRight, Option.bind_some]
  rw [attach_operand alone]
  exact readChain_stops stops n _

structure Reads (closeness : ArithmeticOp → Nat) (t : WrittenValue) : Prop where
  operand : t.isOperation = false → ∀ {fuel : Nat} {rest : List Token}, t.tokens.length ≤ fuel →
    Ends rest → readOperand (read closeness fuel) (t.tokens ++ rest) = some (t, rest)
  whole : ∀ {fuel : Nat} {rest : List Token}, t.tokens.length < fuel → Ends rest →
    readSign rest = none → read closeness fuel (t.tokens ++ rest) = some (t, rest)

theorem Reads.of_operand {t : WrittenValue}
    (operand : ∀ {fuel : Nat} {rest : List Token}, t.tokens.length ≤ fuel → Ends rest →
      readOperand (read closeness fuel) (t.tokens ++ rest) = some (t, rest)) :
    Reads closeness t := by
  refine ⟨fun _ => operand, ?_⟩
  intro fuel rest enough ends stops
  obtain ⟨less, rfl⟩ : ∃ less, fuel = less + 1 := ⟨fuel - 1, by omega⟩
  exact read_operand (operand (by omega) ends) stops

theorem reads_of_fits {t : WrittenValue} (fits : t.Fits) : Reads closeness t := by
  -- A level deeper the reader has one less fuel, and an operand has fewer tokens than the whole, so
  -- the number of tokens bounds the fuel on every level.
  induction t with
  | null => exact .of_operand fun _ _ => rfl
  | integer n => exact .of_operand fun _ ends => readOperand_integer n ends
  | bool b => cases b <;> exact .of_operand fun _ _ => rfl
  | param v => exact .of_operand fun _ _ => rfl
  | column name => exact .of_operand fun _ _ => rfl
  | grouped inner ih =>
    apply Reads.of_operand
    intro fuel rest enough ends
    have room : inner.tokens.length < fuel := by
      simp only [tokens, List.length_append] at enough
      have length : (text "(").length = 1 := rfl
      omega
    exact readOperand_grouped ((ih fits).whole room (ends_text rfl (by decide) rest) rfl)
  | call left right ihLeft ihRight =>
    obtain ⟨fitsLeft, fitsRight⟩ := fits
    apply Reads.of_operand
    intro fuel rest enough ends
    have length : (text "CONCAT(").length = 7 := rfl
    simp only [tokens, List.length_append] at enough
    have closes := ends_text (s := ")") rfl (by decide) rest
    have separates := ends_text (s := ", ") rfl (by decide) (right.tokens ++ (text ")" ++ rest))
    exact readOperand_call ((ihLeft fitsLeft).whole (by omega) separates rfl)
      ((ihRight fitsRight).whole (by omega) closes rfl)
  | operation left op right ihLeft ihRight =>
    obtain ⟨aloneLeft, aloneRight, fitsLeft, fitsRight⟩ := fits
    refine ⟨nofun, ?_⟩
    intro fuel rest enough ends stops
    obtain ⟨less, rfl⟩ : ∃ less, fuel = less + 1 := ⟨fuel - 1, by omega⟩
    simp only [tokens, List.length_append] at enough
    have roomLeft : left.tokens.length ≤ less := by omega
    have roomRight : right.tokens.length ≤ less := by omega
    have readsLeft := (ihLeft fitsLeft).operand aloneLeft roomLeft
      (ends_signText op (right.tokens ++ rest))
    have readsRight := (ihRight fitsRight).operand aloneRight roomRight ends
    exact read_operation op aloneLeft readsLeft readsRight stops

theorem read_tokens {t : WrittenValue} (fits : t.Fits) {rest : List Token} (ends : Ends rest)
    (stops : readSign rest = none) {fuel : Nat} (enough : t.tokens.length < fuel) :
    read closeness fuel (t.tokens ++ rest) = some (t, rest) :=
  (reads_of_fits fits).whole enough ends stops

end WrittenValue

end BulkDml
