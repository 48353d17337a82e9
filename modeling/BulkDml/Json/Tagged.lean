import BulkDml.Json.Number
import BulkDml.ColumnType
import BulkDml.Decimal.Layout
import BulkDml.Dialect.Basic

namespace BulkDml.Json

def atEnd (s : List Char) : Option Unit := if skipSpace s = [] then some () else none

def readWord (word : List Char) {α : Type} (value : α) : Reader α := fun s =>
  if word.isPrefixOf s then some (value, s.drop word.length) else none

def readTagged {α : Type} (bare : String → Option α) (contents : String → Option (Reader α))
    (s : List Char) : Option α := do
  match skipSpace s with
  | '{' :: s =>
    let (name, s) ← readString (skipSpace s)
    let read ← contents name
    let s ← expect ':' (skipSpace s)
    let (value, s) ← read (skipSpace s)
    let s ← expect '}' (skipSpace s)
    atEnd s
    return value
  | s =>
    let (name, s) ← readString s
    atEnd s
    bare name

def readBare {α : Type} (value : α) : Reader α := readWord "null".toList value

def readName {α : Type} (ofName : String → Option α) (s : List Char) : Option α :=
  readTagged ofName (fun name => (ofName name).map readBare) s

def writeTagged (name : String) (contents : List Char) : List Char :=
  '{' :: (writeString name ++ ':' :: (contents ++ ['}']))

def readBool : Reader Bool := fun s =>
  (readWord "true".toList true s).or (readWord "false".toList false s)

def readBytesFrom : Nat → Reader (List UInt8)
  | 0, _ => none
  | fuel + 1, s => do
    let (byte, s) ← readByte (skipSpace s)
    match skipSpace s with
    | ',' :: s =>
      let (bytes, s) ← readBytesFrom fuel s
      return (byte :: bytes, s)
    | ']' :: s => return ([byte], s)
    | _ => none

def readBytes : Reader (List UInt8)
  | '[' :: s =>
    match skipSpace s with
    | ']' :: rest => some ([], rest)
    | s => readBytesFrom s.length s
  | s => readStringBytes s

def writeInt (n : Int) : List Char := (toString n).toList

def writeBytes (bytes : List UInt8) : List Char :=
  '[' :: (List.intercalate [','] (bytes.map fun b => writeInt b.toNat) ++ [']'])

/-- Reals that are no numbers have no text and are written as null. -/
def writeReal (x : Binary64) : List Char :=
  if x.isFinite then Decimal.Layout.json.finite x else "null".toList

end BulkDml.Json

namespace BulkDml

namespace Value

def toJson : Value → List Char
  | null => Json.writeString "Null"
  | integer n => Json.writeTagged "Integer" (Json.writeInt n.toInt)
  | real x => Json.writeTagged "Real" (Json.writeReal x)
  | text s => Json.writeTagged "Text" (Json.writeString s)
  | bool b => Json.writeTagged "Bool" (if b then "true" else "false").toList
  | blob bytes => Json.writeTagged "Blob" (Json.writeBytes bytes)
  | timestamp ms => Json.writeTagged "Timestamp" (Json.writeInt ms.toInt)

def reading {α : Type} (f : α → Value) (read : Json.Reader α) : Json.Reader Value := fun s =>
  (read s).map fun (a, rest) => (f a, rest)

def readContents : String → Option (Json.Reader Value)
  | "Null" => some (Json.readBare null)
  | "Integer" => some (reading integer Json.readInt64)
  | "Real" => some (reading real Json.readReal)
  | "Text" => some (reading text Json.readString)
  | "Bool" => some (reading bool Json.readBool)
  | "Blob" => some (reading blob Json.readBytes)
  | "Timestamp" => some (reading timestamp Json.readInt64)
  | _ => none

def ofJson? (s : List Char) : Option Value :=
  Json.readTagged (fun name => if name = "Null" then some null else none) readContents s

end Value

namespace Backend

def toJson (b : Backend) : List Char := Json.writeString b.name

def ofJson? (s : List Char) : Option Backend :=
  Json.readName (fun name => all.find? (·.name == name)) s

end Backend

namespace ColumnType

def toJson (t : ColumnType) : List Char := Json.writeString t.name

def ofJson? (s : List Char) : Option ColumnType :=
  Json.readName (fun name => all.find? (·.name == name)) s

end ColumnType

end BulkDml
