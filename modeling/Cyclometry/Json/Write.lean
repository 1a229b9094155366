import Cyclometry.Value

/-!
# Writing JSON

Values are written over several lines, two spaces deeper at every level, in ASCII only.
Characters outside the plane of the first 65536 take two escapes.
-/

namespace Cyclometry.Json

/-- The escape of a code unit. -/
def unitEscape (n : Nat) : List Char := '\\' :: 'u' :: Text.Quoted.hex 4 n

/-- One character of a text. -/
def writeChar (c : Char) : List Char :=
  if c == '"' then ['\\', '"']
  else if c == '\\' then ['\\', '\\']
  else if c == '\n' then ['\\', 'n']
  else if c == '\r' then ['\\', 'r']
  else if c == '\t' then ['\\', 't']
  else if c.toNat = 8 then ['\\', 'b']
  else if c.toNat = 12 then ['\\', 'f']
  else if 0x20 ≤ c.toNat ∧ c.toNat < 0x7f then [c]
  else if c.toNat < 0x10000 then unitEscape c.toNat
  else
    unitEscape (0xd800 + (c.toNat - 0x10000) / 0x400) ++
      unitEscape (0xdc00 + (c.toNat - 0x10000) % 0x400)

/-- A text in double quotes. -/
def writeText (s : String) : List Char := '"' :: s.toList.flatMap writeChar ++ ['"']

/-- A floating point number. -/
def writeFloat : Double → List Char
  | .nan _ => "NaN".toList
  | .infinite true => "-Infinity".toList
  | .infinite false => "Infinity".toList
  | x => x.text.toList

/-- A new line at a level. -/
def newline (level : Nat) : List Char := '\n' :: List.replicate (2 * level) ' '

/-- Parts between brackets, each on a line of its own, unless there are none. -/
def block (level : Nat) (opening closing : Char) (parts : List (List Char)) : List Char :=
  match parts with
  | [] => [opening, closing]
  | parts =>
    opening :: newline (level + 1) ++ Text.joinWith (',' :: newline (level + 1)) parts ++
      newline level ++ [closing]

mutual

/-- A value at a level. -/
def writeAt (level : Nat) : Value → List Char
  | .null => "null".toList
  | .bool true => "true".toList
  | .bool false => "false".toList
  | .int n => (Decimal.ofInt n).toList
  | .float x => writeFloat x
  | .text s => writeText s
  | .list items => block level '[' ']' (writeItems (level + 1) items)
  | .set members => block level '[' ']' (writeItems (level + 1) members)
  | .pair a b => block level '[' ']' [writeAt (level + 1) a, writeAt (level + 1) b]
  | .map fields => block level '{' '}' (writeFields (level + 1) fields)
  | .bytes b => writeText (textOf b)
  | .date d => writeText d.text
  | .moment m => writeText (m.text "T")
  | .cycle => "null".toList

/-- Several values at a level. -/
def writeItems (level : Nat) : List Value → List (List Char)
  | [] => []
  | v :: rest => writeAt level v :: writeItems level rest

/-- Keys and values at a level. -/
def writeFields (level : Nat) : List (Value × Value) → List (List Char)
  | [] => []
  | (k, v) :: rest =>
    (writeText k.plain ++ ':' :: ' ' :: writeAt level v) :: writeFields level rest

end

/-- The JSON text of a value. -/
def write (v : Value) : String := String.ofList (writeAt 0 v)

end Cyclometry.Json
