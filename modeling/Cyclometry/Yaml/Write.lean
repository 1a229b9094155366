import Cyclometry.Value
import Cyclometry.Yaml.Resolve

/-!
# Writing YAML

Values are written in block style: one field or item to a line, nested mappings two columns
deeper, and the items of a list right below its key.  A text is written without quotes if it
is made of plain characters and reads back as a text.
-/

namespace Cyclometry.Yaml

/-- A character that means nothing special anywhere in a plain scalar. -/
def isPlainChar (c : Char) : Bool := c.isAlphanum || "/._+-".toList.contains c

/-- A text that needs no quotes. -/
def needsNoQuotes (s : String) : Bool :=
  s.toList.all isPlainChar && s.toList.head? != some '-' && resolve s == .str

/-- A text in single quotes, in which a quote is written twice. -/
def singleQuoted (s : String) : String :=
  "'" ++ String.ofList (s.toList.flatMap fun c => if c == '\'' then [c, c] else [c]) ++ "'"

/-- A value on one line; lists and mappings only if they are empty. -/
def writeScalar : Value → String
  | .null => "null"
  | .bool true => "true"
  | .bool false => "false"
  | .text s => if needsNoQuotes s then s else singleQuoted s
  | .list _ => "[]"
  | .map _ => "\x7b\x7d"
  | v => v.plain

/-- Put `first` in front of the first line and `rest` in front of the others. -/
def hang (first rest : String) : List String → List String
  | [] => []
  | line :: lines => (first ++ line) :: lines.map (rest ++ ·)

mutual

/-- The lines of a value. -/
def writeLines : Value → List String
  | .list (v :: items) => writeItemLines (v :: items)
  | .map (f :: fields) => writeFieldLines (f :: fields)
  | v => [writeScalar v]

/-- The lines of list items. -/
def writeItemLines : List Value → List String
  | [] => []
  | v :: rest => hang "- " "  " (writeLines v) ++ writeItemLines rest

/-- The lines of the fields of a mapping. -/
def writeFieldLines : List (Value × Value) → List String
  | [] => []
  | (k, v) :: rest =>
    let lines := writeLines v
    let field :=
      match v with
      | .list (_ :: _) => (writeScalar k ++ ":") :: lines
      | .map (_ :: _) => (writeScalar k ++ ":") :: lines.map ("  " ++ ·)
      | _ => hang (writeScalar k ++ ": ") "" lines
    field ++ writeFieldLines rest

end

/-- The YAML text of a value. -/
def write (v : Value) : String := String.join ((writeLines v).map (· ++ "\n"))

end Cyclometry.Yaml
