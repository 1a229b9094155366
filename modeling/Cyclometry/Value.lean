import Cyclometry.Calendar
import Cyclometry.Number.Notation
import Cyclometry.Text.Quoted
import Cyclometry.Text.Split
import Cyclometry.Text.Utf8

/-!
# Data values

What a configuration file can contain.  Mappings keep the order in which their keys first
appeared.  Two keys are the same if they are equal as numbers, where the truth values count as
0 and 1, or equal otherwise; what is not a number is the same as nothing but itself.
-/

namespace Cyclometry

/-- A value of a configuration file or an argument of a message. -/
inductive Value
  | null
  | bool (b : Bool)
  | int (n : Int)
  | float (x : Double)
  | text (s : String)
  | bytes (b : Bytes)
  | date (d : Date)
  | moment (m : Moment)
  | list (items : List Value)
  | pair (first second : Value)
  | set (members : List Value)
  | map (fields : List (Value × Value))
  /-- The place where a value that contains itself is broken off. -/
  | cycle
  deriving Inhabited

/-- Keys with their values, in order of first appearance. -/
abbrev Fields := List (Value × Value)

namespace Value

/-- The value counts as true in a condition: it is not null, false, zero or empty. -/
def truthy : Value → Bool
  | null => false
  | bool b => b
  | int n => n != 0
  | float x => !x.isZero
  | text s => !s.isEmpty
  | bytes b => !b.isEmpty
  | date _ => true
  | moment _ => true
  | list items => !items.isEmpty
  | pair _ _ => true
  | set members => !members.isEmpty
  | map fields => !fields.isEmpty
  | cycle => true

/-- The value may be a key of a mapping. -/
def isKey : Value → Bool
  | list _ => false
  | set _ => false
  | map _ => false
  | cycle => false
  | pair a b => a.isKey && b.isKey
  | _ => true

/-- The integer that a number or truth value is equal to. -/
def toInt? : Value → Option Int
  | bool b => some (if b then 1 else 0)
  | int n => some n
  | float x => x.toInt?
  | _ => none

/-- Two keys are the same. -/
def sameKey (a b : Value) : Bool :=
  match a, b with
  | text s, text t => s == t
  | null, null => true
  | bytes s, bytes t => s == t
  | date d, date e => d == e
  | moment m, moment n => m.sameTime n
  | pair a b, pair c d => a.sameKey c && b.sameKey d
  | float x, float y => x.same y
  | a, b =>
    match a.toInt?, b.toInt? with
    | some m, some n => m == n
    | _, _ => false

/-- The elements of a value that has some: the characters of a text, the items of a list, the
keys of a mapping. -/
def elements? : Value → Option (List Value)
  | text s => some (s.toList.map fun c => text (String.singleton c))
  | bytes b => some (b.map fun c => int c.toNat)
  | list items => some items
  | pair a b => some [a, b]
  | set members => some members
  | map fields => some (fields.map (·.1))
  | _ => none

/-- The text that a value is. -/
def text? : Value → Option String
  | text s => some s
  | _ => none

/-- The integer that a value is. -/
def int? : Value → Option Int
  | int n => some n
  | _ => none

/-- The truth value that a value is. -/
def bool? : Value → Option Bool
  | bool b => some b
  | _ => none

/-- The items of a list; anything else has none. -/
def items : Value → List Value
  | list items => items
  | _ => []

/-- The value is a mapping. -/
def isMap : Value → Bool
  | map _ => true
  | _ => false

end Value

namespace Fields

/-- The value of a key. -/
def find? (fields : Fields) (key : Value) : Option Value :=
  (List.find? (fun field => field.1.sameKey key) fields).map (·.2)

/-- The value of a key that is a text. -/
def get? (fields : Fields) (name : String) : Option Value := fields.find? (.text name)

/-- Give a key a value.  A key that is there stays where and as it is. -/
def set : Fields → Value → Value → Fields
  | [], key, value => [(key, value)]
  | field :: rest, key, value =>
    if field.1.sameKey key then (field.1, value) :: rest else field :: set rest key value

/-- Give several keys their values, one after the other. -/
def setAll (fields : Fields) (more : Fields) : Fields :=
  more.foldl (fun fields field => fields.set field.1 field.2) fields

end Fields

namespace Value

/-- The field of a mapping. -/
def field? (v : Value) (name : String) : Option Value :=
  match v with
  | map fields => Fields.get? fields name
  | _ => none

/-- The items of a field that is a list. -/
def fieldItems (v : Value) (name : String) : List Value := ((v.field? name).map items).getD []

/-! ## Text -/

mutual

/-- A value as part of another one: texts are quoted. -/
def shown (alphabet : Text.Quoted.Alphabet) : Value → String
  | null => "None"
  | bool true => "True"
  | bool false => "False"
  | int n => Decimal.ofInt n
  | float x => x.text
  | text s => Text.Quoted.encode alphabet s
  | bytes b => "b" ++ Text.Quoted.encode .ascii (String.ofList (b.map fun c => Char.ofNat c.toNat))
  | date d => d.text
  | moment m => m.text " "
  | list items => "[" ++ Text.joinTexts ", " (shownAll alphabet items) ++ "]"
  | pair a b => "(" ++ a.shown alphabet ++ ", " ++ b.shown alphabet ++ ")"
  | set [] => "set()"
  | set members => "\x7b" ++ Text.joinTexts ", " (shownAll alphabet members) ++ "\x7d"
  | map fields => "\x7b" ++ Text.joinTexts ", " (shownFields alphabet fields) ++ "\x7d"
  | cycle => "..."

/-- Each of several values. -/
def shownAll (alphabet : Text.Quoted.Alphabet) : List Value → List String
  | [] => []
  | v :: rest => v.shown alphabet :: shownAll alphabet rest

/-- Each key with its value. -/
def shownFields (alphabet : Text.Quoted.Alphabet) : List (Value × Value) → List String
  | [] => []
  | (k, v) :: rest =>
    (k.shown alphabet ++ ": " ++ v.shown alphabet) :: shownFields alphabet rest

end

/-- A value on its own: a text stands for itself. -/
def plain : Value → String
  | text s => s
  | v => v.shown .unicode

end Value

end Cyclometry
