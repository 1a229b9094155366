import Cyclometry.Text.Digit
import Cyclometry.Text.Split

/-!
# Tags of plain scalars

A plain scalar without a tag gets one by its spelling.  The spellings are those of YAML 1.1:
truth values have many names, integers may be binary, octal, hexadecimal or in base 60, and
dates need no quotes.
-/

namespace Cyclometry.Yaml

/-- The kinds of values that have a tag of their own. -/
inductive Tag
  | null
  | bool
  | int
  | float
  | binary
  | timestamp
  | omap
  | pairs
  | set
  | str
  | seq
  | map
  /-- A key that takes in other mappings. -/
  | merge
  /-- A key that stands for the value of its mapping. -/
  | value
  | unknown
  deriving DecidableEq, Repr

/-- What the tags of the standard begin with. -/
def standardLead : String := "tag:yaml.org,2002:"

/-- The tag of a name. -/
def Tag.ofText (s : String) : Tag :=
  if !standardLead.toList.isPrefixOf s.toList then .unknown
  else
    match String.ofList (s.toList.drop standardLead.length) with
    | "null" => .null
    | "bool" => .bool
    | "int" => .int
    | "float" => .float
    | "binary" => .binary
    | "timestamp" => .timestamp
    | "omap" => .omap
    | "pairs" => .pairs
    | "set" => .set
    | "str" => .str
    | "seq" => .seq
    | "map" => .map
    | "merge" => .merge
    | "value" => .value
    | _ => .unknown

/-- An ASCII digit. -/
def isDigit (c : Char) : Bool := '0' ≤ c && c ≤ '9'

/-- An ASCII digit or an underscore. -/
def isDigitOrScore (c : Char) : Bool := isDigit c || c == '_'

/-- The text without a sign in front. -/
def dropSign : List Char → List Char
  | '+' :: rest => rest
  | '-' :: rest => rest
  | s => s

/-- The names of the truth values. -/
def boolNames : List String :=
  ["yes", "Yes", "YES", "no", "No", "NO", "true", "True", "TRUE", "false", "False", "FALSE",
    "on", "On", "ON", "off", "Off", "OFF"]

/-- The spellings of nothing. -/
def nullNames : List String := ["", "~", "null", "Null", "NULL"]

/-- The marks of tags, anchors and aliases, which are no values of their own. -/
def markNames : List String := ["!", "&", "*"]

/-- A digit, then digits and underscores. -/
def isScored : List Char → Bool
  | [] => false
  | c :: rest => isDigit c && rest.all isDigitOrScore

/-- A part of a number in base 60: one digit, or two of which the first is below six. -/
def isSixtieth : List Char → Bool
  | [c] => isDigit c
  | [a, b] => '0' ≤ a && a ≤ '5' && isDigit b
  | _ => false

/-- An exponent with a sign, or nothing. -/
def isExponent : List Char → Bool
  | [] => true
  | e :: sign :: digits =>
    (e == 'e' || e == 'E') && (sign == '+' || sign == '-') && !digits.isEmpty &&
      digits.all isDigit
  | _ => false

/-- Digits and underscores, then an exponent or nothing. -/
def isFraction (s : List Char) : Bool := isExponent (s.dropWhile isDigitOrScore)

/-- A number in base 60 with a fraction. -/
def isSixtyFloat (s : List Char) : Bool :=
  match Text.splitOn ':' s with
  | first :: rest@(_ :: _) =>
    let last := rest.getLast?.getD []
    isScored first && rest.dropLast.all isSixtieth &&
      isSixtieth (last.takeWhile (· != '.')) && last.contains '.' &&
      ((last.dropWhile (· != '.')).drop 1).all isDigitOrScore
  | _ => false

/-- The spelling of a floating point number. -/
def isFloat (s : List Char) : Bool :=
  let bare := dropSign s
  let whole := bare.takeWhile (· != '.')
  let fraction := (bare.dropWhile (· != '.')).drop 1
  (bare.contains '.' && isScored whole && isFraction fraction) ||
    (match s with
      | '.' :: c :: rest => isDigit c && isFraction rest
      | _ => false) ||
    isSixtyFloat bare ||
    [".inf", ".Inf", ".INF"].contains (String.ofList bare) ||
    [".nan", ".NaN", ".NAN"].contains (String.ofList s)

/-- A digit from one to nine, then digits and underscores. -/
def isScoredPositive (s : List Char) : Bool := isScored s && s.head? != some '0'

/-- The spelling of an integer. -/
def isInt (s : List Char) : Bool :=
  match dropSign s with
  | ['0'] => true
  | '0' :: 'b' :: digits =>
    !digits.isEmpty && digits.all fun c => c == '0' || c == '1' || c == '_'
  | '0' :: 'x' :: digits =>
    !digits.isEmpty && digits.all fun c => (Text.hexDigit? c).isSome || c == '_'
  | '0' :: digits => digits.all fun c => ('0' ≤ c && c ≤ '7') || c == '_'
  | bare =>
    match Text.splitOn ':' bare with
    | first :: rest => isScoredPositive first && rest.all isSixtieth
    | [] => false

/-! ## Dates -/

/-- The fields of a date, as written, and of the time on it. -/
structure Stamp where
  year : List Char
  month : List Char
  day : List Char
  /-- Hour, minute, second. -/
  time : Option (List Char × List Char × List Char)
  fraction : List Char
  /-- Universal time, or the sign, hours and minutes of the distance from it. -/
  zone : Option (Option (Bool × List Char × List Char))
  deriving DecidableEq, Repr

/-- Between `low` and `high` digits at the front. -/
def someDigits (low high : Nat) (s : List Char) : Option (List Char × List Char) :=
  let ds := (s.take high).takeWhile isDigit
  if low ≤ ds.length then some (ds, s.drop ds.length) else none

/-- A character at the front. -/
def expect (c : Char) : List Char → Option (List Char)
  | d :: rest => if c == d then some rest else none
  | [] => none

/-- A space or a tab. -/
def isSpaceOrTab (c : Char) : Bool := c == ' ' || c == '\t'

/-- The zone at the end of a time. -/
def stampZone (s : List Char) : Option (Option (Option (Bool × List Char × List Char))) :=
  match s.dropWhile isSpaceOrTab with
  | [] => if s.isEmpty then some none else none
  | ['Z'] => some (some none)
  | sign :: rest =>
    if sign == '+' || sign == '-' then do
      let (hours, rest) ← someDigits 1 2 rest
      let minutes ← match rest with
        | [] => some []
        | ':' :: rest => do
          let (minutes, rest) ← someDigits 2 2 rest
          if rest.isEmpty then some minutes else none
        | _ => none
      some (some (some (sign == '-', hours, minutes)))
    else none

/-- What stands between a date and a time: a letter, or blanks. -/
def stampGap : List Char → Option (List Char)
  | 'T' :: rest => some rest
  | 't' :: rest => some rest
  | s =>
    if (s.takeWhile isSpaceOrTab).isEmpty then none else some (s.dropWhile isSpaceOrTab)

/-- A date, alone or with a time. -/
def stamp? (s : List Char) : Option Stamp := do
  let (year, s) ← someDigits 4 4 s
  let s ← expect '-' s
  let (month, s) ← someDigits 1 2 s
  let s ← expect '-' s
  let (day, s) ← someDigits 1 2 s
  if s.isEmpty then some ⟨year, month, day, none, [], none⟩
  else
    let s ← stampGap s
    let (hour, s) ← someDigits 1 2 s
    let s ← expect ':' s
    let (minute, s) ← someDigits 2 2 s
    let s ← expect ':' s
    let (second, s) ← someDigits 2 2 s
    let (fraction, s) := match s with
      | '.' :: rest => (rest.takeWhile isDigit, rest.dropWhile isDigit)
      | _ => ([], s)
    let zone ← stampZone s
    some ⟨year, month, day, some (hour, minute, second), fraction, zone⟩

/-- The spelling of a date: alone it has two digits for month and day. -/
def isStamp (s : List Char) : Bool :=
  match stamp? s with
  | none => false
  | some st => st.time.isSome || (st.month.length == 2 && st.day.length == 2)

/-- A line feed at the end does not count. -/
def dropFinalBreak (s : List Char) : List Char :=
  if s.getLast? == some '\n' then s.dropLast else s

/-- The tag of a plain scalar.  A line feed at its end does not count, but alone it is a
text. -/
def resolve (text : String) : Tag :=
  let s := if text == "\n" then text.toList else dropFinalBreak text.toList
  let bare := String.ofList s
  if boolNames.contains bare then .bool
  else if isFloat s then .float
  else if isInt s then .int
  else if bare == "<<" then .merge
  else if nullNames.contains bare then .null
  else if isStamp s then .timestamp
  else if bare == "=" then .value
  else if markNames.contains bare then .unknown
  else .str

end Cyclometry.Yaml
