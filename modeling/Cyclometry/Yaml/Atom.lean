import Cyclometry.Number.Literal
import Cyclometry.Value
import Cyclometry.Yaml.Input
import Cyclometry.Yaml.Resolve

/-!
# Values of YAML scalars

The value that a text stands for under a tag.  A text that does not fit its tag is a fault, and
the fault tells in which way.
-/

namespace Cyclometry.Yaml

/-- A fault of a number literal. -/
def literalFault : Literal.Fault → Fault
  | .notANumber => .notANumber
  | .tooLong => .numeralTooLong

/-- An integer in a base. -/
def intIn (base : Nat) (s : List Char) : Except Fault Int :=
  (Literal.int base s).mapError literalFault

/-- The sign and the rest of a number without its underscores. -/
def signed (s : List Char) : Except Fault (Bool × List Char) :=
  match s with
  | [] => .error .emptyNumber
  | '-' :: rest => .ok (true, rest)
  | '+' :: rest => .ok (false, rest)
  | s => .ok (false, s)

/-- An integer: binary, hexadecimal, octal, in base 60 or decimal. -/
def intValue (text : String) : Except Fault Int := do
  let (negative, s) ← signed (text.toList.filter (· != '_'))
  let n ← match s with
    | ['0'] => pure 0
    | '0' :: 'b' :: rest => intIn 2 rest
    | '0' :: 'x' :: rest => intIn 16 rest
    | '0' :: _ => intIn 8 s
    | [] => throw .emptyNumber
    | _ =>
      if s.contains ':' then do
        let parts ← (Text.splitOn ':' s).mapM (intIn 10)
        pure (parts.foldl (fun n part => n * 60 + part) 0)
      else intIn 10 s
  pure (if negative then -n else n)

/-- A number in base 60: the sum of its parts, the last one first, each times its power.  The
powers have to be in the range of the numbers. -/
def sixtyFloat : Double → Int → List Double → Except Fault Double
  | sum, _, [] => .ok sum
  | sum, power, part :: rest =>
    let factor := Double.ofInt power
    if factor.isFinite then sixtyFloat (sum.add (part.mul factor)) (power * 60) rest
    else .error .numberTooLarge

/-- A number without underscores and in lower case. -/
def bareNumber (text : String) : List Char :=
  (Text.lower (String.ofList (text.toList.filter (· != '_')))).toList

/-- The text is the name for what is not a number. -/
def isNanName (text : String) : Bool := String.ofList (dropSign (bareNumber text)) == ".nan"

/-- A floating point number. -/
def floatValue (text : String) : Except Fault Double := do
  let (negative, s) ← signed (bareNumber text)
  let x ←
    if String.ofList s == ".inf" then pure (.infinite false)
    else if String.ofList s == ".nan" then pure (.nan 0)
    else if s.contains ':' then do
      let parts ← (Text.splitOn ':' s).mapM fun part =>
        (Literal.float part).mapError literalFault
      sixtyFloat (.zero false) 1 parts.reverse
    else (Literal.float s).mapError literalFault
  pure (if negative then x.neg else x)

/-- The value of some ASCII digits. -/
def digitsValue (s : List Char) : Nat := Decimal.value 10 (s.filterMap Text.asciiDigit?)

/-- A date or a moment.  Fractions of a second are cut to microseconds. -/
def stampValue (text : String) : Except Fault Value :=
  match stamp? (dropFinalBreak text.toList) with
  | none => .error .notADate
  | some st =>
    match Date.ofParts? (digitsValue st.year) (digitsValue st.month) (digitsValue st.day) with
    | none => .error .noSuchDate
    | some date =>
      match st.time with
      | none => .ok (.date date)
      | some (hour, minute, second) =>
        let offset := st.zone.map fun zone =>
          match zone with
          | none => (0 : Int)
          | some (negative, hours, minutes) =>
            Double.signed negative (digitsValue hours * 60 + digitsValue minutes)
        let micro := digitsValue ((st.fraction ++ List.replicate 6 '0').take 6)
        match Moment.ofParts? date (digitsValue hour) (digitsValue minute) (digitsValue second)
          micro offset with
        | none => .error .noSuchDate
        | some m => .ok (.moment m)

/-- The value of a digit in base 64. -/
def base64Digit? (c : Char) : Option Nat :=
  if 'A' ≤ c ∧ c ≤ 'Z' then some (c.toNat - 'A'.toNat)
  else if 'a' ≤ c ∧ c ≤ 'z' then some (c.toNat - 'a'.toNat + 26)
  else if '0' ≤ c ∧ c ≤ '9' then some (c.toNat - '0'.toNat + 52)
  else if c == '+' then some 62
  else if c == '/' then some 63
  else none

/-- The bytes that base 64 spells.  `held` has the digits of an unfinished group, last one
first, and `fills` counts the fill characters behind them.  Other characters do not count. -/
def base64 : List Nat → Nat → List Char → Option Bytes
  | held, _, [] => if held.isEmpty then some [] else none
  | held, fills, c :: rest =>
    if c == '=' then
      if 2 ≤ held.length ∧ 4 ≤ held.length + fills + 1 then
        match held with
        | [b, a] => some [UInt8.ofNat ((a * 64 + b) / 16)]
        | [c, b, a] =>
          some [UInt8.ofNat ((a * 64 + b) / 16), UInt8.ofNat ((b * 64 + c) / 4)]
        | _ => some []
      else base64 held (if 2 ≤ held.length then fills + 1 else fills) rest
    else
      match base64Digit? c with
      | none => base64 held fills rest
      | some d =>
        match held with
        | [c, b, a] =>
          (base64 [] 0 rest).map fun more =>
            UInt8.ofNat ((a * 64 + b) / 16) :: UInt8.ofNat ((b * 64 + c) / 4) ::
              UInt8.ofNat (c * 64 + d) :: more
        | _ => base64 (d :: held) 0 rest

/-- The truth values by their names in lower case. -/
def boolValue (text : String) : Except Fault Bool :=
  let name := Text.lower text
  if ["yes", "true", "on"].contains name then .ok true
  else if ["no", "false", "off"].contains name then .ok false
  else .error (.notATruthValue name)

/-- The value of a scalar. -/
def scalarValue (tag : Tag) (text : String) : Except Fault Value :=
  match tag with
  | .null => .ok .null
  | .bool => (boolValue text).map .bool
  | .int => (intValue text).map .int
  | .float => (floatValue text).map .float
  | .timestamp => stampValue text
  | .str => .ok (.text text)
  | .binary =>
    if text.toList.all fun c => c.toNat < 128 then
      match base64 [] 0 text.toList with
      | some bytes => .ok (.bytes bytes)
      | none => .error .malformed
    else .error .malformed
  | _ => .error .malformed

end Cyclometry.Yaml
