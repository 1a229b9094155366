import Cyclometry.Number.Double
import Cyclometry.Text.Blank
import Cyclometry.Text.LowerCase
import Cyclometry.Text.Split

/-!
# Number literals

The numbers that a text spells on its own: integers in a given base and floating point
numbers.  Blanks around a number do not count, single underscores may stand between digits,
and the digits may be those of any script.
-/

namespace Cyclometry.Literal

/-- Why a text is not taken for a number. -/
inductive Fault
  | notANumber
  | tooLong
  deriving DecidableEq, Repr

/-- A blank that may stand around a number: the information separators may not. -/
def isMargin (c : Char) : Bool := Text.isBlank c && !(0x1c ≤ c.toNat && c.toNat ≤ 0x1f)

/-- A text without the blanks around it. -/
def trim (s : List Char) : List Char :=
  ((s.dropWhile isMargin).reverse.dropWhile isMargin).reverse

/-- The value of a digit or a letter as a digit. -/
def digitValue? (c : Char) : Option Nat :=
  match Text.digitValue? c with
  | some n => some n
  | none =>
    if 'a' ≤ c ∧ c ≤ 'z' then some (c.toNat - 'a'.toNat + 10)
    else if 'A' ≤ c ∧ c ≤ 'Z' then some (c.toNat - 'A'.toNat + 10)
    else none

/-- Digits with single underscores between them. -/
def digits? (base : Nat) (s : List Char) : Option (List Nat) :=
  let parts := Text.splitOn '_' s
  if parts.any List.isEmpty then none
  else parts.flatten.mapM fun c => (digitValue? c).filter fun n => decide (n < base)

/-- A sign at the front: whether the number is negative, and the rest. -/
def sign : List Char → Bool × List Char
  | '-' :: rest => (true, rest)
  | '+' :: rest => (false, rest)
  | s => (false, s)

/-- The letter that marks a base. -/
def baseLetter (base : Nat) : Option Char :=
  if base = 2 then some 'b' else if base = 8 then some 'o'
  else if base = 16 then some 'x' else none

/-- Drop the mark of the base, if it is there: a zero of any script and a letter. -/
def dropMark (base : Nat) (s : List Char) : List Char :=
  match s with
  | zero :: c :: rest =>
    if Text.digitValue? zero == some 0 && baseLetter base == some c.toLower then
      (if rest.head? == some '_' then rest.drop 1 else rest)
    else s
  | _ => s

/-- The integer that a text spells in a base. -/
def int (base : Nat) (s : List Char) : Except Fault Int :=
  let (negative, s) := sign (trim s)
  match digits? base (dropMark base s) with
  | none => .error .notANumber
  | some ds =>
    if base = 10 ∧ Decimal.maxDigits < ds.length then .error .tooLong
    else .ok (Double.signed negative (Decimal.value base ds))

/-- The digits of a part of a number that may be empty. -/
def part? (s : List Char) : Option (List Nat) := if s.isEmpty then some [] else digits? 10 s

/-- A decimal number with an optional fraction and an optional exponent. -/
def decimal? (negative : Bool) (s : List Char) : Option Double := do
  let mantissa := s.takeWhile fun c => c != 'e' && c != 'E'
  let whole ← part? (mantissa.takeWhile (· != '.'))
  let fraction ← part? ((mantissa.dropWhile (· != '.')).drop 1)
  let exponent ←
    if mantissa.length == s.length then some 0
    else
      let (negative, ds) := sign (s.drop (mantissa.length + 1))
      (digits? 10 ds).map fun ds => Double.signed negative (Decimal.value 10 ds)
  if whole.isEmpty && fraction.isEmpty then none
  else
    some (Double.ofDecimal negative (Decimal.value 10 (whole ++ fraction))
      (exponent - fraction.length))

/-- The floating point number that a text spells. -/
def float (s : List Char) : Except Fault Double :=
  let (negative, s) := sign (trim s)
  match Text.lower (String.ofList s) with
  | "inf" => .ok (.infinite negative)
  | "infinity" => .ok (.infinite negative)
  | "nan" => .ok (.nan 0)
  | _ =>
    match decimal? negative s with
    | some x => .ok x
    | none => .error .notANumber

end Cyclometry.Literal
