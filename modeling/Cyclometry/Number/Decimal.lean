import Cyclometry.Text.Digit

/-!
# Decimal numerals

Writing integers in decimal, and reading runs of decimal digits.  A numeral of more than
`maxDigits` digits, leading zeros included, is never converted, and a number that needs more
digits is not fit to be shown.
-/

namespace Cyclometry.Decimal

/-- The decimal digits of a natural number. -/
def digits (n : Nat) : List Char := Nat.toDigits 10 n

/-- A natural number in decimal. -/
def ofNat (n : Nat) : String := String.ofList (digits n)

/-- An integer in decimal, with a minus sign if it is negative. -/
def ofInt (n : Int) : String :=
  if n < 0 then "-" ++ ofNat n.natAbs else ofNat n.natAbs

/-- The numeral filled up with zeros on the left. -/
def padded (width n : Nat) : String :=
  let ds := digits n
  String.ofList (List.replicate (width - ds.length) '0' ++ ds)

/-- The longest numeral that is converted to a number. -/
def maxDigits : Nat := 4300

/-- The number can be written with at most `maxDigits` digits. -/
def isShort (n : Int) : Bool := decide (n.natAbs < Nat.pow 10 maxDigits)

/-- The value of a list of digit values, most significant first. -/
def value (base : Nat) (ds : List Nat) : Nat := ds.foldl (fun n d => n * base + d) 0

/-- The numeral has too many digits to be converted. -/
structure TooLong where
  deriving DecidableEq, Repr

/-- The value of a decimal numeral of at most `maxDigits` digits. -/
def read (ds : List Nat) : Except TooLong Nat :=
  if maxDigits < ds.length then .error ⟨⟩ else .ok (value 10 ds)

end Cyclometry.Decimal
