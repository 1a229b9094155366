import Cyclometry.Number.Decimal

/-!
# Double precision numbers

A binary floating point number of double precision is an exact dyadic rational, an infinity or
not a number.  Every operation is exact arithmetic on rationals followed by one rounding to
the nearest representable number, with ties to the even mantissa.
-/

namespace Cyclometry

/-- A double precision number.  A finite one is `± mantissa * 2 ^ exponent`, where the
mantissa has at most 53 bits, and exactly 53 unless the exponent is the least one.  What is not a
number has a mark, by which one such thing is told from another. -/
inductive Double
  | finite (negative : Bool) (mantissa : Nat) (exponent : Int)
  | infinite (negative : Bool)
  | nan (mark : Nat)
  deriving DecidableEq, Repr

/-- A quotient of natural numbers rounded to the nearest one, a half to the even one. -/
def roundDiv (num den : Nat) : Nat :=
  if 2 * (num % den) < den ∨ (2 * (num % den) = den ∧ num / den % 2 = 0) then num / den
  else num / den + 1

namespace Double

/-- The exponent of the smallest positive number. -/
def minExponent : Int := -1074

/-- The exponent of the largest finite number. -/
def maxExponent : Int := 971

/-- Mantissas lie below this bound. -/
def mantissaBound : Nat := Nat.pow 2 53

/-- The least mantissa of full length. -/
def leastFull : Nat := Nat.pow 2 52

/-- Zero with a sign. -/
def zero (negative : Bool) : Double := finite negative 0 minExponent

/-- The quotient `num / (den * 2 ^ e)`, as numerator and denominator. -/
def scaled (num den : Nat) (e : Int) : Nat × Nat :=
  if 0 ≤ e then (num, den * Nat.pow 2 e.toNat) else (num * Nat.pow 2 (-e).toNat, den)

/-- The number nearest to `± num / den`. -/
def ofRatio (negative : Bool) (num den : Nat) : Double :=
  if num = 0 then zero negative
  else
    let e := (Nat.log2 num : Int) - Nat.log2 den - 53
    let (n, d) := scaled num den e
    let e := max (if n / d < mantissaBound then e else e + 1) minExponent
    let (n, d) := scaled num den e
    let mantissa := roundDiv n d
    let (mantissa, e) := if mantissa = mantissaBound then (leastFull, e + 1) else (mantissa, e)
    if maxExponent < e then infinite negative else finite negative mantissa e

/-- The number nearest to `± digits * 10 ^ exponent`.  Far outside the range of the finite
numbers the answer is known without the power of ten. -/
def ofDecimal (negative : Bool) (digits : Nat) (exponent : Int) : Double :=
  let magnitude := (Decimal.digits digits).length + exponent
  if digits = 0 ∨ magnitude < -330 then zero negative
  else if 310 < magnitude then infinite negative
  else if 0 ≤ exponent then ofRatio negative (digits * Nat.pow 10 exponent.toNat) 1
  else ofRatio negative digits (Nat.pow 10 (-exponent).toNat)

/-- The number nearest to an integer. -/
def ofInt (n : Int) : Double := ofRatio (n < 0) n.natAbs 1

/-- The magnitude of a finite number, as numerator and denominator. -/
def ratio (mantissa : Nat) (exponent : Int) : Nat × Nat :=
  if 0 ≤ exponent then (mantissa * Nat.pow 2 exponent.toNat, 1)
  else (mantissa, Nat.pow 2 (-exponent).toNat)

/-- The sign bit. -/
def isNegative : Double → Bool
  | finite negative _ _ => negative
  | infinite negative => negative
  | nan _ => false

/-- The number is neither infinite nor the result of a meaningless operation. -/
def isFinite : Double → Bool
  | finite _ _ _ => true
  | _ => false

/-- The number is a zero of either sign. -/
def isZero : Double → Bool
  | finite _ mantissa _ => mantissa == 0
  | _ => false

/-- The number with the opposite sign. -/
def neg : Double → Double
  | finite negative mantissa exponent => finite (!negative) mantissa exponent
  | infinite negative => infinite (!negative)
  | nan mark => nan mark

/-- The product, rounded once. -/
def mul : Double → Double → Double
  | finite s m e, finite s' m' e' =>
    let (n, d) := ratio m e
    let (n', d') := ratio m' e'
    ofRatio (s != s') (n * n') (d * d')
  | infinite s, infinite s' => infinite (s != s')
  | infinite s, finite s' m _ => if m = 0 then nan 0 else infinite (s != s')
  | finite s m _, infinite s' => if m = 0 then nan 0 else infinite (s != s')
  | _, _ => nan 0

/-- A magnitude with a sign, as an integer. -/
def signed (negative : Bool) (n : Nat) : Int := if negative then -n else n

/-- The sum, rounded once.  An exact zero is negative only if both terms are. -/
def add : Double → Double → Double
  | finite s m e, finite s' m' e' =>
    let (n, d) := ratio m e
    let (n', d') := ratio m' e'
    let sum := signed s (n * d') + signed s' (n' * d)
    if sum = 0 then zero (s && s') else ofRatio (sum < 0) sum.natAbs (d * d')
  | infinite s, infinite s' => if s = s' then infinite s else nan 0
  | infinite s, finite _ _ _ => infinite s
  | finite _ _ _, infinite s => infinite s
  | _, _ => nan 0

/-- The integer that the number is equal to, if there is one. -/
def toInt? : Double → Option Int
  | finite negative mantissa exponent =>
    let (n, d) := ratio mantissa exponent
    if n % d = 0 then some (signed negative (n / d)) else none
  | _ => none

/-- The two are equal as numbers, zeros of both signs among them, or the very same thing that is no
number. -/
def same : Double → Double → Bool
  | finite s m e, finite s' m' e' =>
    let (n, d) := ratio m e
    let (n', d') := ratio m' e'
    signed s n * d' == signed s' n' * d
  | infinite s, infinite s' => s == s'
  | nan mark, nan mark' => mark == mark'
  | _, _ => false

end Double

end Cyclometry
