import Cyclometry.Number.Shortest

/-!
# Decimal notation of double precision numbers

The digits of a number are laid out in positional or in exponential notation.  Four styles
choose the digits: the shortest ones that read back, a fixed number of places, a fixed number
of digits with an exponent, and a number of significant digits in whichever notation is
shorter.
-/

namespace Cyclometry.Double

/-- How a number is written beyond its digits. -/
structure Layout where
  /-- Keep the decimal point when no digit follows it. -/
  keepPoint : Bool
  /-- In positional notation write at least one place. -/
  onePlace : Bool
  deriving DecidableEq, Repr

/-- Positional notation of `0.d₁d₂… * 10 ^ point`, with `places` digits after the point. -/
def positional (keepPoint : Bool) (d : Scientific) (places : Nat) : List Char :=
  let whole :=
    if d.point ≤ 0 then ['0']
    else d.digits.take d.point.toNat ++ List.replicate (d.point.toNat - d.digits.length) '0'
  let fraction := List.replicate (-d.point).toNat '0' ++ d.digits.drop d.point.toNat
  let fraction := (fraction ++ List.replicate (places - fraction.length) '0').take places
  if fraction.isEmpty && !keepPoint then whole else whole ++ '.' :: fraction

/-- A decimal exponent: a sign and at least two digits. -/
def exponentText (e : Int) : List Char :=
  let ds := Decimal.digits e.natAbs
  'e' :: (if e < 0 then '-' else '+') :: (List.replicate (2 - ds.length) '0' ++ ds)

/-- Exponential notation with `places` digits after the point. -/
def exponential (keepPoint : Bool) (d : Scientific) (places : Nat) : List Char :=
  positional keepPoint { d with point := 1 } places ++ exponentText (d.point - 1)

/-- Exponential notation outside `-4 < point ≤ limit`, positional notation inside.  At least
`least` significant digits are shown. -/
def compact (layout : Layout) (limit : Int) (least : Nat) (d : Scientific) : List Char :=
  let count := max d.digits.length least
  if d.point ≤ -4 ∨ limit < d.point then exponential layout.keepPoint d (count - 1)
  else
    let places := ((count : Int) - d.point).toNat
    positional layout.keepPoint d (if layout.onePlace then max places 1 else places)

/-- No number has more significant digits, and none has more places. -/
def mostDigits : Nat := 1100

/-- The digits of a finite magnitude rounded to `count` significant digits, as far as they may
differ from zero. -/
def significant (mantissa : Nat) (exponent : Int) (count : Nat) : Scientific :=
  let count := min count mostDigits
  if mantissa = 0 then ⟨List.replicate count '0', 1⟩
  else
    let (n, d) := ratio mantissa exponent
    let point := decimalPoint n d
    let (n, d) := tenScaled n d (point - count)
    let ds := Decimal.digits (roundDiv n d)
    ⟨ds.take count, point + (ds.length - count)⟩

/-- The digits of a finite magnitude rounded to `places` digits after the point, as far as they
may differ from zero. -/
def rounded (mantissa : Nat) (exponent : Int) (places : Nat) : Scientific :=
  let places := min places mostDigits
  let (n, d) := ratio mantissa exponent
  let (n, d) := tenScaled n d (-(places : Int))
  let ds := Decimal.digits (roundDiv n d)
  ⟨ds, ds.length - places⟩

/-- The digits, without trailing zeros but with at least one digit. -/
def trimmed (d : Scientific) : Scientific :=
  match trimZeros d.digits with
  | [] => ⟨['0'], 1⟩
  | ds => { d with digits := ds }

/-- The ways to choose the digits of a number. -/
inductive Style
  /-- The shortest digits that read back. -/
  | shortest
  /-- So many places after the point. -/
  | fixed (places : Nat)
  /-- So many places after the point, with an exponent. -/
  | scientific (places : Nat)
  /-- So many significant digits. -/
  | general (digits : Nat)
  deriving DecidableEq, Repr

/-- The text of a finite magnitude. -/
def magnitudeText (layout : Layout) (style : Style) (mantissa : Nat) (exponent : Int) :
    List Char :=
  match style with
  | .shortest =>
    compact layout 16 0
      (if mantissa = 0 then ⟨['0'], 1⟩ else Double.shortest mantissa exponent)
  | .fixed places => positional layout.keepPoint (rounded mantissa exponent places) places
  | .scientific places =>
    exponential layout.keepPoint (significant mantissa exponent (places + 1)) places
  | .general digits =>
    let count := max digits 1
    compact layout (if layout.onePlace then count - 1 else count)
      (if layout.keepPoint then count else 0)
      (trimmed (significant mantissa exponent count))

/-- The text of a number, with a minus sign if it has one. -/
def render (layout : Layout) (style : Style) : Double → List Char
  | finite negative mantissa exponent =>
    (if negative then ['-'] else []) ++ magnitudeText layout style mantissa exponent
  | infinite negative => (if negative then ['-'] else []) ++ "inf".toList
  | nan _ => "nan".toList

/-- The shortest text that reads back, recognisable as a number with a fraction. -/
def text (x : Double) : String := String.ofList (render ⟨false, true⟩ .shortest x)

end Cyclometry.Double
