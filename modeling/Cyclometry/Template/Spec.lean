import Cyclometry.Template.Limits

/-!
# Format specifications

How a value is laid out in a message:

    [[fill] align] [sign] [z] [#] [0] [width] [separator] [. precision] [type]

A number is written as padding, sign, base mark, digits in groups, the rest of the number and
padding again; with `=` the padding stands between the sign and the digits, and zeros that
fill up a number are grouped like its digits.
-/

namespace Cyclometry.Template

/-- Where the padding goes. -/
inductive Align
  | left
  | right
  | center
  | afterSign
  deriving DecidableEq, Repr

/-- Which signs are written. -/
inductive SignStyle
  | onlyMinus
  | plus
  | space
  deriving DecidableEq, Repr

/-- A format specification. -/
structure Spec where
  fill : Char
  align : Align
  sign : Option SignStyle
  noNegativeZero : Bool
  alternate : Bool
  width : Option Nat
  separator : Option Char
  precision : Option Nat
  /-- The type letter. -/
  type : Option Char
  deriving DecidableEq, Repr

/-- The largest number that a width or an index may be. -/
def maxNumber : Nat := Nat.pow 2 63 - 1

/-- The number that some digits of any script spell, if it is not too large. -/
def number (ds : List Nat) : Except Fault Nat :=
  if maxNumber < Decimal.value 10 ds then .error .malformed else .ok (Decimal.value 10 ds)

/-- Leading decimal digits of any script. -/
def leadingDigits (s : List Char) : List Nat :=
  (s.takeWhile fun c => (Text.digitValue? c).isSome).filterMap Text.digitValue?

/-- Leading digits as a number, and the rest. -/
def leadingNumber (s : List Char) : Except Fault (Option Nat × List Char) :=
  match leadingDigits s with
  | [] => .ok (none, s)
  | ds => (number ds).map fun n => (some n, s.drop ds.length)

/-- The alignment of a mark. -/
def Align.ofChar? : Char → Option Align
  | '<' => some .left
  | '>' => some .right
  | '^' => some .center
  | '=' => some .afterSign
  | _ => none

/-- The sign style of a mark. -/
def SignStyle.ofChar? : Char → Option SignStyle
  | '-' => some .onlyMinus
  | '+' => some .plus
  | ' ' => some .space
  | _ => none

/-- Fill and alignment at the front.  A mark in second place makes any first character the
fill. -/
def readAlign (s : List Char) : Option Char × Option Align × List Char :=
  match s with
  | [] => (none, none, [])
  | [a] =>
    match Align.ofChar? a with
    | some align => (none, some align, [])
    | none => (none, none, s)
  | a :: b :: rest =>
    match Align.ofChar? b with
    | some align => (some a, some align, rest)
    | none =>
      match Align.ofChar? a with
      | some align => (none, some align, b :: rest)
      | none => (none, none, s)

/-- A mark at the front, if it is there. -/
def readMark (mark : Char) (s : List Char) : Bool × List Char :=
  match s with
  | c :: rest => if c == mark then (true, rest) else (false, s)
  | [] => (false, s)

/-- The thousands separator at the front: a comma or an underscore, not both. -/
def readSeparator (s : List Char) : Except Fault (Option Char × List Char) :=
  match s with
  | ',' :: '_' :: _ => .error .badSpec
  | '_' :: ',' :: _ => .error .badSpec
  | ',' :: rest => .ok (some ',', rest)
  | '_' :: rest => .ok (some '_', rest)
  | _ => .ok (none, s)

/-- The precision at the front: a point needs a number after it. -/
def readPrecision (s : List Char) : Except Fault (Option Nat × List Char) :=
  match s with
  | '.' :: rest => do
    let (n, rest) ← leadingNumber rest
    if n.isNone then .error .badSpec else pure (n, rest)
  | _ => .ok (none, s)

/-- The type letters that a separator goes with. -/
def separatorAllowed (separator : Char) (type : Option Char) : Bool :=
  match type with
  | none => true
  | some t =>
    ['d', 'e', 'f', 'g', 'E', 'G', '%', 'F'].contains t ||
      (separator == '_' && ['b', 'o', 'x', 'X'].contains t)

/-- The type letter that a character is.  Where there is none by default, a NUL character is
none either. -/
def typeLetter (default : Option Char) (t : Char) : Option Char :=
  if default.isNone && t.toNat == 0 then none else some t

/-- Read a specification.  `numeric` says that values of the kind at hand align to the right;
`default` is the type letter they have without one. -/
def Spec.read (numeric : Bool) (default : Option Char) (s : List Char) : Except Fault Spec := do
  let (fill, align, s) := readAlign s
  let sign := (s.head?).bind SignStyle.ofChar?
  let s := if sign.isSome then s.drop 1 else s
  let (noNegativeZero, s) := readMark 'z' s
  let (alternate, s) := readMark '#' s
  let (zeros, s) := if fill.isNone then readMark '0' s else (false, s)
  let (width, s) ← leadingNumber s
  let (separator, s) ← readSeparator s
  let (precision, s) ← readPrecision s
  let type ← match s with
    | [] => pure default
    | [t] => pure (typeLetter default t)
    | _ => .error .badSpec
  if (separator.map fun c => !separatorAllowed c type).getD false then .error .badSpec
  else
    let natural : Align :=
      if !numeric then .left else if zeros then .afterSign else .right
    pure {
      fill := fill.getD (if zeros then '0' else ' ')
      align := align.getD natural
      sign, noNegativeZero, alternate, width, separator, precision, type }

/-! ## Layout -/

/-- Padding on the left and on the right of `length` characters. -/
def padding (spec : Spec) (length : Nat) : Nat × Nat :=
  let missing := spec.width.getD 0 - length
  match spec.align with
  | .left => (0, missing)
  | .right => (missing, 0)
  | .center => (missing / 2, missing - missing / 2)
  | .afterSign => (0, missing)

/-- Digits in groups from the right, `reversed` being the digits last one first.  Zeros fill
them up to `width` characters; a separator never stands in front. -/
def grouped (size : Nat) (separator : Char) : Nat → List Char → Int → List Char
  | 0, reversed, _ => reversed
  | fuel + 1, reversed, width =>
    let count := min size (max (max (reversed.length : Int) width).toNat 1)
    let taken := reversed.take count
    let group := taken ++ List.replicate (count - taken.length) '0'
    let rest := reversed.drop count
    let width := width - count
    if rest.isEmpty && decide (width ≤ 0) then group
    else group ++ separator :: grouped size separator fuel rest (width - 1)

/-- Digits with separators and filled up with zeros. -/
def groupDigits (size : Nat) (separator : Option Char) (digits : List Char) (width : Int) :
    List Char :=
  match separator with
  | none => List.replicate (width.toNat - digits.length) '0' ++ digits
  | some c => (grouped size c (digits.length + width.toNat + 1) digits.reverse width).reverse

/-- A number taken apart. -/
structure Parts where
  negative : Bool
  /-- The mark of the base. -/
  base : List Char
  /-- The digits that are grouped. -/
  digits : List Char
  /-- What follows the digits: a fraction, an exponent, a percent sign. -/
  rest : List Char
  /-- How many digits stand between two separators. -/
  groupSize : Nat

/-- The sign in front of a number. -/
def signText (style : Option SignStyle) (negative : Bool) : List Char :=
  if negative then ['-']
  else
    match style with
    | some .plus => ['+']
    | some .space => [' ']
    | _ => []

/-- A number as the specification lays it out. -/
def layoutNumber (spec : Spec) (parts : Parts) : List Char :=
  let sign := signText spec.sign parts.negative
  let other := sign.length + parts.base.length + parts.rest.length
  let width : Int :=
    if spec.fill == '0' && spec.align == .afterSign then (spec.width.getD 0 : Int) - other
    else 0
  let digits :=
    if parts.digits.isEmpty then []
    else groupDigits parts.groupSize spec.separator parts.digits width
  let missing := spec.width.getD 0 - (other + digits.length)
  let body := digits ++ parts.rest
  if spec.align == .afterSign then
    sign ++ parts.base ++ List.replicate missing spec.fill ++ body
  else
    let (left, right) := padding spec (other + digits.length)
    List.replicate left spec.fill ++ sign ++ parts.base ++ body ++
      List.replicate right spec.fill

/-! ## Values -/

/-- A width that no message has room for. -/
def hugeWidth : Nat := Nat.pow 10 9

/-- There has to be room for the width. -/
def Spec.checkRoom (spec : Spec) : Except Fault Unit :=
  if hugeWidth ≤ spec.width.getD 0 then .error .tooLong else .ok ()

/-- A text: cut to the precision and padded to the width. -/
def formatText (s : List Char) (spec : Spec) : Except Fault (List Char) :=
  if spec.sign.isSome || spec.noNegativeZero || spec.alternate || spec.align == .afterSign ||
      spec.type != some 's' then
    .error .badSpec
  else
    let s := match spec.precision with
      | some n => s.take n
      | none => s
    do
      spec.checkRoom
      let (left, right) := padding spec s.length
      pure (List.replicate left spec.fill ++ s ++ List.replicate right spec.fill)

/-- ASCII letters as capitals. -/
def capitals (s : List Char) : List Char := s.map Char.toUpper

/-- The style of a floating point type letter. -/
def floatStyle (type : Option Char) (precision : Option Nat) : Option Double.Style :=
  match type with
  | none => some ((precision.map Double.Style.general).getD .shortest)
  | some 'e' | some 'E' => some (.scientific (precision.getD 6))
  | some 'f' | some 'F' | some '%' => some (.fixed (precision.getD 6))
  | some 'g' | some 'G' | some 'n' => some (.general (precision.getD 6))
  | _ => none

/-- The digits of a magnitude, divided after the whole part. -/
def divideDigits (s : List Char) : List Char × List Char :=
  (s.takeWhile fun c => (Text.asciiDigit? c).isSome,
    s.dropWhile fun c => (Text.asciiDigit? c).isSome)

/-- A text of digits has no digit but zeros in front of its exponent. -/
def isZeroText (s : List Char) : Bool :=
  (s.takeWhile fun c => c != 'e' && c != 'E').all fun c => c == '0' || c == '.' || c == '-'

/-- The largest precision of a floating point number. -/
def maxPrecision : Nat := Nat.pow 2 31 - 1

/-- The digits that a style asks for have to fit into memory.  Significant digits are only
filled up with zeros if `alternate` says so. -/
def checkPlaces (alternate : Bool) : Double.Style → Except Fault Unit
  | .fixed places => if hugeWidth ≤ places then .error .tooLong else .ok ()
  | .scientific places => if hugeWidth ≤ places then .error .tooLong else .ok ()
  | .general digits => if alternate && hugeWidth ≤ digits then .error .tooLong else .ok ()
  | .shortest => .ok ()

/-- A floating point number. -/
def formatFloat (x : Double) (spec : Spec) : Except Fault (List Char) :=
  match floatStyle spec.type spec.precision with
  | none => .error .badSpec
  | some style => do
    if maxPrecision < spec.precision.getD 0 then throw .badSpec
    if x.isFinite then checkPlaces spec.alternate style
    spec.checkRoom
    let x := if spec.type == some '%' then x.mul (Double.ofInt 100) else x
    let text := x.render ⟨spec.alternate, spec.type.isNone⟩ style
    let text := if spec.noNegativeZero && isZeroText text then text.filter (· != '-') else text
    let text := if spec.type == some '%' then text ++ ['%'] else text
    let text :=
      if [some 'E', some 'F', some 'G'].contains spec.type then capitals text else text
    let negative := text.head? == some '-'
    let (digits, rest) := divideDigits (if negative then text.drop 1 else text)
    pure (layoutNumber spec ⟨negative, [], digits, rest, 3⟩)

/-- Base, base mark and size of the digit groups of an integer type letter. -/
def integerBase? (type : Option Char) : Option (Nat × List Char × Nat) :=
  match type with
  | some 'b' => some (2, ['0', 'b'], 4)
  | some 'o' => some (8, ['0', 'o'], 4)
  | some 'x' | some 'X' => some (16, ['0', 'x'], 4)
  | some 'd' | some 'n' => some (10, [], 3)
  | _ => none

/-- The character of a code point. -/
def codePoint (n : Int) : Except Fault Char :=
  if 0 ≤ n ∧ n < 0x110000 then .ok (Char.ofNat n.toNat) else .error .tooLarge

/-- An integer.  The limits are about decimal digits only. -/
def formatInteger (limits : Limits) (n : Int) (spec : Spec) : Except Fault (List Char) :=
  match integerBase? spec.type with
  | some (base, mark, size) =>
    if spec.precision.isSome || spec.noNegativeZero then .error .badSpec
    else do
      if base == 10 then limits.check (.int n)
      spec.checkRoom
      let digits := Nat.toDigits base n.natAbs
      let upper := spec.type == some 'X'
      pure (layoutNumber spec {
        negative := decide (n < 0)
        base := if !spec.alternate then [] else if upper then capitals mark else mark
        digits := if upper then capitals digits else digits
        rest := []
        groupSize := size })
  | none =>
    if spec.type == some 'c' then
      if spec.precision.isSome || spec.noNegativeZero || spec.sign.isSome || spec.alternate then
        .error .badSpec
      else do
        let c ← codePoint n
        spec.checkRoom
        pure (layoutNumber spec ⟨false, [], [], [c], 3⟩)
    else if (floatStyle spec.type spec.precision).isSome then
      match Double.ofInt n with
      | .infinite _ => .error .tooLarge
      | x => formatFloat x spec
    else .error .badSpec

/-- A value as a specification lays it out.  Without one every value has its plain text;
with one, only texts and numbers can be laid out. -/
def format (limits : Limits) (value : Value) (spec : List Char) : Except Fault (List Char) :=
  if spec.isEmpty then (limits.check value).map fun _ => value.plain.toList
  else
    match value with
    | .text s => do formatText s.toList (← Spec.read false (some 's') spec)
    | .int n => do formatInteger limits n (← Spec.read true (some 'd') spec)
    | .bool b => do formatInteger limits (if b then 1 else 0) (← Spec.read true (some 'd') spec)
    | .float x => do formatFloat x (← Spec.read true none spec)
    | _ => .error .unsupported

end Cyclometry.Template
