import Cyclometry.Value

/-!
# Reading JSON

The reader accepts JSON with three more numbers, `NaN`, `Infinity` and `-Infinity`.  Of two
members of one name the last one counts.  A text that is not JSON is refused with the reason
and the position of the first character that does not fit.
-/

namespace Cyclometry.Json

/-- What is wrong at a position. -/
inductive Cause
  | byteOrderMark
  | expectingValue
  | expectingName
  | expectingColon
  | expectingComma
  | extraData
  | unterminatedText
  | controlCharacter
  | invalidEscape
  | invalidCodeEscape
  deriving DecidableEq, Repr

/-- The wording of each cause. -/
def Cause.text : Cause → String
  | byteOrderMark => "Unexpected UTF-8 BOM (decode using utf-8-sig)"
  | expectingValue => "Expecting value"
  | expectingName => "Expecting property name enclosed in double quotes"
  | expectingColon => "Expecting ':' delimiter"
  | expectingComma => "Expecting ',' delimiter"
  | extraData => "Extra data"
  | unterminatedText => "Unterminated string starting at"
  | controlCharacter => "Invalid control character at"
  | invalidEscape => "Invalid \\escape"
  | invalidCodeEscape => "Invalid \\uXXXX escape"

/-- Why a text cannot be read. -/
inductive Fault
  | malformed (cause : Cause) (position : Nat)
  /-- An integer of too many digits, which begins at a position. -/
  | numeralTooLong (position : Nat)
  deriving DecidableEq, Repr

/-- The cause with the place it has in the text: line and column from one, offset from zero. -/
def Cause.message (cause : Cause) (position : Nat) (source : List Char) : String :=
  let before := source.take position
  let line := before.count '\n' + 1
  let column := (before.reverse.takeWhile (· != '\n')).length + 1
  cause.text ++ ": line " ++ Decimal.ofNat line ++ " column " ++ Decimal.ofNat column ++
    " (char " ++ Decimal.ofNat position ++ ")"

/-- The rest of the text, and the offset at which it begins. -/
structure Input where
  position : Nat
  rest : List Char
  deriving DecidableEq, Repr

namespace Input

/-- Go forward by `n` characters. -/
def advance (i : Input) (n : Nat) : Input := ⟨i.position + n, i.rest.drop n⟩

/-- Refuse the text at this place. -/
def fail {α : Type} (i : Input) (cause : Cause) : Except Fault α :=
  .error (.malformed cause i.position)

end Input

/-- Blanks between the parts of a JSON text. -/
def isBlank (c : Char) : Bool := c == ' ' || c == '\t' || c == '\n' || c == '\r'

/-- Go forward to the next character that is not a blank. -/
def skipBlanks (i : Input) : Input := i.advance (i.rest.takeWhile isBlank).length

/-! ## Texts -/

/-- The number of four hexadecimal digits. -/
def hexQuad? : List Char → Option Nat
  | a :: b :: c :: d :: _ => do
    let a ← Text.hexDigit? a
    let b ← Text.hexDigit? b
    let c ← Text.hexDigit? c
    let d ← Text.hexDigit? d
    pure (Decimal.value 16 [a, b, c, d])
  | _ => none

/-- A code unit as a character; a lone surrogate has none of its own. -/
def unitChar (n : Nat) : Char :=
  if 0xd800 ≤ n ∧ n ≤ 0xdfff then Utf8.replacement else Char.ofNat n

/-- The characters with a one-letter escape. -/
def shortEscape? : Char → Option Char
  | '"' => some '"'
  | '\\' => some '\\'
  | '/' => some '/'
  | 'b' => some (Char.ofNat 8)
  | 'f' => some (Char.ofNat 12)
  | 'n' => some '\n'
  | 'r' => some '\r'
  | 't' => some '\t'
  | _ => none

/-- The escape whose backslash stands at the front of the input: the character it means, and
how many characters it takes after the backslash.  A high surrogate needs a low one after it to make
a character. -/
def escape (start : Nat) (i : Input) : Except Fault (Char × Nat) :=
  match i.rest.drop 1 with
  | [] => .error (.malformed .unterminatedText start)
  | 'u' :: rest =>
    match if 4 < rest.length then hexQuad? rest else none with
    | none => (i.advance 1).fail .invalidCodeEscape
    | some high =>
      match rest.drop 4 with
      | '\\' :: 'u' :: more =>
        if 0xd800 ≤ high ∧ high ≤ 0xdbff ∧ 4 < more.length then
          match hexQuad? more with
          | none => (i.advance 7).fail .invalidCodeEscape
          | some low =>
            if 0xdc00 ≤ low ∧ low ≤ 0xdfff then
              .ok (Char.ofNat (0x10000 + (high - 0xd800) * 0x400 + (low - 0xdc00)), 11)
            else .ok (unitChar high, 5)
        else .ok (unitChar high, 5)
      | _ => .ok (unitChar high, 5)
  | c :: _ =>
    match shortEscape? c with
    | some meant => .ok (meant, 1)
    | none => i.fail .invalidEscape

/-- The rest of a text whose opening quote stands at `start`.  `done` has the characters so
far, last one first. -/
def readText (start : Nat) (done : List Char) (i : Input) : Except Fault (String × Input) :=
  match _h : i.rest with
  | [] => .error (.malformed .unterminatedText start)
  | '"' :: _ => .ok (String.ofList done.reverse, i.advance 1)
  | '\\' :: _ =>
    match escape start i with
    | .error fault => .error fault
    | .ok (c, n) => readText start (c :: done) (i.advance (n + 1))
  | c :: _ =>
    if c.toNat < 0x20 then i.fail .controlCharacter
    else readText start (c :: done) (i.advance 1)
  termination_by i.rest.length
  decreasing_by
    all_goals
      have : (i.rest.drop 1).length < i.rest.length := by rw [_h]; exact Nat.lt_succ_self _
      simp only [Input.advance, List.length_drop] at this ⊢
      omega

/-! ## Numbers -/

/-- The parts of a number. -/
structure Numeral where
  negative : Bool
  whole : List Nat
  fraction : List Nat
  exponent : Option (Bool × List Nat)
  /-- How many characters the number takes. -/
  length : Nat
  deriving DecidableEq, Repr

/-- Leading decimal digits. -/
def leadingDigits (s : List Char) : List Nat :=
  (s.takeWhile fun c => (Text.asciiDigit? c).isSome).filterMap Text.asciiDigit?

/-- An exponent: a letter, an optional sign and digits.  The sign and the number of characters
are given with the digits. -/
def exponentOf? : List Char → Option (Bool × List Nat × Nat)
  | e :: rest =>
    if e == 'e' || e == 'E' then
      let (negative, rest, taken) := match rest with
        | '-' :: rest => (true, rest, 2)
        | '+' :: rest => (false, rest, 2)
        | _ => (false, rest, 1)
      match leadingDigits rest with
      | [] => none
      | ds => some (negative, ds, taken + ds.length)
    else none
  | [] => none

/-- The whole part at the front of a text: a single zero, or digits that begin with another
one. -/
def wholeOf? (s : List Char) : Option (List Nat) :=
  match leadingDigits s with
  | [] => none
  | 0 :: _ => some [0]
  | ds => some ds

/-- The digits behind a point. -/
def fractionOf : List Char → List Nat
  | '.' :: rest => leadingDigits rest
  | _ => []

/-- The number at the front of a text, behind its sign.  A point counts only with a digit after
it. -/
def unsigned? (negative : Bool) (s : List Char) : Option Numeral := do
  let whole ← wholeOf? s
  let rest := s.drop whole.length
  let fraction := fractionOf rest
  let point := if fraction.isEmpty then 0 else 1 + fraction.length
  let exponent := exponentOf? (rest.drop point)
  pure {
    negative, whole, fraction,
    exponent := exponent.map fun (negative, ds, _) => (negative, ds)
    length := (if negative then 1 else 0) + whole.length + point +
      ((exponent.map fun (_, _, taken) => taken).getD 0) }

/-- The number at the front of a text. -/
def numeral? : List Char → Option Numeral
  | '-' :: rest => unsigned? true rest
  | s => unsigned? false s

/-- The value of a number, which begins at a position: an integer unless it has a fraction or an
exponent. -/
def Numeral.value (n : Numeral) (position : Nat) : Except Fault Value :=
  if n.fraction.isEmpty && n.exponent.isNone then
    match Decimal.read n.whole with
    | .ok magnitude => .ok (.int (Double.signed n.negative magnitude))
    | .error _ => .error (.numeralTooLong position)
  else
    let shift : Int := match n.exponent with
      | some (negative, ds) => Double.signed negative (Decimal.value 10 ds)
      | none => 0
    .ok (.float (Double.ofDecimal n.negative (Decimal.value 10 (n.whole ++ n.fraction))
      (shift - n.fraction.length)))

/-- The words that stand for a value. -/
def words : List (List Char × Value) := [
  ("null".toList, .null), ("true".toList, .bool true), ("false".toList, .bool false),
  ("NaN".toList, .float (.nan 0)), ("Infinity".toList, .float (.infinite false)),
  ("-Infinity".toList, .float (.infinite true))]

/-- A word or a number. -/
def readAtom (i : Input) : Except Fault (Value × Input) :=
  match words.find? fun (word, _) => word.isPrefixOf i.rest with
  | some (word, value) => .ok (value, i.advance word.length)
  | none =>
    match numeral? i.rest with
    | some n => (n.value i.position).map fun value => (value, i.advance n.length)
    | none => i.fail .expectingValue

/-! ## Values -/

mutual

/-- The value at the front of the input. -/
def readValue : Nat → Input → Except Fault (Value × Input)
  | 0, i => i.fail .expectingValue
  | fuel + 1, i =>
    match i.rest with
    | '"' :: _ => do
      let (s, i) ← readText i.position [] (i.advance 1)
      pure (.text s, i)
    | '{' :: _ =>
      let i := skipBlanks (i.advance 1)
      match i.rest with
      | '}' :: _ => .ok (.map [], i.advance 1)
      | _ => readMembers fuel [] i
    | '[' :: _ =>
      let i := skipBlanks (i.advance 1)
      match i.rest with
      | ']' :: _ => .ok (.list [], i.advance 1)
      | _ => readItems fuel [] i
    | _ => readAtom i

/-- The items of a list up to its end.  `done` has those read so far, last one first. -/
def readItems : Nat → List Value → Input → Except Fault (Value × Input)
  | 0, _, i => i.fail .expectingValue
  | fuel + 1, done, i => do
    let (value, i) ← readValue fuel i
    let i := skipBlanks i
    match i.rest with
    | ']' :: _ => .ok (.list (value :: done).reverse, i.advance 1)
    | ',' :: _ => readItems fuel (value :: done) (skipBlanks (i.advance 1))
    | _ => i.fail .expectingComma

/-- The members of an object up to its end. -/
def readMembers : Nat → Fields → Input → Except Fault (Value × Input)
  | 0, _, i => i.fail .expectingName
  | fuel + 1, done, i =>
    match i.rest with
    | '"' :: _ => do
      let (name, i) ← readText i.position [] (i.advance 1)
      let i := skipBlanks i
      match i.rest with
      | ':' :: _ => do
        let (value, i) ← readValue fuel (skipBlanks (i.advance 1))
        let done := done.set (.text name) value
        let i := skipBlanks i
        match i.rest with
        | '}' :: _ => .ok (.map done, i.advance 1)
        | ',' :: _ => readMembers fuel done (skipBlanks (i.advance 1))
        | _ => i.fail .expectingComma
      | _ => i.fail .expectingColon
    | _ => i.fail .expectingName

end

/-- The value of a JSON text.  Of two nested calls of the reader at least one passes a
character, so twice the length bounds their depth. -/
def read (source : List Char) : Except Fault Value :=
  if source.head? = some (Char.ofNat 0xfeff) then .error (.malformed .byteOrderMark 0)
  else do
    let (value, i) ← readValue (2 * source.length + 2) (skipBlanks ⟨0, source⟩)
    let i := skipBlanks i
    if i.rest.isEmpty then .ok value else i.fail .extraData

end Cyclometry.Json
