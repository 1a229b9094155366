import Cyclometry.Number.Decimal

/-!
# YAML input

The rest of a YAML text together with its place, and the classes of characters that its rules
speak of.  A line ends at a line feed, a carriage return or both, and at the line and paragraph
separators of Unicode.
-/

namespace Cyclometry.Yaml

/-- Why a text cannot be read. -/
inductive Fault
  /-- The text breaks a rule of the format. -/
  | malformed
  /-- A number that no character has. -/
  | noSuchCharacter
  /-- A number of a character beyond any word of the machine. -/
  | characterTooLarge
  /-- An integer of too many digits. -/
  | numeralTooLong
  /-- A text that its tag says is a number, but is not. -/
  | notANumber
  /-- Nothing where a number should be. -/
  | emptyNumber
  /-- A text that its tag says is a truth value, but is not. -/
  | notATruthValue (text : String)
  /-- A text that its tag says is a date, but is not. -/
  | notADate
  /-- A date or a time that does not exist. -/
  | noSuchDate
  /-- A mapping that stands for a text, where only a text can be a date. -/
  | dateOfMapping
  /-- A power that is beyond the range of floating point numbers. -/
  | numberTooLarge
  /-- The text is nested too deep, or a node stands for itself without end. -/
  | nestedTooDeep
  deriving DecidableEq, Repr

/-! ## Characters -/

/-- The character ends a line. -/
def isBreak (c : Char) : Bool :=
  c == '\n' || c == '\r' || c.toNat == 0x85 || c.toNat == 0x2028 || c.toNat == 0x2029

/-- A space, a tab, the end of a line or the end of the text. -/
def isGap : Option Char → Bool
  | none => true
  | some c => c == ' ' || c == '\t' || isBreak c

/-- A space, the end of a line or the end of the text. -/
def isSpaceOrEnd : Option Char → Bool
  | none => true
  | some c => c == ' ' || isBreak c

/-- The end of a line or of the text. -/
def isLineEnd : Option Char → Bool
  | none => true
  | some c => isBreak c

/-- A character of an anchor, a directive or a tag handle. -/
def isWordChar (c : Char) : Bool :=
  ('0' ≤ c && c ≤ '9') || ('A' ≤ c && c ≤ 'Z') || ('a' ≤ c && c ≤ 'z') || c == '-' || c == '_'

/-- The character may stand in a YAML text. -/
def isAllowed (c : Char) : Bool :=
  c == '\t' || c == '\n' || c == '\r' || (0x20 ≤ c.toNat && c.toNat ≤ 0x7e) ||
    c.toNat == 0x85 || (0xa0 ≤ c.toNat && c.toNat ≤ 0xfffd) || 0x10000 ≤ c.toNat

/-- The mark that may stand at the front of a text and takes no column. -/
def byteOrderMark : Char := Char.ofNat 0xfeff

/-! ## Places -/

/-- The rest of the text, how many characters it has, and the line and the column where it
begins. -/
structure Input where
  rest : List Char
  left : Nat
  line : Nat
  column : Nat
  deriving DecidableEq, Repr

namespace Input

/-- The beginning of a text. -/
def start (s : List Char) : Input := ⟨s, s.length, 0, 0⟩

/-- Pass one character. -/
def step (i : Input) : Input :=
  match i.rest with
  | [] => i
  | c :: rest =>
    if isBreak c && !(c == '\r' && rest.head? == some '\n') then
      ⟨rest, i.left - 1, i.line + 1, 0⟩
    else if c == byteOrderMark then ⟨rest, i.left - 1, i.line, i.column⟩
    else ⟨rest, i.left - 1, i.line, i.column + 1⟩

/-- Pass some characters. -/
def advance (i : Input) : Nat → Input
  | 0 => i
  | n + 1 => i.step.advance n

/-- The next character. -/
def peek (i : Input) : Option Char := i.rest.head?

/-- The character `n` places further on. -/
def peekAt (i : Input) (n : Nat) : Option Char := i.rest[n]?

/-- The characters in front of the first one that fails a test. -/
def ahead (i : Input) (p : Char → Bool) : List Char := i.rest.takeWhile p

/-- Pass the characters that satisfy a test. -/
def skipWhile (i : Input) (p : Char → Bool) : Input := i.advance (i.ahead p).length

/-- Pass spaces. -/
def skipSpaces (i : Input) : Input := i.skipWhile (· == ' ')

/-- Pass a comment, if one begins here. -/
def skipComment (i : Input) : Input :=
  if i.peek == some '#' then i.skipWhile fun c => !isBreak c else i

/-- The end of a line, as text, and what follows.  The common ends are all a line feed. -/
def lineBreak (i : Input) : List Char × Input :=
  match i.rest with
  | '\r' :: '\n' :: _ => (['\n'], i.advance 2)
  | c :: _ =>
    if c == '\n' || c == '\r' || c.toNat == 0x85 then (['\n'], i.advance 1)
    else if isBreak c then ([c], i.advance 1)
    else ([], i)
  | [] => ([], i)

/-- A document mark begins here: three dashes or three dots, and a gap. -/
def atDocumentMark (i : Input) : Bool :=
  (i.rest.take 3 == ['-', '-', '-'] || i.rest.take 3 == ['.', '.', '.']) && isGap (i.peekAt 3)

/-- Pass the rest of a line that may only have a comment. -/
def restOfLine (i : Input) : Except Fault Input :=
  let i := i.skipSpaces.skipComment
  if isLineEnd i.peek then .ok i.lineBreak.2 else .error .malformed

end Input

end Cyclometry.Yaml
