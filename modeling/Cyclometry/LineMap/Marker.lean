import Cyclometry.Number.Decimal
import Cyclometry.Text.Utf8

/-!
# Line markers

A preprocessor leaves **line markers** in its output.  A marker line is

* blanks, `#`, blanks, optionally the word `line` and at least one blank,
* a line number,
* optionally at least one blank and a file name in double quotes, in which a backslash takes
  the next byte with it,
* any number of flags, each a number after at least one blank,
* blanks, and optionally a carriage return,

and nothing else, where blanks are spaces and tabs.  `Marker.read?` takes a line apart by this
grammar.  The grammar leaves no choice at any point, so the parts are determined by the line.
-/

namespace Cyclometry

/-- The parts of a marker line, as written. -/
structure Marker where
  /-- The digits of the line number. -/
  number : List Nat
  /-- The bytes between the quotes, with their backslashes. -/
  name : Option Bytes
  /-- The digits of each flag. -/
  flags : List (List Nat)
  deriving DecidableEq, Repr

namespace Marker

/-- A space or a tab. -/
def isBlank (b : UInt8) : Bool := b == 0x20 || b == 0x09

/-- The value of an ASCII digit. -/
def digit? (b : UInt8) : Option Nat :=
  if 0x30 ≤ b && b ≤ 0x39 then some (b.toNat - 0x30) else none

/-- The byte is a digit. -/
def isDigit (b : UInt8) : Bool := 0x30 ≤ b && b ≤ 0x39

/-- Leading digits, and the rest. -/
def digits (line : Bytes) : List Nat × Bytes :=
  ((line.takeWhile isDigit).filterMap digit?, line.dropWhile isDigit)

/-- The bytes up to the closing quote, and the rest after it. -/
def quoted : Bytes → Option (Bytes × Bytes)
  | [] => none
  | 0x22 :: rest => some ([], rest)
  | [0x5c] => none
  | 0x5c :: b :: rest => (quoted rest).map fun (name, rest) => (0x5c :: b :: name, rest)
  | b :: rest => (quoted rest).map fun (name, rest) => (b :: name, rest)

/-- A line may end here: nothing or a carriage return is left. -/
def atEnd (line : Bytes) : Bool := line == [] || line == [0x0d]

theorem length_digits_snd (line : Bytes) : (digits line).2.length ≤ line.length :=
  (List.dropWhile_suffix isDigit).length_le

/-- The line without its leading blanks. -/
def skipBlanks (line : Bytes) : Bytes := line.dropWhile isBlank

/-- The flags up to the end of the line. -/
def flagsOf (line : Bytes) : Option (List (List Nat)) :=
  if atEnd (skipBlanks line) then some []
  else if (skipBlanks line).length < line.length ∧ (digits (skipBlanks line)).1 ≠ [] then
    (flagsOf (digits (skipBlanks line)).2).map ((digits (skipBlanks line)).1 :: ·)
  else none
  termination_by line.length
  decreasing_by
    have := length_digits_snd (skipBlanks line)
    omega

/-- Drop the word `line` and the blanks after it, if it is there. -/
def dropWord (line : Bytes) : Option Bytes :=
  match line with
  | 0x6c :: 0x69 :: 0x6e :: 0x65 :: rest =>
    if (rest.takeWhile isBlank).isEmpty then none else some (skipBlanks rest)
  | _ => some line

/-- The file name after the line number, if there is one, and what follows. -/
def nameOf (line : Bytes) : Option (Option Bytes × Bytes) :=
  match line.takeWhile isBlank, skipBlanks line with
  | _ :: _, 0x22 :: rest => (quoted rest).map fun (name, rest) => (some name, rest)
  | _, _ => some (none, line)

/-- The parts of a line, if it is a marker line. -/
def read? (line : Bytes) : Option Marker :=
  match skipBlanks line with
  | 0x23 :: rest => do
    let rest ← dropWord (skipBlanks rest)
    let (number, rest) := digits rest
    if number.isEmpty then none
    else
      let (name, rest) ← nameOf rest
      let flags ← flagsOf rest
      some ⟨number, name, flags⟩
  | _ => none

/-- The name without the backslashes that protect its characters. -/
def unescape : List Char → List Char
  | [] => []
  | ['\\'] => ['\\']
  | '\\' :: c :: rest => c :: unescape rest
  | c :: rest => c :: unescape rest

/-- The file name that the quoted bytes spell. -/
def fileName (name : Bytes) : String := String.ofList (unescape (Utf8.decodeLossy name))

/-- A name that stands for no file: empty, or in angle brackets. -/
def isPseudoFile (name : String) : Bool :=
  name.isEmpty || (name.startsWith "<" && name.endsWith ">")

end Marker

end Cyclometry
