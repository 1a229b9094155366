import Cyclometry.Text.Printable

/-!
# Quoted text

A text in quotes, on one line.  Single quotes are used unless the text has a single quote and
no double quote.  The backslash and the quote in use get a backslash in front, tab, line feed
and carriage return have a short escape, and any other unprintable character is written by its
code point with the narrowest of two, four or eight hexadecimal digits.
-/

namespace Cyclometry.Text.Quoted

/-- Which characters beyond the unprintable ones are written by their code point. -/
inductive Alphabet
  | unicode
  | ascii
  deriving DecidableEq, Repr

/-- The character is written as itself when it is neither a backslash nor a quote. -/
def Alphabet.shows (alphabet : Alphabet) (c : Char) : Bool :=
  match alphabet with
  | .unicode => isPrintable c
  | .ascii => decide (c.toNat < 0x7f) && isPrintable c

/-- The lower-case hexadecimal digits of `n`, filled up with zeros to `width`. -/
def hex (width n : Nat) : List Char :=
  let digits := Nat.toDigits 16 n
  List.replicate (width - digits.length) '0' ++ digits

/-- The escape by code point. -/
def codeEscape (c : Char) : List Char :=
  if c.toNat < 0x100 then '\\' :: 'x' :: hex 2 c.toNat
  else if c.toNat < 0x10000 then '\\' :: 'u' :: hex 4 c.toNat
  else '\\' :: 'U' :: hex 8 c.toNat

/-- One character between quotes. -/
def encodeChar (alphabet : Alphabet) (quote c : Char) : List Char :=
  if c = quote ∨ c = '\\' then ['\\', c]
  else if c = '\t' then ['\\', 't']
  else if c = '\n' then ['\\', 'n']
  else if c = '\r' then ['\\', 'r']
  else if alphabet.shows c then [c]
  else codeEscape c

/-- The quote to use: single, unless the text has only single quotes in it. -/
def quoteFor (s : List Char) : Char :=
  if s.contains '\'' && !s.contains '"' then '"' else '\''

/-- The text in quotes. -/
def encode (alphabet : Alphabet) (s : String) : String :=
  let quote := quoteFor s.toList
  String.ofList (quote :: s.toList.flatMap (encodeChar alphabet quote) ++ [quote])

end Cyclometry.Text.Quoted

namespace Cyclometry.Text

/-- The text in quotes, printable characters of every script as they are. -/
def quoted (s : String) : String := Quoted.encode .unicode s

end Cyclometry.Text
