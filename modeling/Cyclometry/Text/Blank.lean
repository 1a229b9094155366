import Cyclometry.Text.Ranges

/-!
# Blanks and words

Blanks are the Unicode white space characters together with the four ASCII information
separators.  A text is read as its **words**, the maximal runs of non-blank characters, and
`squeeze` writes them back with single spaces between them.
-/

namespace Cyclometry.Text

/-- Code point ranges of the blanks. -/
def blankRanges : List (Nat × Nat) := [
  (0x9, 0xd), (0x1c, 0x20), (0x85, 0x85), (0xa0, 0xa0), (0x1680, 0x1680), (0x2000, 0x200a),
  (0x2028, 0x2029), (0x202f, 0x202f), (0x205f, 0x205f), (0x3000, 0x3000)]

/-- A white space character. -/
def isBlank (c : Char) : Bool := inRanges blankRanges c

/-- Put a word in front of a list of words, unless it is empty. -/
def consWord (word : List Char) (words : List (List Char)) : List (List Char) :=
  if word.isEmpty then words else word :: words

/-- The beginning of a text up to its first blank, and the words after it. -/
def wordSplit : List Char → List Char × List (List Char)
  | [] => ([], [])
  | c :: rest =>
    let (word, words) := wordSplit rest
    if isBlank c then ([], consWord word words) else (c :: word, words)

/-- The maximal runs of non-blank characters. -/
def words (s : List Char) : List (List Char) :=
  let (word, rest) := wordSplit s
  consWord word rest

/-- The words with one space between neighbours. -/
def unwords : List (List Char) → List Char
  | [] => []
  | [word] => word
  | word :: rest => word ++ ' ' :: unwords rest

/-- The words of a text with one space between neighbours and none at the ends. -/
def squeeze (s : List Char) : List Char := unwords (words s)

end Cyclometry.Text
