import Cyclometry.Text.Blank
import Cyclometry.Text.Letter

/-!
# Names of operator functions

An operator function is named by the word `operator` and what it overloads.  The same
operator can be spelled with different blanks, so its name is brought to one form: a symbol
follows the word directly and has no blanks, and a word (a type, `new`, `delete`) follows
after one space.
-/

namespace Cyclometry.Grammar

/-- The word that every operator name begins with. -/
def operatorWord : List Char := "operator".toList

/-- The rest of the name is spelled with words. -/
def isWordy : List Char → Bool
  | [] => false
  | c :: _ => Text.isLetter c || c == '_'

/-- The one form of an operator name.  The word in front is taken for granted. -/
def operatorName (s : List Char) : List Char :=
  let rest := Text.squeeze (s.drop operatorWord.length)
  if isWordy rest then operatorWord ++ ' ' :: rest
  else operatorWord ++ rest.filter (· != ' ')

end Cyclometry.Grammar
