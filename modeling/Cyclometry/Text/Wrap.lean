/-!
# Wrapping lines

Words are put on a line as long as they fit.  A word that is too long for any line has a line
of its own.
-/

namespace Cyclometry.Text

/-- Go on with a line that has been started. -/
def wrapFrom (width : Nat) (line : String) : List String → List String
  | [] => [line]
  | word :: rest =>
    if line.length + 1 + word.length ≤ width then wrapFrom width (line ++ " " ++ word) rest
    else line :: wrapFrom width word rest

/-- Words on lines of at most so many characters. -/
def wrap (width : Nat) : List String → List String
  | [] => []
  | word :: rest => wrapFrom width word rest

end Cyclometry.Text
