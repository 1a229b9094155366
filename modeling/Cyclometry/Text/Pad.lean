/-!
# Columns

Texts that take a certain number of columns.  A text that is longer stays as it is.
-/

namespace Cyclometry.Text

/-- So many spaces. -/
def spaces (n : Nat) : String := String.ofList (List.replicate n ' ')

/-- A text filled up with spaces on the left. -/
def padLeft (width : Nat) (s : String) : String := spaces (width - s.length) ++ s

/-- A text filled up with spaces on the right. -/
def padRight (width : Nat) (s : String) : String := s ++ spaces (width - s.length)

end Cyclometry.Text
