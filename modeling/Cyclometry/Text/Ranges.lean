/-!
# Sets of characters given by code point ranges

The character classes of this library (blanks, letters, printable characters, cased letters)
are properties of the Unicode character database.  Each is a table of inclusive code point
ranges, and membership is one pass over the table.
-/

namespace Cyclometry.Text

/-- The character lies in one of the inclusive code point ranges. -/
def inRanges (table : List (Nat × Nat)) (c : Char) : Bool :=
  table.any fun range => decide (range.1 ≤ c.toNat) && decide (c.toNat ≤ range.2)

end Cyclometry.Text
