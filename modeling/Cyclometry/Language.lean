import Cyclometry.Path.Basic
import Cyclometry.Text.LowerCase

/-!
# Source languages

The suffix of a file name decides its language.  The spelling as it is comes first, since
`.C` is a C++ suffix, and its lower-case form second.
-/

namespace Cyclometry

/-- A language whose functions are measured. -/
inductive Language
  | c
  | cpp
  deriving DecidableEq, Repr

namespace Language

/-- The name of a language. -/
def name : Language → String
  | c => "c"
  | cpp => "cpp"

/-- The suffixes of C sources and headers. -/
def cSuffixes : List String := [".c", ".i", ".h"]

/-- The suffixes of C++ sources and headers. -/
def cppSuffixes : List String :=
  [".cc", ".cpp", ".cxx", ".c++", ".C", ".ii", ".hpp", ".hh", ".hxx", ".h++"]

/-- The language of a suffix, in this spelling. -/
def ofSuffix? (suffix : String) : Option Language :=
  if suffix ∈ cSuffixes then some c
  else if suffix ∈ cppSuffixes then some cpp
  else none

/-- The language of a file. -/
def ofPath? (path : String) : Option Language :=
  let suffix := (Path.ofString path).suffix
  (ofSuffix? suffix).or (ofSuffix? (Text.lower suffix))

/-- The language that a name asks for: any name but that of C stands for C++, which has nearly all
of C in it. -/
def ofName (name : String) : Language := if name = "c" then c else cpp

end Language

end Cyclometry
