import Cyclometry.Text.Digit
import Cyclometry.Yaml.Input

/-!
# YAML scalars

The three ways to write a text: plain, in quotes, and as a block of lines.  In the first two,
a line end with its surrounding blanks is a space, and further empty lines are line feeds; in
a block, the lines are kept or folded as its header says.
-/

namespace Cyclometry.Yaml

/-! ## Plain scalars -/

/-- The plain scalar ends at this character: at a gap, at a colon in front of a gap, and within
brackets also at the marks of collections. -/
def endsPlain (inFlow : Bool) (c : Char) (next : Option Char) : Bool :=
  isGap (some c) ||
    (c == ':' && (isGap next ||
      (inFlow && (next.map fun c => [',', '[', ']', '{', '}'].contains c).getD false))) ||
    (inFlow && [',', '?', '[', ']', '{', '}'].contains c)

/-- How many characters a plain scalar goes on for. -/
def plainLength (inFlow : Bool) : List Char → Nat
  | [] => 0
  | c :: rest => if endsPlain inFlow c rest.head? then 0 else plainLength inFlow rest + 1

/-- Further line ends within a plain scalar, `done` having those so far.  `none` if a document
mark ends the scalar. -/
def plainBreaks : Nat → List Char → Input → Option (List Char) × Input
  | 0, done, i => (some done, i)
  | fuel + 1, done, i =>
    match i.peek with
    | some ' ' => plainBreaks fuel done i.step
    | some c =>
      if isBreak c then
        let (text, i) := i.lineBreak
        if i.atDocumentMark then (none, i) else plainBreaks fuel (done ++ text) i
      else (some done, i)
    | none => (some done, i)

/-- What stands between two parts of a folded text: a space for a single line feed, and the
line ends after the first one. -/
def folded (first breaks : List Char) : List Char :=
  if first != ['\n'] then first ++ breaks
  else if breaks.isEmpty then [' ']
  else breaks

/-- The blanks after a part of a plain scalar, as the text that stands for them, and whether a
line has ended.  An empty text ends the scalar. -/
def plainSpaces (i : Input) : List Char × Bool × Input :=
  let spaces := i.ahead (· == ' ')
  let i := i.advance spaces.length
  if (i.peek.map isBreak).getD false then
    let (first, i) := i.lineBreak
    if i.atDocumentMark then ([], true, i)
    else
      match plainBreaks (i.left + 1) [] i with
      | (none, i) => ([], true, i)
      | (some breaks, i) => (folded first breaks, true, i)
  else (spaces, false, i)

/-- The text of a plain scalar and whether its last blanks end a line.  `spaces` stands
between the text so far, last character first, and the next part. -/
def plainParts (inFlow : Bool) (indent : Int) :
    Nat → List Char → List Char → Bool → Input → List Char × Bool × Input
  | 0, done, _, fresh, i => (done.reverse, fresh, i)
  | fuel + 1, done, spaces, fresh, i =>
    let n := plainLength inFlow i.rest
    if i.peek == some '#' || n == 0 then (done.reverse, fresh, i)
    else
      let done := (i.rest.take n).reverse ++ (spaces.reverse ++ done)
      let (spaces, fresh, i) := plainSpaces (i.advance n)
      if spaces.isEmpty || i.peek == some '#' ||
          (!inFlow && decide ((i.column : Int) < indent)) then
        (done.reverse, fresh, i)
      else plainParts inFlow indent fuel done spaces fresh i

/-- A plain scalar in a block of some indentation. -/
def plainScalar (inFlow : Bool) (indent : Int) (i : Input) : List Char × Bool × Input :=
  plainParts inFlow indent (i.left + 1) [] [] false i

/-! ## Quoted scalars -/

/-- Line ends within a quoted scalar.  A document mark is not allowed there. -/
def quotedBreaks : Nat → List Char → Input → Except Fault (List Char × Input)
  | 0, done, i => .ok (done, i)
  | fuel + 1, done, i =>
    if i.atDocumentMark then .error .malformed
    else
      let i := i.skipWhile fun c => c == ' ' || c == '\t'
      if (i.peek.map isBreak).getD false then
        let (text, i) := i.lineBreak
        quotedBreaks fuel (done ++ text) i
      else .ok (done, i)

/-- The blanks within a quoted scalar, as the text that stands for them. -/
def quotedSpaces (i : Input) : Except Fault (List Char × Input) :=
  let blanks := i.ahead fun c => c == ' ' || c == '\t'
  let i := i.advance blanks.length
  match i.peek with
  | none => .error .malformed
  | some c =>
    if isBreak c then do
      let (first, i) := i.lineBreak
      let (breaks, i) ← quotedBreaks (i.left + 1) [] i
      pure (folded first breaks, i)
    else .ok (blanks, i)

/-- The characters with a one-letter escape. -/
def shortEscape? : Char → Option Nat
  | '0' => some 0
  | 'a' => some 7
  | 'b' => some 8
  | 't' => some 9
  | '\t' => some 9
  | 'n' => some 10
  | 'v' => some 11
  | 'f' => some 12
  | 'r' => some 13
  | 'e' => some 27
  | ' ' => some 32
  | '"' => some 34
  | '\\' => some 92
  | '/' => some 47
  | 'N' => some 0x85
  | '_' => some 0xa0
  | 'L' => some 0x2028
  | 'P' => some 0x2029
  | _ => none

/-- The number of hexadecimal digits of an escape by code point. -/
def codeEscapeLength? : Char → Option Nat
  | 'x' => some 2
  | 'u' => some 4
  | 'U' => some 8
  | _ => none

/-- The character of a code point.  A surrogate has no character of its own. -/
def charOf (n : Nat) : Except Fault Char :=
  if 0x80000000 ≤ n then .error .characterTooLarge
  else if 0x110000 ≤ n then .error .noSuchCharacter
  else if 0xd800 ≤ n ∧ n ≤ 0xdfff then .ok (Char.ofNat 0xfffd)
  else .ok (Char.ofNat n)

/-- An escape, from the character after the backslash on. -/
def escape (i : Input) : Except Fault (List Char × Input) :=
  match i.peek with
  | none => .error .malformed
  | some c =>
    match shortEscape? c, codeEscapeLength? c with
    | some n, _ => .ok ([Char.ofNat n], i.step)
    | none, some n =>
      let digits := i.step.rest.take n
      match digits.mapM Text.hexDigit? with
      | some ds =>
        if ds.length < n then .error .malformed
        else (charOf (Decimal.value 16 ds)).map fun c => ([c], i.step.advance n)
      | none => .error .malformed
    | none, none =>
      if isBreak c then
        let i := i.lineBreak.2
        quotedBreaks (i.left + 1) [] i
      else .error .malformed

/-- The character ends a run of plain characters within quotes. -/
def endsRun (c : Char) : Bool := c == '\'' || c == '"' || c == '\\' || isGap (some c)

/-- The rest of a quoted scalar up to its closing quote, `done` being the text so far, last
character first. -/
def quotedParts (double : Bool) : Nat → List Char → Input → Except Fault (List Char × Input)
  | 0, _, _ => .error .malformed
  | fuel + 1, done, i =>
    let run := i.ahead fun c => !endsRun c
    let done := run.reverse ++ done
    let i := i.advance run.length
    match i.peek with
    | none => .error .malformed
    | some c =>
      if !double && c == '\'' && i.peekAt 1 == some '\'' then
        quotedParts double fuel ('\'' :: done) (i.advance 2)
      else if c == (if double then '"' else '\'') then .ok (done.reverse, i.step)
      else if double && c == '\\' then do
        let (text, i) ← escape i.step
        quotedParts double fuel (text.reverse ++ done) i
      else if c == '\'' || c == '"' || c == '\\' then
        quotedParts double fuel (c :: done) i.step
      else do
        let (text, i) ← quotedSpaces i
        quotedParts double fuel (text.reverse ++ done) i

/-- A quoted scalar, from the character after its opening quote on. -/
def quotedScalar (double : Bool) (i : Input) : Except Fault (List Char × Input) :=
  quotedParts double (i.left + 1) [] i

/-! ## Block scalars -/

/-- What becomes of the line ends at the end of a block. -/
inductive Chomping
  | clip
  | strip
  | keep
  deriving DecidableEq, Repr

/-- The chomping that a mark asks for. -/
def Chomping.ofChar? : Char → Option Chomping
  | '+' => some .keep
  | '-' => some .strip
  | _ => none

/-- The indentation that a digit of a block header asks for; zero is none. -/
def indentDigit? (c : Char) : Except Fault (Option Nat) :=
  match Text.asciiDigit? c with
  | some 0 => .error .malformed
  | some n => .ok (some n)
  | none => .ok none

/-- A digit at the front of a block header, if there is one. -/
def headerDigit (i : Input) : Except Fault (Option Nat × Input) :=
  match i.peek with
  | none => .ok (none, i)
  | some c => do
    match ← indentDigit? c with
    | some n => pure (some n, i.step)
    | none => pure (none, i)

/-- A chomping mark at the front of a block header, if there is one. -/
def headerChomping (i : Input) : Option Chomping × Input :=
  match i.peek.bind Chomping.ofChar? with
  | some chomping => (some chomping, i.step)
  | none => (none, i)

/-- The header of a block: chomping and indentation in either order. -/
def blockHeader (i : Input) : Except Fault (Chomping × Option Nat × Input) := do
  let (chomping, i) := headerChomping i
  let (indent, i) ← headerDigit i
  let (chomping, i) :=
    if chomping.isNone && indent.isSome then headerChomping i else (chomping, i)
  if isSpaceOrEnd i.peek then pure (chomping.getD .clip, indent, ← i.restOfLine)
  else throw .malformed

/-- The empty lines at the front of a block, and the deepest indentation among them and the
first line with text. -/
def blockIndentation : Nat → List Char → Nat → Input → List Char × Nat × Input
  | 0, done, deepest, i => (done, deepest, i)
  | fuel + 1, done, deepest, i =>
    match i.peek with
    | some ' ' => blockIndentation fuel done (max deepest i.step.column) i.step
    | some c =>
      if isBreak c then
        let (text, i) := i.lineBreak
        blockIndentation fuel (done ++ text) deepest i
      else (done, deepest, i)
    | none => (done, deepest, i)

/-- Pass spaces up to a column. -/
def skipIndent (indent : Nat) (i : Input) : Input :=
  i.advance (min (i.ahead (· == ' ')).length (indent - i.column))

/-- Empty lines within a block. -/
def blockBreaks (indent : Nat) : Nat → List Char → Input → List Char × Input
  | 0, done, i => (done, i)
  | fuel + 1, done, i =>
    let i := skipIndent indent i
    if (i.peek.map isBreak).getD false then
      let (text, i) := i.lineBreak
      blockBreaks indent fuel (done ++ text) i
    else (done, i)

/-- The input stands at a line of the block. -/
def atBlockLine (indent : Nat) (i : Input) : Bool := i.column == indent && i.peek.isSome

/-- The line begins with a blank, so that it is not folded. -/
def isBlankLine (i : Input) : Bool := i.peek == some ' ' || i.peek == some '\t'

/-- The lines of a block.  `done` is the text so far, last character first, and `breaks` are
the empty lines in front of the next one.  The result is the whole text, the end of its last
line, and the empty lines after it. -/
def blockLines (fold : Bool) (indent : Nat) :
    Nat → List Char → List Char → Input → List Char × List Char × List Char × Input
  | 0, done, breaks, i => (done.reverse, [], breaks, i)
  | fuel + 1, done, breaks, i =>
    if !atBlockLine indent i then (done.reverse, [], breaks, i)
    else
      let text := i.ahead fun c => !isBreak c
      let leads := isBlankLine i
      let done := text.reverse ++ (breaks.reverse ++ done)
      let (lineEnd, i) := (i.advance text.length).lineBreak
      let (breaks, i) := blockBreaks indent (i.left + 1) [] i
      if atBlockLine indent i then
        let joint :=
          if fold && lineEnd == ['\n'] && !leads && !isBlankLine i then
            (if breaks.isEmpty then [' '] else [])
          else lineEnd
        blockLines fold indent fuel (joint.reverse ++ done) breaks i
      else (done.reverse, lineEnd, breaks, i)

/-- A block scalar inside a block of some indentation, from the character after its mark on. -/
def blockScalar (fold : Bool) (parent : Int) (i : Input) :
    Except Fault (List Char × Input) := do
  let (chomping, increment, i) ← blockHeader i
  let least := (max (parent + 1) 1).toNat
  let (breaks, indent, i) := match increment with
    | none =>
      let (breaks, deepest, i) := blockIndentation (i.left + 1) [] 0 i
      (breaks, max least deepest, i)
    | some n =>
      let indent := least + n - 1
      let (breaks, i) := blockBreaks indent (i.left + 1) [] i
      (breaks, indent, i)
  let (text, lineEnd, breaks, i) := blockLines fold indent (i.left + 1) [] breaks i
  let text := match chomping with
    | .strip => text
    | .clip => text ++ lineEnd
    | .keep => text ++ lineEnd ++ breaks
  pure (text, i)

end Cyclometry.Yaml
