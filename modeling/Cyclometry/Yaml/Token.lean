import Cyclometry.Text.Utf8
import Cyclometry.Yaml.Scalar

/-!
# YAML tokens

A YAML text as a list of tokens.  The structure of blocks shows in the indentation, so the
lexer keeps the columns of the open blocks and closes those that a line leaves.  Whether a
token is a key shows only at the colon after it: the lexer remembers where a **simple key**
could have begun, and puts the key token there when the colon comes on the same line and not
more than 1024 characters later.
-/

namespace Cyclometry.Yaml

/-- A line that tells how to read the document. -/
inductive Directive
  | version (major minor : Nat)
  | tag (handle lead : String)
  | unknown
  deriving DecidableEq, Repr

/-- A token of a YAML text. -/
inductive Token
  | directive (d : Directive)
  | documentStart
  | documentEnd
  | blockSequenceStart
  | blockMappingStart
  | blockEnd
  | flowSequenceStart
  | flowSequenceEnd
  | flowMappingStart
  | flowMappingEnd
  | blockEntry
  | flowEntry
  | key
  | value
  | alias (name : String)
  | anchor (name : String)
  | tag (handle : Option String) (suffix : String)
  | scalar (text : String) (plain : Bool)
  /-- The text cannot be read any further. -/
  | broken (fault : Fault)
  deriving DecidableEq, Repr

/-! ## Names and tags -/

/-- A word, and what follows. -/
def word (i : Input) : Except Fault (String × Input) :=
  let name := i.ahead isWordChar
  if name.isEmpty then .error .malformed
  else .ok (String.ofList name, i.advance name.length)

/-- The name of an anchor or an alias. -/
def anchorName (i : Input) : Except Fault (String × Input) := do
  let (name, i) ← word i
  let closed := isGap i.peek ||
    (i.peek.map fun c => ['?', ':', ',', ']', '}', '%', '@', '`'].contains c).getD false
  if closed then pure (name, i) else throw .malformed

/-- A character of a tag. -/
def isTagChar (c : Char) : Bool :=
  isWordChar c || [';', '/', '?', ':', '@', '&', '=', '+', '$', ',', '.', '!', '~', '*', '\'',
    '(', ')', '[', ']', '%'].contains c

/-- A run of escaped bytes within a tag. -/
def tagBytes : Nat → Bytes → Input → Except Fault (Bytes × Input)
  | 0, done, i => .ok (done, i)
  | fuel + 1, done, i =>
    match i.rest with
    | '%' :: a :: b :: _ =>
      match Text.hexDigit? a, Text.hexDigit? b with
      | some a, some b => tagBytes fuel (done ++ [UInt8.ofNat (a * 16 + b)]) (i.advance 3)
      | _, _ => .error .malformed
    | '%' :: _ => .error .malformed
    | _ => .ok (done, i)

/-- The characters of a tag; escaped bytes have to make characters. -/
def tagChars : Nat → List Char → Input → Except Fault (List Char × Input)
  | 0, done, i => .ok (done, i)
  | fuel + 1, done, i =>
    match i.peek with
    | some '%' => do
      let (bytes, i) ← tagBytes (i.left + 1) [] i
      match Utf8.decode? bytes with
      | some cs => tagChars fuel (done ++ cs) i
      | none => throw .malformed
    | some c => if isTagChar c then tagChars fuel (done ++ [c]) i.step else .ok (done, i)
    | none => .ok (done, i)

/-- A tag or the beginning of one. -/
def tagText (i : Input) : Except Fault (String × Input) := do
  let (text, j) ← tagChars (i.left + 1) [] i
  if j.left == i.left then throw .malformed else pure (String.ofList text, j)

/-- A tag handle: an exclamation mark, or a word between two of them. -/
def tagHandle (i : Input) : Except Fault (String × Input) :=
  match i.rest with
  | '!' :: rest =>
    if rest.head? == some ' ' then .ok ("!", i.step)
    else
      let name := rest.takeWhile isWordChar
      if (rest.drop name.length).head? == some '!' then
        .ok (String.ofList ('!' :: name ++ ['!']), i.advance (name.length + 2))
      else .error .malformed
  | _ => .error .malformed

/-- A tag token, whose exclamation mark stands at the front of the input. -/
def tagToken (i : Input) : Except Fault (Token × Input) := do
  let next := i.peekAt 1
  let (token, i) ←
    if next == some '<' then do
      let (suffix, i) ← tagText (i.advance 2)
      if i.peek == some '>' then pure (Token.tag none suffix, i.step) else throw .malformed
    else if isGap next then pure (Token.tag none "!", i.step)
    else do
      let written := (i.rest.drop 1).takeWhile fun c => !isSpaceOrEnd (some c)
      let (handle, i) ← if written.contains '!' then tagHandle i else pure ("!", i.step)
      let (suffix, i) ← tagText i
      pure (Token.tag (some handle) suffix, i)
  if isSpaceOrEnd i.peek then pure (token, i) else throw .malformed

/-! ## Directives -/

/-- A number of a version. -/
def versionNumber (i : Input) : Except Fault (Nat × Input) :=
  let ds := (i.ahead fun c => (Text.asciiDigit? c).isSome).filterMap Text.asciiDigit?
  if ds.isEmpty then .error .malformed
  else
    match Decimal.read ds with
    | .ok n => .ok (n, i.advance ds.length)
    | .error _ => .error .numeralTooLong

/-- The version after its directive's name. -/
def versionDirective (i : Input) : Except Fault (Directive × Input) := do
  let (major, i) ← versionNumber i.skipSpaces
  if i.peek != some '.' then throw .malformed
  else
    let (minor, i) ← versionNumber i.step
    if isSpaceOrEnd i.peek then pure (.version major minor, i) else throw .malformed

/-- The tag handle and what it stands for, after their directive's name. -/
def tagDirective (i : Input) : Except Fault (Directive × Input) := do
  let (handle, i) ← tagHandle i.skipSpaces
  if i.peek != some ' ' then throw .malformed
  else
    let (lead, i) ← tagText i.skipSpaces
    if isSpaceOrEnd i.peek then pure (.tag handle lead, i) else throw .malformed

/-- A directive, whose percent sign stands at the front of the input. -/
def directive (i : Input) : Except Fault (Directive × Input) := do
  let (name, i) ← word i.step
  if !isSpaceOrEnd i.peek then throw .malformed
  else
    let (d, i) ←
      if name == "YAML" then versionDirective i
      else if name == "TAG" then tagDirective i
      else pure (.unknown, i.skipWhile fun c => !isBreak c)
    pure (d, ← i.restOfLine)

/-! ## The lexer -/

/-- A place where a simple key may have begun. -/
structure SimpleKey where
  /-- How many brackets are open there. -/
  level : Nat
  /-- How many tokens stand in front of it. -/
  tokens : Nat
  /-- Only a key makes sense there. -/
  required : Bool
  /-- How many characters are left there. -/
  left : Nat
  line : Nat
  column : Nat
  deriving DecidableEq, Repr

/-- The state of the lexer. -/
structure Lexer where
  input : Input
  /-- The tokens so far, last one first. -/
  tokens : List Token
  /-- How many tokens there are. -/
  count : Nat
  /-- How many brackets are open. -/
  level : Nat
  /-- The column of the innermost open block, and of those around it. -/
  indent : Int
  indents : List Int
  /-- A simple key may begin here. -/
  keyAllowed : Bool
  keys : List SimpleKey
  deriving DecidableEq, Repr

namespace Lexer

/-- The lexer at the beginning of a text. -/
def start (s : List Char) : Lexer := ⟨.start s, [], 0, 0, -1, [], true, []⟩

/-- Within brackets, indentation does not count. -/
def inFlow (l : Lexer) : Bool := l.level != 0

/-- Add a token. -/
def push (l : Lexer) (t : Token) : Lexer := { l with tokens := t :: l.tokens, count := l.count + 1 }

/-- Pass some characters. -/
def advance (l : Lexer) (n : Nat) : Lexer := { l with input := l.input.advance n }

/-- Pass blanks, comments and line ends.  After a line end a key may begin, except within
brackets. -/
def skipBlanks : Nat → Lexer → Lexer
  | 0, l => l
  | fuel + 1, l =>
    let (text, i) := l.input.skipSpaces.skipComment.lineBreak
    let l := { l with input := i }
    if text.isEmpty then l
    else skipBlanks fuel (if l.inFlow then l else { l with keyAllowed := true })

/-- The place of a simple key is too far back for a colon here. -/
def isStale (l : Lexer) (k : SimpleKey) : Bool :=
  k.line != l.input.line || decide (l.input.left + 1024 < k.left)

/-- Forget the places that are too far back. -/
def dropStale (l : Lexer) : Except Fault Lexer :=
  if l.keys.any fun k => l.isStale k && k.required then .error .malformed
  else .ok { l with keys := l.keys.filter fun k => !l.isStale k }

/-- Forget the place within the innermost brackets. -/
def dropKey (l : Lexer) : Except Fault Lexer :=
  if l.keys.any fun k => k.level == l.level && k.required then .error .malformed
  else .ok { l with keys := l.keys.filter fun k => k.level != l.level }

/-- Remember this place, if a key may begin here. -/
def saveKey (l : Lexer) : Except Fault Lexer :=
  if !l.keyAllowed then .ok l
  else do
    let required := !l.inFlow && l.indent == l.input.column
    let l ← l.dropKey
    pure { l with keys :=
      ⟨l.level, l.count, required, l.input.left, l.input.line, l.input.column⟩ ::
        l.keys }

/-- Close the blocks that are indented deeper than a column. -/
def unwindTo (l : Lexer) (column : Int) : List Int → Lexer
  | [] => l
  | outer :: rest =>
    if column < l.indent then
      unwindTo { l.push .blockEnd with indent := outer, indents := rest } column rest
    else l

/-- Close the blocks that are indented deeper than a column, except within brackets. -/
def unwind (l : Lexer) (column : Int) : Lexer :=
  if l.inFlow then l else l.unwindTo column l.indents

/-- Open a block at a column, unless the innermost one is as deep. -/
def openBlock (l : Lexer) (column : Nat) : Option Lexer :=
  if l.indent < column then some { l with indents := l.indent :: l.indents, indent := column }
  else none

/-- Open a block at this column, if none is there, and add its token. -/
def openHere (l : Lexer) (t : Token) : Lexer :=
  match l.openBlock l.input.column with
  | some l => l.push t
  | none => l

/-- Put a token behind the first `n` ones. -/
def insertAt (l : Lexer) (n : Nat) (t : Token) : Lexer :=
  let later := l.count - n
  { l with tokens := l.tokens.take later ++ t :: l.tokens.drop later, count := l.count + 1 }

/-- End of the text: all blocks are closed. -/
def finish (l : Lexer) : Except Fault Lexer := (l.unwind (-1)).dropKey

/-- A directive. -/
def fetchDirective (l : Lexer) : Except Fault Lexer := do
  let l ← (l.unwind (-1)).dropKey
  let (d, i) ← directive l.input
  pure { l.push (.directive d) with input := i, keyAllowed := false }

/-- A document mark. -/
def fetchDocumentMark (l : Lexer) (t : Token) : Except Fault Lexer := do
  let l ← (l.unwind (-1)).dropKey
  pure { (l.push t).advance 3 with keyAllowed := false }

/-- An opening bracket. -/
def fetchOpening (l : Lexer) (t : Token) : Except Fault Lexer := do
  let l ← l.saveKey
  pure { (l.push t).advance 1 with level := l.level + 1, keyAllowed := true }

/-- A closing bracket. -/
def fetchClosing (l : Lexer) (t : Token) : Except Fault Lexer := do
  let l ← l.dropKey
  if l.level == 0 then throw .malformed
  else pure { (l.push t).advance 1 with level := l.level - 1, keyAllowed := false }

/-- A comma within brackets. -/
def fetchFlowEntry (l : Lexer) : Except Fault Lexer := do
  let l ← l.dropKey
  pure { (l.push .flowEntry).advance 1 with keyAllowed := true }

/-- A dash in front of an item of a block. -/
def fetchBlockEntry (l : Lexer) : Except Fault Lexer := do
  if !l.inFlow && !l.keyAllowed then throw .malformed
  else
    let l := if l.inFlow then l else l.openHere .blockSequenceStart
    let l ← l.dropKey
    pure { (l.push .blockEntry).advance 1 with keyAllowed := true }

/-- A question mark in front of a key. -/
def fetchKey (l : Lexer) : Except Fault Lexer := do
  if !l.inFlow && !l.keyAllowed then throw .malformed
  else
    let l := if l.inFlow then l else l.openHere .blockMappingStart
    let l ← l.dropKey
    pure { (l.push .key).advance 1 with keyAllowed := !l.inFlow }

/-- A colon behind a key. -/
def fetchValue (l : Lexer) : Except Fault Lexer := do
  match l.keys.find? fun k => k.level == l.level with
  | some k =>
    let l := { l with keys := l.keys.filter fun k => k.level != l.level }
    let l := l.insertAt k.tokens .key
    let l :=
      if l.inFlow then l
      else
        match l.openBlock k.column with
        | some l => l.insertAt k.tokens .blockMappingStart
        | none => l
    pure { (l.push .value).advance 1 with keyAllowed := false }
  | none =>
    if !l.inFlow && !l.keyAllowed then throw .malformed
    else
      let l := if l.inFlow then l else l.openHere .blockMappingStart
      let l ← l.dropKey
      pure { (l.push .value).advance 1 with keyAllowed := !l.inFlow }

/-- A token that may be a simple key. -/
def fetchKeyLike (l : Lexer) (read : Input → Except Fault (Token × Input)) :
    Except Fault Lexer := do
  let l ← l.saveKey
  let (t, i) ← read l.input
  pure { l.push t with input := i, keyAllowed := false }

/-- A block scalar. -/
def fetchBlockScalar (l : Lexer) (fold : Bool) : Except Fault Lexer := do
  let l ← l.dropKey
  let (text, i) ← blockScalar fold l.indent l.input.step
  pure { l.push (.scalar (String.ofList text) false) with input := i, keyAllowed := true }

/-- A quoted scalar. -/
def fetchQuoted (l : Lexer) (double : Bool) : Except Fault Lexer :=
  l.fetchKeyLike fun i => do
    let (text, i) ← quotedScalar double i.step
    pure (.scalar (String.ofList text) false, i)

/-- A plain scalar.  If it ends with a line, a key may begin after it. -/
def fetchPlain (l : Lexer) : Except Fault Lexer := do
  let l ← l.saveKey
  let (text, fresh, i) := plainScalar l.inFlow (l.indent + 1) l.input
  pure { l.push (.scalar (String.ofList text) true) with input := i, keyAllowed := fresh }

/-- A plain scalar may begin with this character, `next` being the one after it. -/
def startsPlain (l : Lexer) (c : Char) (next : Option Char) : Bool :=
  !(isGap (some c) || ['-', '?', ':', ',', '[', ']', '{', '}', '#', '&', '*', '!', '|', '>',
      '\'', '"', '%', '@', '`'].contains c) ||
    (!isGap next && (c == '-' || (!l.inFlow && (c == '?' || c == ':'))))

/-- The next token or tokens, `c` being the character they begin with. -/
def fetch (l : Lexer) (c : Char) : Except Fault Lexer :=
  let next := l.input.peekAt 1
  let atMark := l.input.column == 0 && l.input.atDocumentMark
  if c == '%' && l.input.column == 0 then l.fetchDirective
  else if c == '-' && atMark then l.fetchDocumentMark .documentStart
  else if c == '.' && atMark then l.fetchDocumentMark .documentEnd
  else if c == '[' then l.fetchOpening .flowSequenceStart
  else if c == '{' then l.fetchOpening .flowMappingStart
  else if c == ']' then l.fetchClosing .flowSequenceEnd
  else if c == '}' then l.fetchClosing .flowMappingEnd
  else if c == ',' then l.fetchFlowEntry
  else if c == '-' && isGap next then l.fetchBlockEntry
  else if c == '?' && (l.inFlow || isGap next) then l.fetchKey
  else if c == ':' && (l.inFlow || isGap next) then l.fetchValue
  else if c == '*' then
    l.fetchKeyLike fun i => (anchorName i.step).map fun (name, i) => (.alias name, i)
  else if c == '&' then
    l.fetchKeyLike fun i => (anchorName i.step).map fun (name, i) => (.anchor name, i)
  else if c == '!' then l.fetchKeyLike tagToken
  else if c == '|' && !l.inFlow then l.fetchBlockScalar false
  else if c == '>' && !l.inFlow then l.fetchBlockScalar true
  else if c == '\'' then l.fetchQuoted false
  else if c == '"' then l.fetchQuoted true
  else if l.startsPlain c next then l.fetchPlain
  else .error .malformed

/-- Read the next token or tokens.  The second part says whether the text is at its end. -/
def next (l : Lexer) : Except Fault (Lexer × Bool) := do
  let l ← (skipBlanks (l.input.left + 1) l).dropStale
  let l := l.unwind l.input.column
  match l.input.peek with
  | none => pure (← l.finish, true)
  | some c => pure (← l.fetch c, false)

/-- The tokens up to a fault.  A token that may still turn out to be a key is not certain, and
neither are those after it. -/
def cutShort (l : Lexer) (fault : Fault) : List Token :=
  let keys := l.keys.filter fun k => !l.isStale k
  let certain := (keys.map (·.tokens)).foldl min l.count
  (l.tokens.reverse.take certain) ++ [.broken fault]

/-- All tokens. -/
def run : Nat → Lexer → List Token
  | 0, l => l.cutShort .malformed
  | fuel + 1, l =>
    match l.next with
    | .error fault => l.cutShort fault
    | .ok (l, true) => l.tokens.reverse
    | .ok (l, false) => run fuel l

end Lexer

/-- The tokens of a text, up to the first place that breaks a rule.  Every token takes at least
one character. -/
def tokens (s : List Char) : List Token :=
  if !s.all isAllowed then [.broken .malformed]
  else
    let s := if s.head? == some byteOrderMark then s.drop 1 else s
    Lexer.run (s.length + 1) (.start s)

end Cyclometry.Yaml
