import Cyclometry.Template.Thing

/-!
# Message templates

A template is a text with **fields** in braces; a doubled brace stands for itself.  A field
names an argument by its number, or takes the next one if it is empty, goes into it by `.part`
and `[item]`, may convert it with `!r`, `!s` or `!a`, and lays it out by the specification
after a colon, which may have fields of its own.  Fields are filled in from left to right, so
the first fault is the one that counts.
-/

namespace Cyclometry.Template

/-- A field as written. -/
structure Field where
  name : List Char
  conversion : Option Char
  spec : List Char
  deriving DecidableEq, Repr

/-- A piece of a template. -/
inductive Piece
  | literal (s : List Char)
  | field (f : Field)
  /-- From here on the template makes no sense. -/
  | broken
  deriving DecidableEq, Repr

/-- How many characters stand in front of the mark that ends a field name.  A bracket hides
marks up to its closing one. -/
def nameLength (inBrackets : Bool) : List Char → Option Nat
  | [] => none
  | c :: rest =>
    if inBrackets then (nameLength (c != ']') rest).map (· + 1)
    else if c == '{' then none
    else if c == '}' || c == ':' || c == '!' then some 0
    else (nameLength (c == '[') rest).map (· + 1)

/-- How many characters stand in front of the brace that closes `depth + 1` open ones. -/
def specLength (depth : Nat) : List Char → Option Nat
  | [] => none
  | '}' :: rest =>
    match depth with
    | 0 => some 0
    | depth + 1 => (specLength depth rest).map (· + 1)
  | c :: rest => (specLength (if c == '{' then depth + 1 else depth) rest).map (· + 1)

/-- The field after an opening brace, and how many characters it takes with its closing
brace. -/
def readField (s : List Char) : Option (Field × Nat) := do
  let n ← nameLength false s
  let name := s.take n
  match s.drop n with
  | '}' :: _ => some (⟨name, none, []⟩, n + 1)
  | ':' :: rest =>
    let m ← specLength 0 rest
    some (⟨name, none, rest.take m⟩, n + m + 2)
  | '!' :: c :: '}' :: _ => some (⟨name, some c, []⟩, n + 3)
  | '!' :: c :: ':' :: rest =>
    let m ← specLength 0 rest
    some (⟨name, some c, rest.take m⟩, n + m + 4)
  | _ => none

/-- A character is a brace. -/
def isBrace (c : Char) : Bool := c == '{' || c == '}'

/-- The pieces of a template, up to the first place that makes no sense. -/
def pieces (s : List Char) : List Piece :=
  match s with
  | [] => []
  | '{' :: '{' :: rest => .literal ['{'] :: pieces rest
  | '}' :: '}' :: rest => .literal ['}'] :: pieces rest
  | '{' :: rest =>
    match readField rest with
    | some (f, n) => .field f :: pieces (rest.drop n)
    | none => [.broken]
  | '}' :: _ => [.broken]
  | c :: rest => .literal [c] :: pieces rest
  termination_by s.length

/-! ## Arguments -/

/-- A step into a value. -/
inductive Step
  | part (name : List Char)
  | item (name : List Char)
  /-- The rest of the name makes no sense. -/
  | broken
  deriving DecidableEq, Repr

/-- The characters that begin a step. -/
def beginsStep (c : Char) : Bool := c == '.' || c == '['

/-- The steps after the argument's own name. -/
def steps (s : List Char) : List Step :=
  match s with
  | [] => []
  | '.' :: rest =>
    let name := rest.takeWhile fun c => !beginsStep c
    if name.isEmpty then [.broken] else .part name :: steps (rest.drop name.length)
  | '[' :: rest =>
    let name := rest.takeWhile (· != ']')
    if name.isEmpty || name.length == rest.length then [.broken]
    else .item name :: steps (rest.drop (name.length + 1))
  | _ => [.broken]
  termination_by s.length

/-- Go one step into a thing. -/
def follow (thing : Thing) : Step → Except Fault Thing
  | .part name => thing.part (String.ofList name)
  | .item name => thing.item name
  | .broken => .error .malformed

/-- How the fields so far name their arguments. -/
inductive Numbering
  | undecided
  | manual
  /-- The next empty field takes this argument. -/
  | automatic (next : Nat)
  deriving DecidableEq, Repr

/-- The argument that a field name begins with, and the numbering after it. -/
def argument (args : List Value) (numbering : Numbering) (name : List Char) :
    Except Fault (Value × Numbering) := do
  let pick (n : Nat) (numbering : Numbering) : Except Fault (Value × Numbering) :=
    match args[n]? with
    | some v => .ok (v, numbering)
    | none => .error .noSuchIndex
  if name.isEmpty then
    match numbering with
    | .manual => throw .mixedNumbering
    | .undecided => pick 0 (.automatic 1)
    | .automatic next => pick next (.automatic (next + 1))
  else
    match ← index? name with
    | none => throw (.noSuchKey (String.ofList name))
    | some n =>
      match numbering with
      | .automatic _ => throw .mixedNumbering
      | _ => pick n .manual

/-- The thing that a field name leads to. -/
def lookup (args : List Value) (numbering : Numbering) (name : List Char) :
    Except Fault (Thing × Numbering) := do
  let first := name.takeWhile fun c => !beginsStep c
  let (value, numbering) ← argument args numbering first
  let thing ← (steps (name.drop first.length)).foldlM follow (.value value)
  pure (thing, numbering)

/-- A thing turned into text by a conversion letter.  A NUL character is none. -/
def convert (limits : Limits) (thing : Thing) : Option Char → Except Fault Thing
  | none => .ok thing
  | some 'r' => (thing.check limits).map fun _ => .value (.text (thing.shown .unicode))
  | some 's' => (thing.check limits).map fun _ => .value (.text thing.plain)
  | some 'a' => (thing.check limits).map fun _ => .value (.text (thing.shown .ascii))
  | some c => if c.toNat == 0 then .ok thing else .error .malformed

/-! ## Filling in -/

/-- Fill in the pieces of a template.  `expand` fills in a specification. -/
def fillPieces (limits : Limits) (args : List Value)
    (expand : List Char → Numbering → Except Fault (List Char × Numbering)) :
    List Piece → Numbering → Except Fault (List Char × Numbering)
  | [], numbering => .ok ([], numbering)
  | .literal s :: rest, numbering => do
    let (text, numbering) ← fillPieces limits args expand rest numbering
    pure (s ++ text, numbering)
  | .field f :: rest, numbering => do
    let (thing, numbering) ← lookup args numbering f.name
    let thing ← convert limits thing f.conversion
    let (spec, numbering) ←
      if f.spec.contains '{' then expand f.spec numbering else pure (f.spec, numbering)
    let shown ← thing.format limits spec
    let (text, numbering) ← fillPieces limits args expand rest numbering
    pure (shown ++ text, numbering)
  | .broken :: _, _ => .error .malformed

/-- Fill in a template whose specifications may be `depth` deep. -/
def fill (limits : Limits) (args : List Value) :
    Nat → List Char → Numbering → Except Fault (List Char × Numbering)
  | 0, _, _ => .error .nestedTooDeep
  | depth + 1, s, numbering => fillPieces limits args (fill limits args depth) (pieces s) numbering

/-- The message of a template and its arguments, if it can be made within the limits. -/
def messageWithin (limits : Limits) (template : String) (args : List Value) :
    Except Fault String :=
  (fill limits args 2 template.toList .undecided).map fun (text, _) => String.ofList text

/-- The message of a template and its arguments. -/
def message (template : String) (args : List Value) : Except Fault String :=
  messageWithin .present template args

end Cyclometry.Template
