import Cyclometry.Compiler.Job
import Cyclometry.Event
import Cyclometry.Grammar.Function
import Cyclometry.Language

/-!
# Frontends

A frontend turns a source file into a tree.  There are two: one reads the file and
gives it to a grammar-based parser, the other leaves everything to a compiler.  Both parsers
come from outside, as a `Toolchain`.
-/

namespace Cyclometry

/-- A source file as a tree. -/
structure ParsedUnit where
  path : String
  /-- The name of its language. -/
  language : String
  root : Node

/-- Whether the compiler can be used. -/
inductive Compiler.Availability
  | available
  /-- The library is there, but the program cannot call it. -/
  | noBindings
  /-- The library is not there. -/
  | noLibrary
  deriving DecidableEq, Repr

/-- The parsers at hand.  A file is named by the names that lead to it from the root. -/
structure Toolchain where
  /-- The grammar-based parser: any text has a tree. -/
  grammar : List String → Language → Bytes → Grammar.Parse
  /-- The compiler. -/
  compiler : List String → CompilerCall → Compiler.Job
  availability : Compiler.Availability

/-- Why a unit cannot be analysed. -/
inductive FrontendError
  | unsupported (path : String)
  | cannotRead (path : String) (error : FileError)
  | noBindings
  | noLibrary
  | cannotParse (path : String)
  | unknown (name : String)
  deriving DecidableEq, Repr

namespace FrontendError

/-- The wording of each error. -/
def message : FrontendError → String
  | unsupported path => "Unsupported source file: " ++ path
  | cannotRead path error => "Cannot read " ++ path ++ ": " ++ error.message
  | noBindings => "The clang frontend requires the libclang bindings. " ++
      "Install them with: pip install cycloscan[clang]"
  | noLibrary => "libclang shared library not found: " ++
      "libclang.so: cannot open shared object file"
  | cannotParse path => "libclang could not parse " ++ path ++
      ": Error parsing translation unit."
  | unknown name => "Unknown frontend: " ++ name

end FrontendError

/-- A frontend with its options. -/
inductive Frontend
  /-- The grammar-based parser, for the language of a name or for the one of the path. -/
  | grammar (language : Option String)
  /-- The compiler with its arguments. -/
  | compiler (args : List Value)

namespace Frontend

/-- The name of a frontend. -/
def name : Frontend → String
  | grammar _ => "treesitter"
  | compiler _ => "clang"

/-! ## Choosing -/

/-- Why there is no frontend. -/
inductive ChoiceFault
  | refused (error : FrontendError)
  /-- The name is not a text. -/
  | nameNotText
  /-- The options are not a mapping. -/
  | notAMapping
  /-- The arguments have no elements. -/
  | notAList
  deriving DecidableEq, Repr

/-- The frontend that calls the compiler with some arguments. -/
def withArgs (availability : Compiler.Availability) (args : Value) :
    Except ChoiceFault Frontend :=
  match if args.truthy then args.elements? else some [] with
  | none => .error .notAList
  | some items =>
    if availability = .noLibrary then .error (.refused .noLibrary) else .ok (compiler items)

/-- ASCII letters in lower case. -/
def lowerBytes (b : Bytes) : Bytes := b.map fun c => if 65 ≤ c && c ≤ 90 then c + 32 else c

/-- The frontend of a name, in letters of any case.  Bytes have a lower case too, but are the
name of none. -/
def choose (availability : Compiler.Availability) (name options : Value) :
    Except ChoiceFault Frontend :=
  match name with
  | .text name =>
    match Text.lower name with
    | "treesitter" | "tree-sitter" => .ok (grammar none)
    | "clang" | "libclang" =>
      if availability = .noBindings then .error (.refused .noBindings)
      else
        match if options.truthy then options else .map [] with
        | .map fields => withArgs availability ((Fields.get? fields "clang_args").getD (.list []))
        | _ => .error .notAMapping
    | name => .error (.refused (.unknown name))
  | .bytes name => .error (.refused (.unknown (Value.bytes (lowerBytes name)).plain))
  | _ => .error .nameNotText

/-! ## Parsing -/

/-- Why a unit has no tree. -/
inductive ParseFault
  | refused (error : FrontendError)
  /-- A line marker has a number of too many digits. -/
  | numeralTooLong
  /-- The path has a NUL character. -/
  | nulCharacter
  deriving DecidableEq, Repr

/-- The source of a unit: what is given, or else the content of the file. -/
def sourceOf (fs : FileSystem) (path : String) (source : Option Bytes) :
    Except ParseFault Bytes :=
  match source with
  | some bytes => .ok bytes
  | none =>
    match fs.read (Path.ofString path).text with
    | .ok bytes => .ok bytes
    | .error .nulCharacter => .error .nulCharacter
    | .error error => .error (.refused (.cannotRead path error))

/-- The name of the language of a unit: the one that is asked for, or else that of its path. -/
def languageName? (asked : Option String) (path : String) : Option String :=
  (asked.filter fun name => !name.isEmpty).or ((Language.ofPath? path).map Language.name)

/-- Parse with the grammar-based parser: line markers are taken out first, and locations are
resolved through them. -/
def parseGrammar (tools : Toolchain) (fs : FileSystem) (asked : Option String)
    (path : String) (source : Option Bytes) :
    List Event × Except ParseFault ParsedUnit :=
  match languageName? asked path with
  | none => ([], .error (.refused (.unsupported path)))
  | some language =>
    match sourceOf fs path source with
    | .error fault => ([], .error fault)
    | .ok bytes =>
      match LineMap.scan path bytes with
      | .error _ => ([], .error .numeralTooLong)
      | .ok (lineMap, cleaned) =>
        let parse := tools.grammar (fs.absolute path) (.ofName language) cleaned
        let events := if parse.hasError then
          [.log ⟨.debug, .grammar,
            "Syntax errors in " ++ path ++ "; analyzing recovered tree"⟩] else []
        (events, .ok ⟨path, language, (Grammar.Source.mk cleaned lineMap).node parse.root⟩)

/-- The severity from which on messages of the compiler are errors. -/
def errorSeverity : Int := 3

/-- Parse with the compiler.  Its errors go to the log. -/
def parseCompiler (tools : Toolchain) (fs : FileSystem) (args : List Value)
    (path : String) (source : Option Bytes) :
    List Event × Except ParseFault ParsedUnit :=
  let call : CompilerCall := ⟨path, args, source.map textOf⟩
  match (tools.compiler (fs.absolute path) call).run fs with
  | none => ([.compile call], .error (.refused (.cannotParse path)))
  | some parse =>
    let errors := parse.messages.filter fun m => decide (errorSeverity ≤ m.1)
    let rows := errors.map fun m => .log ⟨.warning, .compiler, path ++ ": " ++ m.2⟩
    (.compile call :: rows,
      .ok ⟨path, ((Language.ofPath? path).getD .c).name, parse.root.node⟩)

/-- The tree of the unit at a path, and what happens on the way. -/
def parse (tools : Toolchain) (fs : FileSystem) (frontend : Frontend) (path : String)
    (source : Option Bytes) : List Event × Except ParseFault ParsedUnit :=
  match frontend with
  | grammar asked => parseGrammar tools fs asked path source
  | compiler args => parseCompiler tools fs args path source

end Frontend

end Cyclometry
