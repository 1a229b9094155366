import Cyclometry.Text.Quoted
import Cyclometry.Text.Split

/-!
# Command lines

A **form** says what a command line may contain: options, each with its spellings and with
what it takes, and operands, which are the words that belong to no option.  The type `κ` is
what the options of a form are about.
-/

namespace Cyclometry.Arguments

/-- What an option takes. -/
inductive Takes
  | nothing
  /-- One word, which the help calls by a label. -/
  | word (label : String)
  /-- One of some words. -/
  | oneOf (words : List String)
  deriving DecidableEq, Repr

/-- What an option is there for. -/
inductive Purpose (κ : Type)
  | help
  | version
  | set (key : κ)
  deriving DecidableEq, Repr

/-- An option.  A spelling of one letter has one dash, any other has two. -/
structure Opt (κ : Type) where
  purpose : Purpose κ
  spellings : List String
  takes : Takes
  help : String

namespace Opt

variable {κ : Type}

/-- The option takes a word. -/
def takesWord (o : Opt κ) : Bool := o.takes != .nothing

/-- The name of an option in messages. -/
def name (o : Opt κ) : String := Text.joinTexts "/" o.spellings

/-- The option that shows the help. -/
def showHelp : Opt κ := ⟨.help, ["-h", "--help"], .nothing, "show this help message and exit"⟩

end Opt

/-- What the words are that belong to no option. -/
inductive Operands
  | none
  /-- Any number of words. -/
  | many (label help : String)
  /-- The name of a command and all words after it; each command comes with its help. -/
  | command (label help : String) (commands : List (String × String))
  deriving DecidableEq, Repr

/-- What a command line may contain. -/
structure Form (κ : Type) where
  /-- How the program, or the command, is called. -/
  program : String
  description : Option String
  options : List (Opt κ)
  operands : Operands
  /-- A text at the end of the help. -/
  closing : Option String

/-- What is wrong with a command line. -/
inductive Problem
  /-- An option at the end, or before another one, takes a word. -/
  | missingWord (option : String)
  /-- An option that takes nothing has a word attached. -/
  | unusedWord (option word : String)
  | notAChoice (option word : String) (choices : List String)
  /-- Several long options begin like this. -/
  | ambiguous (word : String) (candidates : List String)
  | unrecognized (words : List String)
  deriving DecidableEq, Repr

/-- The wording of each problem. -/
def Problem.message : Problem → String
  | missingWord option => "argument " ++ option ++ ": expected one argument"
  | unusedWord option word =>
    "argument " ++ option ++ ": ignored explicit argument " ++ Text.quoted word
  | notAChoice option word choices =>
    "argument " ++ option ++ ": invalid choice: " ++ Text.quoted word ++ " (choose from " ++
      Text.joinTexts ", " (choices.map Text.quoted) ++ ")"
  | ambiguous word candidates =>
    "ambiguous option: " ++ word ++ " could match " ++ Text.joinTexts ", " candidates
  | unrecognized words => "unrecognized arguments: " ++ Text.joinTexts " " words

end Cyclometry.Arguments
