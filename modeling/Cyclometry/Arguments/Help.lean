import Cyclometry.Arguments.Basic
import Cyclometry.Text.Pad
import Cyclometry.Text.Wrap

/-!
# Usage and help

How a form presents itself: the usage in brackets, and the help page with an entry for every
operand and every option.  Pages are 78 columns wide.  The help of an entry starts in the same
column everywhere, at most in column 24; an entry that is too long for that has its help on
the next line.
-/

namespace Cyclometry.Arguments

variable {κ : Type}

/-- The width of a page. -/
def pageWidth : Nat := 78

/-- The last column in which the help of an entry may start. -/
def maxHelpColumn : Nat := 24

/-- Words of which one is to be chosen. -/
def choiceText (words : List String) : String :=
  "\x7b" ++ Text.joinTexts "," words ++ "\x7d"

/-- What an option takes, after a spelling of it. -/
def Takes.after (spelling : String) : Takes → String
  | nothing => spelling
  | word label => spelling ++ " " ++ label
  | oneOf words => spelling ++ " " ++ choiceText words

/-! ## Usage -/

/-- An option in the usage. -/
def Opt.usage (o : Opt κ) : String := "[" ++ o.takes.after (o.spellings.headD "") ++ "]"

/-- The operands in the usage. -/
def Operands.usage : Operands → List String
  | none => []
  | many label _ => ["[" ++ label ++ " ...]"]
  | command _ _ commands => [choiceText (commands.map (·.1)) ++ " ..."]

/-- The usage: on one line if it fits, else with the operands on a line of their own. -/
def Form.usage (f : Form κ) : String :=
  let lead := "usage: " ++ f.program ++ " "
  let options := f.options.map Opt.usage
  let line := lead ++ Text.joinTexts " " (options ++ f.operands.usage)
  if line.length ≤ pageWidth then line
  else
    let width := pageWidth - lead.length
    lead ++ Text.joinTexts ("\n" ++ Text.spaces lead.length)
      (Text.wrap width options ++ Text.wrap width f.operands.usage)

/-- The text that refuses a command line. -/
def Form.refusal (f : Form κ) (p : Problem) : String :=
  f.usage ++ "\n" ++ f.program ++ ": error: " ++ p.message ++ "\n"

/-! ## Help -/

/-- An entry of the help page: how deep it stands, what it is about, and its help. -/
structure Item where
  indent : Nat
  title : String
  help : String

/-- The entry of an option. -/
def Opt.item (o : Opt κ) : Item :=
  ⟨2, Text.joinTexts ", " (o.spellings.map fun s => o.takes.after s), o.help⟩

/-- The entries of the operands. -/
def Operands.items : Operands → List Item
  | none => []
  | many label help => [⟨2, label, help⟩]
  | command _ help commands =>
    ⟨2, choiceText (commands.map (·.1)), help⟩ ::
      commands.map fun (name, help) => ⟨4, name, help⟩

/-- The words of a help text. -/
def helpWords (s : String) : List String :=
  (Text.splitOn ' ' s.toList).map String.ofList

/-- The lines of an entry whose help starts in a column. -/
def Item.lines (column : Nat) (item : Item) : List String :=
  let title := Text.spaces item.indent ++ item.title
  let help := Text.wrap (pageWidth - column) (helpWords item.help)
  if title.length + 2 ≤ column then
    match help with
    | [] => [title]
    | first :: rest =>
      (Text.padRight column title ++ first) :: rest.map (Text.spaces column ++ ·)
  else title :: help.map (Text.spaces column ++ ·)

/-- The column in which the help of all entries starts.  Entries that stand deeper than others
are not given more room. -/
def helpColumn (items : List Item) : Nat :=
  Nat.min maxHelpColumn ((items.map fun item => item.title.length + 4).foldl Nat.max 0)

/-- A heading with its entries, unless there are none. -/
def sectionText (column : Nat) (heading : String) (items : List Item) : List String :=
  if items.isEmpty then []
  else [Text.joinTexts "\n" (heading :: items.flatMap (Item.lines column))]

/-- The help page. -/
def Form.page (f : Form κ) : String :=
  let operands := f.operands.items
  let options := f.options.map Opt.item
  let column := helpColumn (operands ++ options)
  Text.joinTexts "\n\n" ([f.usage] ++ f.description.toList ++
    sectionText column "positional arguments:" operands ++
    sectionText column "options:" options ++ f.closing.toList) ++ "\n"

end Cyclometry.Arguments
