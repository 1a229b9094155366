import Cyclometry.Arguments.Basic
import Cyclometry.Text.Digit

/-!
# Reading a command line

Every word is marked first: is it an option, and which one?  Long options may be shortened as
long as they stay unambiguous, and a word may be attached to its option, after an equals sign
or, for an option of one letter, right after it.  Options of one letter that take nothing may
share a dash.  All words after `--` are operands, and `--` is no word that an option takes.

Then the words are read from left to right.  Operands are taken once: words that belong to no
option and come after the operands have been taken are left over.
-/

namespace Cyclometry.Arguments

variable {κ : Type}

/-! ## Marks -/

/-- An option that a word spells. -/
structure Found (κ : Type) where
  opt : Opt κ
  spelling : String
  /-- The word that is attached to the option. -/
  attached : Option (List Char)

/-- What a word is. -/
inductive Mark (κ : Type)
  | operand
  | separator
  | option (found : Found κ)
  /-- It looks like an option, but there is none of this spelling. -/
  | unknown

/-- All spellings of the options of a form. -/
def Form.spellings (f : Form κ) : List (String × Opt κ) :=
  f.options.flatMap fun o => o.spellings.map fun s => (s, o)

/-- The option of a spelling. -/
def Form.find? (f : Form κ) (spelling : String) : Option (Opt κ) :=
  (f.spellings.find? fun e => e.1 == spelling).map (·.2)

/-- A word divided at its first equals sign. -/
def cutAtSign (word : List Char) : List Char × Option (List Char) :=
  match word.dropWhile (· != '=') with
  | _ :: rest => (word.takeWhile (· != '='), some rest)
  | [] => (word, none)

/-- The options that a word may mean: those that begin like a long option, or the one whose
letter a short option begins with. -/
def Form.candidates (f : Form κ) (word : List Char) : List (Found κ) :=
  match word with
  | '-' :: '-' :: _ =>
    let (start, attached) := cutAtSign word
    f.spellings.filterMap fun (s, o) =>
      if start.isPrefixOf s.toList then some ⟨o, s, attached⟩ else none
  | '-' :: c :: rest =>
    f.spellings.filterMap fun (s, o) =>
      if s.toList == ['-', c] then some ⟨o, s, some rest⟩
      else if word.isPrefixOf s.toList then some ⟨o, s, none⟩
      else none
  | _ => []

/-- Decimal digits of any script, at least one. -/
def isNumeral (s : List Char) : Bool := !s.isEmpty && s.all fun c => (Text.digitValue? c).isSome

/-- A negative number: an integer or a decimal fraction.  A line feed at the end does not
count. -/
def isNegative (word : List Char) : Bool :=
  match word with
  | '-' :: s =>
    let s := if s.getLast? == some '\n' then s.dropLast else s
    match s.dropWhile (· != '.') with
    | _ :: places =>
      isNumeral places &&
        (s.takeWhile (· != '.')).all fun c => (Text.digitValue? c).isSome
    | [] => isNumeral s
  | _ => false

/-- The mark of a word that begins with a dash and has more characters, but is no spelling of
an option. -/
def Form.markDashed (f : Form κ) (word : String) : Except Problem (Mark κ) :=
  let exact :=
    match cutAtSign word.toList with
    | (name, some rest) =>
      (f.find? (String.ofList name)).map fun o =>
        (⟨o, String.ofList name, some rest⟩ : Found κ)
    | (_, none) => none
  match exact with
  | some found => .ok (.option found)
  | none =>
    match f.candidates word.toList with
    | [found] => .ok (.option found)
    | [] =>
      .ok (if isNegative word.toList || word.toList.contains ' ' then .operand else .unknown)
    | several => .error (.ambiguous word (several.map (·.spelling)))

/-- The mark of a word. -/
def Form.mark (f : Form κ) (word : String) : Except Problem (Mark κ) :=
  match word.toList with
  | '-' :: rest =>
    match f.find? word with
    | some o => .ok (.option ⟨o, word, none⟩)
    | none => if rest.isEmpty then .ok .operand else f.markDashed word
  | _ => .ok .operand

/-- All words with their marks. -/
def Form.marks (f : Form κ) : List String → Except Problem (List (String × Mark κ))
  | [] => .ok []
  | word :: rest =>
    if word == "--" then .ok ((word, .separator) :: rest.map fun w => (w, .operand))
    else do
      let mark ← f.mark word
      let marks ← f.marks rest
      pure ((word, mark) :: marks)

/-! ## Options -/

/-- What one word says: options, some of them with a word.  The last option may have to look
for its word further on. -/
structure Cluster (κ : Type) where
  uses : List (Opt κ × Option String)
  last : Option (Opt κ)

/-- Put an option in front. -/
def Cluster.cons (c : Cluster κ) (use : Opt κ × Option String) : Cluster κ :=
  { c with uses := use :: c.uses }

/-- The word that an attached text is.  The mark of the operands is no word. -/
def attachedWord (text : List Char) : Option String :=
  if text == ['-', '-'] then none else some (String.ofList text)

/-- An option with a text attached, which may be a word that it takes or, behind a spelling of
one letter, more options of one letter. -/
def Form.spread (f : Form κ) (o : Opt κ) (oneDash : Bool) (text : List Char) :
    Except Problem (Cluster κ) :=
  if o.takesWord then .ok ⟨[(o, attachedWord text)], none⟩
  else
    match text with
    | [] => .error (.unusedWord o.name "")
    | c :: rest =>
      match if oneDash then f.find? (String.ofList ['-', c]) else none with
      | none => .error (.unusedWord o.name (String.ofList (c :: rest)))
      | some next =>
        let cluster : Except Problem (Cluster κ) :=
          if rest.isEmpty then .ok ⟨[], some next⟩ else f.spread next true rest
        cluster.map (·.cons (o, none))
termination_by text.length

/-- What a word says that spells an option. -/
def Form.cluster (f : Form κ) (found : Found κ) : Except Problem (Cluster κ) :=
  match found.attached with
  | none => .ok ⟨[], some found.opt⟩
  | some text => f.spread found.opt (!"--".toList.isPrefixOf found.spelling.toList) text

/-! ## Reading -/

/-- What a command line says: the settings in order, each with its word if it has one, the
operands if there are any, and the words that are left over. -/
structure Reading (κ : Type) where
  settings : List (κ × Option String)
  operands : Option (List String)
  leftOver : List String

/-- Why reading stops. -/
inductive Stop
  | help
  | version
  | problem (p : Problem)
  deriving DecidableEq, Repr

/-- Use an option with its word. -/
def Reading.use (r : Reading κ) (o : Opt κ) (word : Option String) : Except Stop (Reading κ) :=
  match o.purpose with
  | .help => .error .help
  | .version => .error .version
  | .set key =>
    match o.takes, word with
    | .oneOf words, some word =>
      if words.contains word then .ok { r with settings := r.settings ++ [(key, some word)] }
      else .error (.problem (.notAChoice o.name word words))
    | _, word => .ok { r with settings := r.settings ++ [(key, word)] }

/-- Use several options. -/
def Reading.useAll (r : Reading κ) (uses : List (Opt κ × Option String)) :
    Except Stop (Reading κ) :=
  uses.foldlM (fun r u => r.use u.1 u.2) r

/-- A word that belongs to no option. -/
def isLoose : String × Mark κ → Bool
  | (_, .operand) => true
  | (_, .separator) => true
  | _ => false

/-- A word that can be an operand. -/
def isOperand : String × Mark κ → Bool
  | (_, .operand) => true
  | _ => false

/-- Read words that have been marked. -/
def Form.readMarked (f : Form κ) (words : List (String × Mark κ)) (r : Reading κ) :
    Except Stop (Reading κ) :=
  match words with
  | [] => .ok r
  | (word, .unknown) :: rest =>
    f.readMarked rest { r with leftOver := r.leftOver ++ [word] }
  | (_, .option found) :: rest =>
    match f.cluster found with
    | .error p => .error (.problem p)
    | .ok cluster => do
      match cluster.last with
      | none => f.readMarked rest (← r.useAll cluster.uses)
      | some o =>
        if o.takesWord then
          match rest with
          | (word, .operand) :: rest =>
            f.readMarked rest (← r.useAll (cluster.uses ++ [(o, some word)]))
          | _ => .error (.problem (.missingWord o.name))
        else f.readMarked rest (← r.useAll (cluster.uses ++ [(o, none)]))
  | first :: rest =>
    let run := (first :: rest.takeWhile isLoose).map (·.1)
    let after := rest.dropWhile isLoose
    match f.operands, r.operands with
    | .many _ _, none => f.readMarked after { r with operands := some (run.erase "--") }
    | .command _ _ _, none =>
      if (first :: rest).any isOperand then
        .ok { r with operands := some ((first :: rest).map (·.1)) }
      else f.readMarked after { r with leftOver := r.leftOver ++ run }
    | _, _ => f.readMarked after { r with leftOver := r.leftOver ++ run }
termination_by words.length
decreasing_by
  all_goals simp only [List.length_cons]
  all_goals first
    | omega
    | exact Nat.lt_succ_of_le (List.dropWhile_suffix _).length_le

/-- Read a command line. -/
def Form.read (f : Form κ) (words : List String) : Except Stop (Reading κ) :=
  match f.marks words with
  | .error p => .error (.problem p)
  | .ok words => f.readMarked words ⟨[], none, []⟩

end Cyclometry.Arguments
