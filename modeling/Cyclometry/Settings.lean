import Cyclometry.Eligibility
import Cyclometry.FileSystem
import Cyclometry.Json.Read
import Cyclometry.Path.Resolve
import Cyclometry.Yaml.Read

/-!
# Settings

The settings of a run are a mapping with a mapping for each section.  What a configuration file
says is merged over the defaults, section by section, and what the command line says over both.
A section may have any content, so reading a setting can fail.
-/

namespace Cyclometry

/-- The settings as data. -/
structure Settings where
  data : Fields

namespace Settings

/-! ## Merging -/

mutual

/-- Merge further fields into `base`.  Keys of `base` keep their place. -/
def mergeFields (base : List (Value × Value)) : List (Value × Value) → List (Value × Value)
  | [] => base
  | (k, v) :: rest =>
    mergeFields (Fields.set base k (mergeValue (Fields.find? base k) v)) rest

/-- A mapping is merged into a mapping; anything else takes the place of what was there. -/
def mergeValue (old : Option Value) : Value → Value
  | .map fields =>
    match old with
    | some (.map base) => .map (mergeFields base fields)
    | _ => .map fields
  | v => v

end

/-- Why mappings cannot be merged. -/
inductive MergeFault
  /-- There are mappings within mappings on both sides, too often. -/
  | nestedTooDeep
  deriving DecidableEq, Repr

mutual

/-- Merge further fields into `base`, with room for so many levels below. -/
def mergeFieldsWithin (room : Nat) (base : List (Value × Value)) :
    List (Value × Value) → Except MergeFault (List (Value × Value))
  | [] => .ok base
  | (k, v) :: rest => do
    let merged ← mergeValueWithin room (Fields.find? base k) v
    mergeFieldsWithin room (Fields.set base k merged) rest

/-- Merge a value into what was there.  Two mappings are a level of their own. -/
def mergeValueWithin (room : Nat) (old : Option Value) : Value → Except MergeFault Value
  | .map fields =>
    match old, room with
    | some (.map _), 0 => .error .nestedTooDeep
    | some (.map base), room + 1 => (mergeFieldsWithin room base fields).map .map
    | _, _ => .ok (.map fields)
  | v => .ok v

end

/-- The number of levels below the first one that there is room for. -/
def maxMergeNesting : Nat := 980

/-- Settings with other fields merged over them, if there is room. -/
def overriddenBy (s : Settings) (fields : Fields) : Except MergeFault Settings :=
  (mergeFieldsWithin maxMergeNesting s.data fields).map Settings.mk

/-- Settings with other fields merged over them. -/
def merged (s : Settings) (fields : Fields) : Settings := ⟨mergeFields s.data fields⟩

/-- Fields with texts as keys. -/
def named (fields : List (String × Value)) : Fields :=
  fields.map fun (name, value) => (.text name, value)

/-- A list of texts. -/
def texts (items : List String) : Value := .list (items.map .text)

/-- The settings of a run without configuration. -/
def default : Settings := ⟨named [
  ("version", .int 1),
  ("frontend", .map (named [("name", .text "treesitter"), ("clang_args", .list [])])),
  ("exclusion", .map (named [
    ("header_extensions", texts Policy.defaultHeaders),
    ("system_include_dirs", texts Policy.defaultSystemDirs)])),
  ("report", .map (named [("path", .text "results.cy")])),
  ("diagnostics", .map (named [("enabled", .bool true), ("color", .bool true)])),
  ("output", .map (named [("format", .text "text")]))]⟩

/-- The defaults with other fields merged over them.  They are not nested deep, so there is always
room for this. -/
def ofFields (fields : Fields) : Settings := default.merged fields

/-! ## Reading a setting -/

/-- Why a setting cannot be read. -/
inductive Fault
  /-- A section is not a mapping. -/
  | notAMapping
  /-- A setting that should be a list has no elements. -/
  | notAList
  deriving DecidableEq, Repr

/-- A section; one that is not there is empty. -/
def group (s : Settings) (name : String) : Value := (Fields.get? s.data name).getD (.map [])

/-- A setting of a section. -/
def get (s : Settings) (group name : String) (default : Value) : Except Fault Value :=
  match s.group group with
  | .map fields => .ok ((Fields.get? fields name).getD default)
  | _ => .error .notAMapping

/-- A setting that is a list. -/
def getList (s : Settings) (group name : String) : Except Fault (List Value) := do
  match (← s.get group name (.list [])).elements? with
  | some items => pure items
  | none => throw .notAList

/-- The name of the parser to use. -/
def frontendName (s : Settings) : Except Fault Value :=
  s.get "frontend" "name" (.text "treesitter")

/-- Everything that is set for the parsers. -/
def frontendOptions (s : Settings) : Value := s.group "frontend"

/-- Endings of header names. -/
def headerExtensions (s : Settings) : Except Fault (List Value) :=
  s.getList "exclusion" "header_extensions"

/-- System include directories. -/
def systemIncludeDirs (s : Settings) : Except Fault (List Value) :=
  s.getList "exclusion" "system_include_dirs"

/-- The template of the report path. -/
def reportPath (s : Settings) : Except Fault Value := s.get "report" "path" .null

/-- Remarks are shown. -/
def diagnosticsEnabled (s : Settings) : Except Fault Bool :=
  (s.get "diagnostics" "enabled" (.bool true)).map Value.truthy

/-- Remarks are shown in colour. -/
def diagnosticsColor (s : Settings) : Except Fault Bool :=
  (s.get "diagnostics" "color" (.bool true)).map Value.truthy

/-- The format of the summary. -/
def outputFormat (s : Settings) : Except Fault Value := s.get "output" "format" (.text "text")

/-! ## Configuration files -/

/-- Why a configuration file does not count as one. -/
inductive ConfigError
  | json (path : String) (detail : String)
  | yaml (path : String)
  | notAMapping (path : String)
  deriving DecidableEq, Repr

/-- The wording of each error. -/
def ConfigError.message : ConfigError → String
  | json path detail => "Invalid config file " ++ path ++ ": " ++ detail
  | yaml path => "Invalid config file " ++ path
  | notAMapping path => "Config file " ++ path ++ " must contain a mapping"

/-- Why a configuration file cannot be found or loaded. -/
inductive LoadFault
  | notFound (path : String)
  | file (error : FileError)
  | notUtf8
  | config (error : ConfigError)
  /-- An integer of too many digits in a JSON file. -/
  | numeralTooLong
  /-- A JSON file, settings to be merged or links that are nested too deep. -/
  | nestedTooDeep
  /-- A link that leads to itself. -/
  | linkLoop
  /-- A scalar of a YAML file that does not fit its tag. -/
  | scalar (fault : Yaml.Fault)
  deriving DecidableEq, Repr

/-- A text in which every line ends with a line feed only. -/
def unifyNewlines : List Char → List Char
  | [] => []
  | '\r' :: '\n' :: rest => '\n' :: unifyNewlines rest
  | '\r' :: rest => '\n' :: unifyNewlines rest
  | c :: rest => c :: unifyNewlines rest

/-- The place of the first bracket of a JSON text that opens more than `room` levels.  `quoted`
says that the text begins within quotes. -/
def deepPlace? : Nat → Bool → Nat → List Char → Option Nat
  | _, _, _, [] => none
  | room, true, place, '\\' :: _ :: rest => deepPlace? room true (place + 2) rest
  | room, true, place, c :: rest => deepPlace? room (c != '"') (place + 1) rest
  | room, false, place, c :: rest =>
    if c == '[' || c == '{' then
      match room with
      | 0 => some place
      | room + 1 => deepPlace? room false (place + 1) rest
    else if c == ']' || c == '}' then deepPlace? (room + 1) false (place + 1) rest
    else deepPlace? room (c == '"') (place + 1) rest

/-- JSON files may be nested so deep. -/
def maxJsonNesting : Nat := 986

/-- The content of a JSON file.  What is wrong in front of the place where it is nested too deep
is found first. -/
def readJson (path : String) (source : List Char) : Except LoadFault Value :=
  let deep := deepPlace? maxJsonNesting false 0 source
  let isDeepAt (position : Nat) : Bool :=
    (deep.map fun place => decide (place < position)).getD false
  match Json.read source with
  | .ok v => if deep.isSome then .error .nestedTooDeep else .ok v
  | .error (.malformed cause position) =>
    if isDeepAt position then .error .nestedTooDeep
    else .error (.config (.json path (cause.message position source)))
  | .error (.numeralTooLong position) =>
    if isDeepAt position then .error .nestedTooDeep else .error .numeralTooLong

/-- The content of a YAML file.  An empty one, and one that says nothing, is a mapping without
fields. -/
def readYaml (path : String) (source : List Char) : Except LoadFault Value :=
  match Yaml.read source with
  | .ok v => .ok (if v.truthy then v else .map [])
  | .error .malformed => .error (.config (.yaml path))
  | .error fault => .error (.scalar fault)

/-- The fields of a configuration file. -/
def loadFile (fs : FileSystem) (path : String) : Except LoadFault Fields := do
  let p := Path.ofString path
  match fs.pathExists p.text with
  | .error error => throw (.file error)
  | .ok false => throw (.notFound path)
  | .ok true =>
    let bytes ← (fs.read p.text).mapError .file
    match Utf8.decode? bytes with
    | none => throw .notUtf8
    | some cs =>
      let source := unifyNewlines cs
      let value ←
        if Text.lower p.suffix == ".json" then readJson path source else readYaml path source
      match value with
      | .map fields => pure fields
      | _ => throw (.config (.notAMapping path))

/-- The settings of a configuration file over the defaults; no path means no file. -/
def load (fs : FileSystem) (path : Option String) : Except LoadFault Settings :=
  match path with
  | none => .ok default
  | some "" => .ok default
  | some path => (loadFile fs path).map ofFields

/-- The names of configuration files, the preferred one first. -/
def fileNames : List String := [".cycloscan.yaml", ".cycloscan.yml", ".cycloscan.json"]

/-- The path of the first of some names that exists in a directory. -/
def firstIn (fs : FileSystem) (dir : Path) : List String → Except FileError (Option String)
  | [] => .ok none
  | name :: rest => do
    let path := (dir.child name).text
    if ← fs.pathExists path then pure (some path) else firstIn fs dir rest

/-- The configuration file of a directory or of the nearest one above it.  `above` has the
names that lead to the directory, last one first. -/
def searchUp (fs : FileSystem) (root : Path.Root) :
    List String → Except FileError (Option String)
  | [] => firstIn fs ⟨root, []⟩ fileNames
  | name :: above => do
    match ← firstIn fs ⟨root, (name :: above).reverse⟩ fileNames with
    | some path => pure (some path)
    | none => searchUp fs root above

/-- A fault of resolving a path. -/
def LoadFault.ofResolve : FileSystem.ResolveFault → LoadFault
  | .nulCharacter => .file .nulCharacter
  | .linkLoop => .linkLoop
  | .nestedTooDeep => .nestedTooDeep

/-- The configuration file that counts for a path: the one in its directory or in the nearest
directory above. -/
def find (fs : FileSystem) (start : String) : Except LoadFault (Option String) := do
  let p ← (fs.resolve start).mapError .ofResolve
  let isFile ← (fs.fileExists p.text).mapError .file
  let dir := if isFile then p.parent else p
  (searchUp fs dir.root dir.parts.reverse).mapError .file

end Settings

end Cyclometry
