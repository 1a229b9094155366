import Cyclometry.Template.Spec
import Cyclometry.Template.TypeTable

/-!
# What a field leads to

A field of a template begins at an argument and goes into it step by step.  Besides values it
may come to the type of a value, to several types, to a member of a type or of a value, to the
table of a type's members and to a type with an argument.  All of them can be written, but only
values can be laid out.

A part of a thing is a member of its type.  A type is a thing too, so its parts are its own
members and those of the type of types.
-/

namespace Cyclometry.Template

/-- What a field of a template leads to. -/
inductive Thing
  | value (v : Value)
  | type (name : String)
  | types (names : List String)
  /-- A row of one value. -/
  | single (v : Value)
  /-- A member of a type, with the type that it comes from. -/
  | member (m : Member) (owner : String)
  /-- A member of a value or of another thing. -/
  | bound (m : Member) (owner : String) (of : Thing)
  /-- The table of a type's own members. -/
  | memberTable (type : String)
  /-- A type with an argument. -/
  | applied (type : String) (argument : Value)

/-- The name of the type of a value. -/
def typeOf : Value → String
  | .null => "NoneType"
  | .bool _ => "bool"
  | .int _ => "int"
  | .float _ => "float"
  | .text _ => "str"
  | .bytes _ => "bytes"
  | .date _ => "date"
  | .moment _ => "datetime"
  | .list _ => "list"
  | .pair _ _ => "tuple"
  | .set _ => "set"
  | .map _ => "dict"
  | .cycle => "object"

/-- The type of a member of a type. -/
def MemberForm.type : MemberForm → String
  | .slot => "wrapper_descriptor"
  | .method => "method_descriptor"
  | .typeMethod => "classmethod_descriptor"
  | .sharedMethod => "staticmethod"
  | .maker => "builtin_function_or_method"
  | .computed => "getset_descriptor"
  | .stored => "member_descriptor"
  | .constant none => "NoneType"
  | .constant (some _) => "str"

/-- The type of a member of a value. -/
def MemberForm.boundType : MemberForm → String
  | .slot => "method-wrapper"
  | _ => "builtin_function_or_method"

/-- The name of the type of a thing. -/
def Thing.typeName : Thing → String
  | .value v => typeOf v
  | .type _ => metatype
  | .types _ => "tuple"
  | .single _ => "tuple"
  | .member m _ => m.form.type
  | .bound m _ _ => m.form.boundType
  | .memberTable _ => "mappingproxy"
  | .applied _ _ => "types.GenericAlias"

/-- A text, or null if there is none. -/
def textOrNull (s : Option String) : Thing := .value ((s.map Value.text).getD .null)

/-- The type takes an argument. -/
def takesArgument (type : String) : Bool :=
  type == metatype || (member? type "__class_getitem__").isSome

/-! ## Members as things -/

/-- A member as the table of its type shows it. -/
def Member.entry (m : Member) (owner : String) : Thing :=
  match m.form with
  | .maker => .bound m owner (.type owner)
  | .constant text => textOrNull text
  | _ => .member m owner

/-- A member as a part of a type that has it. -/
def Member.ofType (m : Member) (owner type : String) : Thing :=
  match m.form with
  | .typeMethod => .bound m owner (.type type)
  | .sharedMethod => .bound m owner (.type owner)
  | _ => m.entry owner

/-- The member is worked out from a thing or stored in it. -/
def MemberForm.isAttribute : MemberForm → Bool
  | .computed => true
  | .stored => true
  | _ => false

/-! ## Attributes -/

/-- A part of a number. -/
def numberPart? (value : Value) (name : String) : Option Value :=
  match value, name with
  | .int n, "real" | .int n, "numerator" => some (.int n)
  | .int _, "imag" => some (.int 0)
  | .int _, "denominator" => some (.int 1)
  | .bool b, "real" | .bool b, "numerator" => some (.int (if b then 1 else 0))
  | .bool _, "imag" => some (.int 0)
  | .bool _, "denominator" => some (.int 1)
  | .float x, "real" => some (.float x)
  | .float _, "imag" => some (.float (.zero false))
  | _, _ => none

/-- What a type says of itself.  Its description is a member that takes the name, if it has
none of its own. -/
def typeAttribute? (type name : String) : Option Thing :=
  let info := typeInfo? type
  let number (f : TypeInfo → Nat) : Option Thing := info.map fun t => .value (.int (f t))
  match name with
  | "__name__" | "__qualname__" => some (textOrNull (some (shortName type)))
  | "__module__" => some (textOrNull (some (moduleOf type)))
  | "__base__" => some (((baseOf type).map Thing.type).getD (.value .null))
  | "__bases__" => some (.types (baseOf type).toList)
  | "__mro__" => some (.types (lineage type))
  | "__dict__" => some (.memberTable type)
  | "__doc__" =>
    match info.bind (·.doc) with
    | some doc => some (textOrNull (some doc))
    | none => some (((info.bind (·.member? name)).map (·.ofType type type)).getD (.value .null))
  | "__text_signature__" => some (textOrNull (info.bind (·.signature)))
  | "__basicsize__" => number (·.size)
  | "__itemsize__" => number (·.itemSize)
  | "__flags__" => number (·.flags)
  | "__dictoffset__" => number (·.namesOffset)
  | "__weakrefoffset__" => number (·.referencesOffset)
  | _ => none

/-- What a member of a type says of itself. -/
def memberAttribute? (m : Member) (owner name : String) : Option Thing :=
  match name with
  | "__name__" => some (textOrNull (some m.name))
  | "__qualname__" => some (textOrNull (some (shortName owner ++ "." ++ m.name)))
  | "__objclass__" => some (.type owner)
  | "__doc__" => some (textOrNull m.doc)
  | "__text_signature__" => some (textOrNull m.signature)
  | "__func__" | "__wrapped__" => some (m.ofType owner owner)
  | "__isabstractmethod__" => some (.value (.bool false))
  | "__dict__" => some (.value (.map []))
  | _ => none

/-- What a member of a thing says of itself.  The full name of a slot begins with the type that
it comes from, and that of a method with the type that it is called on. -/
def boundAttribute? (m : Member) (owner : String) (of : Thing) (name : String) : Option Thing :=
  match name with
  | "__self__" => some (if m.form == .sharedMethod then .value .null else of)
  | "__module__" => some (.value .null)
  | "__qualname__" =>
    match m.form, of with
    | .slot, _ => memberAttribute? m owner name
    | _, .type t => memberAttribute? m t name
    | _, of => memberAttribute? m of.typeName name
  | _ => memberAttribute? m owner name

/-- What a type with an argument says of itself. -/
def appliedAttribute? (type : String) (argument : Value) (name : String) : Option Thing :=
  match name with
  | "__origin__" => some (.type type)
  | "__args__" => some (.single argument)
  | "__parameters__" => some (.types [])
  | "__unpacked__" => some (.value (.bool false))
  | "__typing_unpacked_tuple_args__" => some (.value .null)
  | _ => none

/-- What is worked out from a thing or stored in it. -/
def Thing.attribute? (thing : Thing) (name : String) : Option Thing :=
  if name == "__class__" then some (.type thing.typeName)
  else
    match thing with
    | .value v => (numberPart? v name).map .value
    | .type t => typeAttribute? t name
    | .member m owner => memberAttribute? m owner name
    | .bound m owner of => boundAttribute? m owner of name
    | .applied t argument => appliedAttribute? t argument name
    | _ => none

/-! ## Parts -/

/-- A member of a thing's type as a part of the thing. -/
def Thing.partOf? (thing : Thing) (m : Member) (owner : String) : Option Thing :=
  match m.form with
  | .slot | .method => some (.bound m owner thing)
  | .computed | .stored => thing.attribute? m.name
  | _ => some (m.ofType owner thing.typeName)

/-- A part of a thing that is not a type. -/
def Thing.ownPart? (thing : Thing) (name : String) : Option Thing :=
  (member? thing.typeName name).bind fun (m, owner) => thing.partOf? m owner

/-- A part of a type.  The attributes of types come first, then the members of the type,
then what else the type of types has. -/
def typePart? (type name : String) : Option Thing :=
  let above := member? metatype name
  if above.any fun (m, _) => m.form.isAttribute then Thing.attribute? (.type type) name
  else
    match member? type name with
    | some (m, owner) => some (m.ofType owner type)
    | none => above.bind fun (m, owner) => Thing.partOf? (.type type) m owner

/-- The parts that a type with an argument does not take over from the type. -/
def appliedParts : List String := [
  "__class__", "__origin__", "__args__", "__unpacked__", "__parameters__",
  "__typing_unpacked_tuple_args__", "__mro_entries__", "__reduce_ex__", "__reduce__", "__copy__",
  "__deepcopy__"]

/-- A part of a thing. -/
def Thing.part? (thing : Thing) (name : String) : Option Thing :=
  match thing with
  | .type t => typePart? t name
  | .applied t _ => if appliedParts.contains name then thing.ownPart? name else typePart? t name
  | thing => thing.ownPart? name

/-- A part of a thing, or the fault that there is none. -/
def Thing.part (thing : Thing) (name : String) : Except Fault Thing :=
  match thing.part? name with
  | some part => .ok part
  | none => .error .noSuchPart

/-! ## Items -/

/-- A name that is a number.  Digits in front have to be small enough even if the name goes on
in another way. -/
def index? (name : List Char) : Except Fault (Option Nat) :=
  match leadingDigits name with
  | [] => .ok none
  | ds => (number ds).map fun n => if ds.length == name.length then some n else none

/-- An item of a text, a list or a mapping. -/
def valueItem (value : Value) (name : List Char) : Except Fault Value := do
  match value, ← index? name with
  | .text s, some n =>
    match s.toList[n]? with
    | some c => pure (.text (String.singleton c))
    | none => throw .noSuchIndex
  | .list items, some n =>
    match items[n]? with
    | some v => pure v
    | none => throw .noSuchIndex
  | .map fields, some n =>
    match Fields.find? fields (.int n) with
    | some v => pure v
    | none => throw (.noSuchKey (Decimal.ofNat n))
  | .map fields, none =>
    match Fields.get? fields (String.ofList name) with
    | some v => pure v
    | none => throw (.noSuchKey (String.ofList name))
  | _, _ => throw .unsupported

/-- An item of a thing. -/
def Thing.item (thing : Thing) (name : List Char) : Except Fault Thing :=
  match thing with
  | .value v => (valueItem v name).map .value
  | .types ts => do
    match ← index? name with
    | some n =>
      match ts[n]? with
      | some t => pure (.type t)
      | none => throw .noSuchIndex
    | none => throw .unsupported
  | .single v => do
    match ← index? name with
    | some 0 => pure (.value v)
    | some _ => throw .noSuchIndex
    | none => throw .unsupported
  | .memberTable t => do
    match ← index? name with
    | some n => throw (.noSuchKey (Decimal.ofNat n))
    | none =>
      match (typeInfo? t).bind (·.member? (String.ofList name)) with
      | some m => pure (m.entry t)
      | none => throw (.noSuchKey (String.ofList name))
  | .type t => do
    let index ← index? name
    if takesArgument t then
      pure (.applied t ((index.map fun (n : Nat) => Value.int n).getD (.text (String.ofList name))))
    else throw .unsupported
  | _ => do
    let _ ← index? name
    throw .unsupported

/-! ## Text -/

/-- The text of a type. -/
def typeText (name : String) : String := "<class '" ++ name ++ "'>"

/-- The word for a member of a type. -/
def MemberForm.text : MemberForm → String
  | .slot => "slot wrapper"
  | .computed => "attribute"
  | .stored => "member"
  | _ => "method"

/-- Where a thing stands in memory.  Nothing depends on it but its length and its beginning. -/
def place : String := "0x7f0000000000"

/-- The text of a member of a thing of a type. -/
def boundText (m : Member) (type : String) : String :=
  let word := if m.form == .slot then "method-wrapper '" ++ m.name ++ "'"
    else "built-in method " ++ m.name
  "<" ++ word ++ " of " ++ type ++ " object at " ++ place ++ ">"

/-- The text of a member of a type. -/
def memberText (alphabet : Text.Quoted.Alphabet) (m : Member) (owner : String) : String :=
  match m.form with
  | .sharedMethod => "<staticmethod(" ++ boundText m metatype ++ ")>"
  | .maker => boundText m metatype
  | .constant none => Value.null.shown alphabet
  | .constant (some text) => (Value.text text).shown alphabet
  | form => "<" ++ form.text ++ " '" ++ m.name ++ "' of '" ++ owner ++ "' objects>"

/-- The text of the table of a type's members. -/
def memberTableText (alphabet : Text.Quoted.Alphabet) (type : String) : String :=
  let members := ((typeInfo? type).map (·.allMembers)).getD []
  "\x7b" ++ Text.joinTexts ", " (members.map fun m =>
    (Value.text m.name).shown alphabet ++ ": " ++ memberText alphabet m type) ++ "\x7d"

/-- A thing as part of another one. -/
def Thing.shown (alphabet : Text.Quoted.Alphabet) : Thing → String
  | .value v => v.shown alphabet
  | .type name => typeText name
  | .types [name] => "(" ++ typeText name ++ ",)"
  | .types names => "(" ++ Text.joinTexts ", " (names.map typeText) ++ ")"
  | .single v => "(" ++ v.shown alphabet ++ ",)"
  | .member m owner => memberText alphabet m owner
  | .bound m _ of => boundText m of.typeName
  | .memberTable t => "mappingproxy(" ++ memberTableText alphabet t ++ ")"
  | .applied t argument => shortName t ++ "[" ++ argument.shown alphabet ++ "]"

/-- A thing on its own. -/
def Thing.plain : Thing → String
  | .value v => v.plain
  | .memberTable t => memberTableText .unicode t
  | thing => thing.shown .unicode

/-- The text of a thing can be written within the limits. -/
def Thing.check (limits : Limits) : Thing → Except Fault Unit
  | .value v => limits.check v
  | .single v => limits.check (.list [v])
  | .applied _ argument => limits.check argument
  | _ => .ok ()

/-- A thing as a specification lays it out. -/
def Thing.format (limits : Limits) (thing : Thing) (spec : List Char) :
    Except Fault (List Char) :=
  match thing with
  | .value v => Template.format limits v spec
  | thing =>
    if spec.isEmpty then (thing.check limits).map fun _ => thing.plain.toList
    else .error .unsupported

end Cyclometry.Template
