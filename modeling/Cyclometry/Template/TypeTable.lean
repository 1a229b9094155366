import Cyclometry.Template.Types.Collection
import Cyclometry.Template.Types.Member
import Cyclometry.Template.Types.Number
import Cyclometry.Template.Types.Root
import Cyclometry.Template.Types.Text

/-!
# The table of types

The types that a template can come to from its arguments.  A type has its own members and those
of the types it extends, and the nearest member of a name counts.
-/

namespace Cyclometry.Template

/-- All types that a template can come to. -/
def typeTable : List TypeInfo := [
  Types.nothing, Types.truth, Types.whole, Types.fraction, Types.text, Types.list, Types.mapping,
  Types.row, Types.types, Types.root, Types.slotMember, Types.methodMember,
  Types.typeMethodMember, Types.sharedMethodMember, Types.computedMember, Types.storedMember,
  Types.boundSlot, Types.boundMethod, Types.memberTable, Types.applied]

/-- What is known of the type of a name. -/
def typeInfo? (name : String) : Option TypeInfo := typeTable.find? fun t => t.name == name

/-- The root of all types. -/
def rootType : String := "object"

/-- The type of all types. -/
def metatype : String := "type"

/-- The type that a type extends.  A type that is not in the table extends the root. -/
def baseOf (name : String) : Option String :=
  if name == rootType then none
  else
    match typeInfo? name with
    | some t => t.base
    | none => some rootType

/-- The types that a type extends, from the nearest one on; `steps` bounds their number. -/
def ancestors : Nat → String → List String
  | 0, _ => []
  | steps + 1, name =>
    match baseOf name with
    | none => []
    | some base => base :: ancestors steps base

/-- A type and all types that it extends. -/
def lineage (name : String) : List String := name :: ancestors typeTable.length name

/-- The part of a type's name after the module that it belongs to. -/
def shortName (type : String) : String :=
  String.ofList (type.toList.reverse.takeWhile (· != '.')).reverse

/-- The module that a type belongs to. -/
def moduleOf (type : String) : String :=
  match (type.toList.reverse.dropWhile (· != '.')).reverse.dropLast with
  | [] => "builtins"
  | module => String.ofList module

/-- The description of a type is its last member, unless a member has taken its name. -/
def TypeInfo.allMembers (t : TypeInfo) : List Member :=
  if t.members.any fun m => m.name == "__doc__" then t.members
  else t.members ++ [constant "__doc__" t.doc]

/-- The member that a type itself has under a name. -/
def TypeInfo.member? (t : TypeInfo) (name : String) : Option Member :=
  t.allMembers.find? fun m => m.name == name

/-- The member of a name that a type has, with the type that it comes from. -/
def member? (type name : String) : Option (Member × String) :=
  (lineage type).findSome? fun owner =>
    ((typeInfo? owner).bind fun t => t.member? name).map fun m => (m, owner)

end Cyclometry.Template
