import Cyclometry.Template.Member

/-!
# Types of members

The members of types and values have types and members of their own, and so have the table of
members of a type and a type with an argument.
-/

namespace Cyclometry.Template.Types

/-- Slots of a type. -/
def slotMember : TypeInfo where
  name := "wrapper_descriptor"
  base := some "object"
  size := 56
  flags := 0xa5180
  members :=
    slots ["__repr__ __call__ __getattribute__ __get__"] ++
    [
      method "__reduce__" none [],
      stored "__objclass__",
      stored "__name__",
      computed "__doc__" [],
      computed "__qualname__" [],
      computed "__text_signature__" []]

/-- Methods of a type. -/
def methodMember : TypeInfo where
  name := "method_descriptor"
  base := some "object"
  size := 56
  flags := 0xa5980
  members :=
    slots ["__repr__ __call__ __getattribute__ __get__"] ++
    [
      method "__reduce__" none [],
      stored "__objclass__",
      stored "__name__",
      computed "__doc__" [],
      computed "__qualname__" [],
      computed "__text_signature__" []]

/-- Methods that a type calls on itself. -/
def typeMethodMember : TypeInfo where
  name := "classmethod_descriptor"
  base := some "object"
  size := 56
  flags := 0x85180
  members :=
    slots ["__repr__ __call__ __getattribute__ __get__"] ++
    [
      stored "__objclass__",
      stored "__name__",
      computed "__doc__" [],
      computed "__qualname__" [],
      computed "__text_signature__" []]

/-- Methods that need neither a value nor a type. -/
def sharedMethodMember : TypeInfo where
  name := "staticmethod"
  base := some "object"
  doc := lines [
    "staticmethod(function) -> method",
    "",
    "Convert a function to be a static method.",
    "",
    "A static method does not receive an implicit first argument.",
    "To declare a static method, use this idiom:",
    "",
    "     class C:",
    "         @staticmethod",
    "         def f(arg1, arg2, argN):",
    "             ...",
    "",
    "It can be called either on the class (e.g. C.f()) or on an instance",
    "(e.g. C().f()). Both the class and the instance are ignored, and",
    "neither is passed implicitly as the first argument to the method.",
    "",
    "Static methods in Python are similar to those found in Java or C++.",
    "For a more advanced concept, see the classmethod builtin."]
  size := 32
  flags := 0x85500
  namesOffset := 24
  members :=
    [maker] ++
    slots ["__repr__ __call__ __get__ __init__"] ++
    [
      stored "__func__",
      stored "__wrapped__",
      computed "__isabstractmethod__" [],
      computed "__dict__" []]

/-- Members that are worked out from a value. -/
def computedMember : TypeInfo where
  name := "getset_descriptor"
  base := some "object"
  size := 48
  flags := 0x85180
  members :=
    slots ["__repr__ __getattribute__ __get__ __set__ __delete__"] ++
    [
      stored "__objclass__",
      stored "__name__",
      computed "__doc__" [],
      computed "__qualname__" []]

/-- Members that are stored in a value. -/
def storedMember : TypeInfo where
  name := "member_descriptor"
  base := some "object"
  size := 48
  flags := 0x85180
  members :=
    slots ["__repr__ __getattribute__ __get__ __set__ __delete__"] ++
    [
      method "__reduce__" none [],
      stored "__objclass__",
      stored "__name__",
      computed "__doc__" [],
      computed "__qualname__" []]

/-- Slots of a value. -/
def boundSlot : TypeInfo where
  name := "method-wrapper"
  base := some "object"
  size := 32
  flags := 0x85180
  members :=
    slots [
      "__repr__ __hash__ __call__ __getattribute__ __lt__ __le__ __eq__ __ne__ __gt__",
      "__ge__"] ++
    [
      method "__reduce__" none [],
      stored "__self__",
      computed "__objclass__" [],
      computed "__name__" [],
      computed "__qualname__" [],
      computed "__doc__" [],
      computed "__text_signature__" []]

/-- Methods of a value. -/
def boundMethod : TypeInfo where
  name := "builtin_function_or_method"
  base := some "object"
  size := 56
  flags := 0x85980
  referencesOffset := 40
  members :=
    slots [
      "__repr__ __hash__ __call__ __getattribute__ __lt__ __le__ __eq__ __ne__ __gt__",
      "__ge__"] ++
    [
      method "__reduce__" none [],
      stored "__module__",
      computed "__doc__" [],
      computed "__name__" [],
      computed "__qualname__" [],
      computed "__self__" [],
      computed "__text_signature__" []]

/-- Tables of members. -/
def memberTable : TypeInfo where
  name := "mappingproxy"
  base := some "object"
  size := 24
  flags := 0x85140
  members :=
    [maker] ++
    slots [
      "__repr__ __str__ __getattribute__ __lt__ __le__ __eq__ __ne__ __gt__ __ge__",
      "__iter__ __or__ __ror__ __ior__ __len__ __getitem__ __contains__"] ++
    [
      method "get" none ["D.get(k[,d]) -> D[k] if k in D, else d.  d defaults to None."],
      method "keys" none ["D.keys() -> a set-like object providing a view on D's keys"],
      method "values" none ["D.values() -> an object providing a view on D's values"],
      method "items" none ["D.items() -> a set-like object providing a view on D's items"],
      method "copy" none ["D.copy() -> a shallow copy of D"],
      typeMethod "__class_getitem__" none ["See PEP 585"],
      method "__reversed__" none ["D.__reversed__() -> reverse iterator"],
      constant "__doc__" none,
      constant "__hash__" none]

/-- Types with an argument. -/
def applied : TypeInfo where
  name := "types.GenericAlias"
  base := some "object"
  doc := lines [
    "Represent a PEP 585 generic type",
    "",
    "E.g. for t = list[int], t.__origin__ is list and t.__args__ is (int,)."]
  size := 64
  flags := 0x85d00
  referencesOffset := 40
  members :=
    [maker] ++
    slots [
      "__repr__ __hash__ __call__ __getattribute__ __lt__ __le__ __eq__ __ne__ __gt__",
      "__ge__ __iter__ __or__ __ror__ __getitem__"] ++
    [
      method "__mro_entries__" none [],
      method "__instancecheck__" none [],
      method "__subclasscheck__" none [],
      method "__reduce__" none [],
      method "__dir__" none [],
      stored "__origin__",
      stored "__args__",
      stored "__unpacked__",
      computed "__parameters__" ["Type variables in the GenericAlias."],
      computed "__typing_unpacked_tuple_args__" []]

end Cyclometry.Template.Types
