import Cyclometry.Template.Member

/-!
# The type of everything and the type of types

Every type extends the first one, and every type has the second one as its type.  Null has a
type of its own.
-/

namespace Cyclometry.Template.Types

/-- What all values have. -/
def root : TypeInfo where
  name := "object"
  base := none
  doc := lines [
    "The base class of the class hierarchy.",
    "",
    "When called, it accepts no arguments and returns a new featureless",
    "instance that has no instance attributes and cannot be given any.",
    ""]
  signature := some "()"
  size := 16
  flags := 0x81500
  members :=
    [maker] ++
    slots [
      "__repr__ __hash__ __str__ __getattribute__ __setattr__ __delattr__ __lt__ __le__",
      "__eq__ __ne__ __gt__ __ge__ __init__"] ++
    [
      method "__reduce_ex__" (some "($self, protocol, /)") ["Helper for pickle."],
      method "__reduce__" (some "($self, /)") ["Helper for pickle."],
      method "__getstate__" (some "($self, /)") ["Helper for pickle."],
      typeMethod "__subclasshook__" none [
        "Abstract classes can override this to customize issubclass().",
        "",
        "This is invoked early on by abc.ABCMeta.__subclasscheck__().",
        "It should return True, False or NotImplemented.  If it returns",
        "NotImplemented, the normal algorithm is used.  Otherwise, it",
        "overrides the normal algorithm (and the outcome is cached).",
        ""],
      typeMethod "__init_subclass__" none [
        "This method is called when a class is subclassed.",
        "",
        "The default implementation does nothing. It may be",
        "overridden to extend subclasses.",
        ""],
      method "__format__" (some "($self, format_spec, /)") ["Default object formatter."],
      method "__sizeof__" (some "($self, /)") ["Size of object in memory, in bytes."],
      method "__dir__" (some "($self, /)") ["Default dir() implementation."],
      computed "__class__" ["the object's class"]]

/-- What all types have. -/
def types : TypeInfo where
  name := "type"
  base := some "object"
  doc := lines [
    "type(object) -> the object's type",
    "type(name, bases, dict, **kwds) -> a new type"]
  size := 904
  itemSize := 40
  flags := 0x80085d00
  namesOffset := 264
  referencesOffset := 368
  members :=
    [maker] ++
    slots [
      "__repr__ __call__ __getattribute__ __setattr__ __delattr__ __init__ __or__",
      "__ror__"] ++
    [
      method "mro" (some "($self, /)") ["Return a type's method resolution order."],
      method "__subclasses__" (some "($self, /)") ["Return a list of immediate subclasses."],
      typeMethod "__prepare__" none [
        "__prepare__() -> dict",
        "used to create the namespace for the class statement"],
      method "__instancecheck__" (some "($self, instance, /)")
        ["Check if an object is an instance."],
      method "__subclasscheck__" (some "($self, subclass, /)") ["Check if a class is a subclass."],
      method "__dir__" (some "($self, /)") ["Specialized __dir__ implementation for types."],
      method "__sizeof__" (some "($self, /)") ["Return memory consumption of the type object."],
      stored "__basicsize__",
      stored "__itemsize__",
      stored "__flags__",
      stored "__weakrefoffset__",
      stored "__base__",
      stored "__dictoffset__",
      stored "__mro__",
      computed "__name__" [],
      computed "__qualname__" [],
      computed "__bases__" [],
      computed "__module__" [],
      computed "__abstractmethods__" [],
      computed "__dict__" [],
      computed "__doc__" [],
      computed "__text_signature__" [],
      computed "__annotations__" []]

/-- Null. -/
def nothing : TypeInfo where
  name := "NoneType"
  base := some "object"
  size := 16
  flags := 0x81100
  members :=
    [maker] ++
    slots ["__repr__ __bool__"]

end Cyclometry.Template.Types
