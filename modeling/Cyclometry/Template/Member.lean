import Cyclometry.Text.Blank
import Cyclometry.Text.Split

/-!
# Members of types

Every argument of a message has a type, and a template may ask for it: for its name, for the
types it extends, for its description and for its members.  A **slot** is what an operator
calls, and it is described by its name alone.  A **method** is called on a value, on a type or
on neither.  Other members are worked out from a value or stored in it.
-/

namespace Cyclometry.Template

/-- The kinds of members. -/
inductive MemberForm
  /-- What an operator calls. -/
  | slot
  /-- What is called on a value. -/
  | method
  /-- What is called on a type. -/
  | typeMethod
  /-- What is called on its own. -/
  | sharedMethod
  /-- What makes a value of the type. -/
  | maker
  /-- What is worked out from a value. -/
  | computed
  /-- What is stored in a value. -/
  | stored
  /-- A text, or null. -/
  | constant (text : Option String)
  deriving DecidableEq, Repr

/-- A member of a type. -/
structure Member where
  name : String
  form : MemberForm
  /-- How it is called. -/
  signature : Option String := none
  /-- Its description. -/
  doc : Option String := none
  deriving DecidableEq, Repr

/-- What is known of a type. -/
structure TypeInfo where
  name : String
  /-- The type that it extends. -/
  base : Option String
  /-- Its description. -/
  doc : Option String := none
  /-- How a value is made from other values. -/
  signature : Option String := none
  /-- The space that a value takes, and the space for each of its items. -/
  size : Nat
  itemSize : Nat := 0
  /-- Properties of the type, one in every bit. -/
  flags : Nat
  /-- Where a value keeps its own names, and where the references to it; zero is nowhere. -/
  namesOffset : Nat := 0
  referencesOffset : Nat := 0
  /-- The members that it does not take over from the type it extends, in order. -/
  members : List Member
  deriving DecidableEq, Repr

/-- A description of several lines, if there are any. -/
def lines : List String → Option String
  | [] => none
  | ls => some (Text.joinTexts "\n" ls)

/-! ## Slots -/

/-- The slots, how each is called and what it does. -/
def slotTable : List (String × String × String) := [
  ("__abs__", "($self, /)", "abs(self)"),
  ("__add__", "($self, value, /)", "Return self+value."),
  ("__and__", "($self, value, /)", "Return self&value."),
  ("__bool__", "($self, /)", "True if self else False"),
  ("__call__", "($self, /, *args, **kwargs)", "Call self as a function."),
  ("__contains__", "($self, key, /)", "Return key in self."),
  ("__delattr__", "($self, name, /)", "Implement delattr(self, name)."),
  ("__delete__", "($self, instance, /)", "Delete an attribute of instance."),
  ("__delitem__", "($self, key, /)", "Delete self[key]."),
  ("__divmod__", "($self, value, /)", "Return divmod(self, value)."),
  ("__eq__", "($self, value, /)", "Return self==value."),
  ("__float__", "($self, /)", "float(self)"),
  ("__floordiv__", "($self, value, /)", "Return self//value."),
  ("__ge__", "($self, value, /)", "Return self>=value."),
  ("__get__", "($self, instance, owner=None, /)",
    "Return an attribute of instance, which is of type owner."),
  ("__getattribute__", "($self, name, /)", "Return getattr(self, name)."),
  ("__getitem__", "($self, key, /)", "Return self[key]."),
  ("__gt__", "($self, value, /)", "Return self>value."),
  ("__hash__", "($self, /)", "Return hash(self)."),
  ("__iadd__", "($self, value, /)", "Implement self+=value."),
  ("__imul__", "($self, value, /)", "Implement self*=value."),
  ("__index__", "($self, /)",
    "Return self converted to an integer, if self is suitable for use as an index into a list."),
  ("__init__", "($self, /, *args, **kwargs)",
    "Initialize self.  See help(type(self)) for accurate signature."),
  ("__int__", "($self, /)", "int(self)"),
  ("__invert__", "($self, /)", "~self"),
  ("__ior__", "($self, value, /)", "Return self|=value."),
  ("__iter__", "($self, /)", "Implement iter(self)."),
  ("__le__", "($self, value, /)", "Return self<=value."),
  ("__len__", "($self, /)", "Return len(self)."),
  ("__lshift__", "($self, value, /)", "Return self<<value."),
  ("__lt__", "($self, value, /)", "Return self<value."),
  ("__mod__", "($self, value, /)", "Return self%value."),
  ("__mul__", "($self, value, /)", "Return self*value."),
  ("__ne__", "($self, value, /)", "Return self!=value."),
  ("__neg__", "($self, /)", "-self"),
  ("__or__", "($self, value, /)", "Return self|value."),
  ("__pos__", "($self, /)", "+self"),
  ("__pow__", "($self, value, mod=None, /)", "Return pow(self, value, mod)."),
  ("__radd__", "($self, value, /)", "Return value+self."),
  ("__rand__", "($self, value, /)", "Return value&self."),
  ("__rdivmod__", "($self, value, /)", "Return divmod(value, self)."),
  ("__repr__", "($self, /)", "Return repr(self)."),
  ("__rfloordiv__", "($self, value, /)", "Return value//self."),
  ("__rlshift__", "($self, value, /)", "Return value<<self."),
  ("__rmod__", "($self, value, /)", "Return value%self."),
  ("__rmul__", "($self, value, /)", "Return value*self."),
  ("__ror__", "($self, value, /)", "Return value|self."),
  ("__rpow__", "($self, value, mod=None, /)", "Return pow(value, self, mod)."),
  ("__rrshift__", "($self, value, /)", "Return value>>self."),
  ("__rshift__", "($self, value, /)", "Return self>>value."),
  ("__rsub__", "($self, value, /)", "Return value-self."),
  ("__rtruediv__", "($self, value, /)", "Return value/self."),
  ("__rxor__", "($self, value, /)", "Return value^self."),
  ("__set__", "($self, instance, value, /)", "Set an attribute of instance to value."),
  ("__setattr__", "($self, name, value, /)", "Implement setattr(self, name, value)."),
  ("__setitem__", "($self, key, value, /)", "Set self[key] to value."),
  ("__str__", "($self, /)", "Return str(self)."),
  ("__sub__", "($self, value, /)", "Return self-value."),
  ("__truediv__", "($self, value, /)", "Return self/value."),
  ("__xor__", "($self, value, /)", "Return self^value.")]

/-- The slot of a name. -/
def slot (name : String) : Member :=
  match slotTable.find? fun row => row.1 == name with
  | some (_, signature, doc) => ⟨name, .slot, some signature, some doc⟩
  | none => ⟨name, .slot, none, none⟩

/-- The slots whose names are the words of some lines. -/
def slots (lines : List String) : List Member :=
  lines.flatMap fun line => (Text.words line.toList).map fun word => slot (String.ofList word)

/-! ## Other members -/

/-- A method of a value. -/
def method (name : String) (signature : Option String) (doc : List String) : Member :=
  ⟨name, .method, signature, lines doc⟩

/-- A method of a type. -/
def typeMethod (name : String) (signature : Option String) (doc : List String) : Member :=
  ⟨name, .typeMethod, signature, lines doc⟩

/-- A method that needs neither a value nor a type. -/
def sharedMethod (name : String) (signature : Option String) (doc : List String) : Member :=
  ⟨name, .sharedMethod, signature, lines doc⟩

/-- What makes a value of a type. -/
def maker : Member :=
  ⟨"__new__", .maker, some "($type, *args, **kwargs)",
    some "Create and return a new object.  See help(type) for accurate signature."⟩

/-- What is worked out from a value. -/
def computed (name : String) (doc : List String) : Member := ⟨name, .computed, none, lines doc⟩

/-- What is stored in a value. -/
def stored (name : String) : Member := ⟨name, .stored, none, none⟩

/-- A text, or null. -/
def constant (name : String) (text : Option String) : Member := ⟨name, .constant text, none, none⟩

end Cyclometry.Template
