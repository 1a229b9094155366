import Cyclometry.Value

/-!
# Limits of messages

Not every value can be turned into text: an integer may have too many digits, and a value may be
nested too deep.
-/

namespace Cyclometry.Template

/-- Why a message cannot be made from a template and its arguments. -/
inductive Fault
  /-- The braces or the parts of a field are out of order. -/
  | malformed
  /-- A format specification is out of order, or does not go with the value. -/
  | badSpec
  /-- Numbered and unnumbered fields in one template. -/
  | mixedNumbering
  /-- A specification within a specification has one itself. -/
  | nestedTooDeep
  /-- There is no argument or item of this number. -/
  | noSuchIndex
  /-- There is no argument or member of this name. -/
  | noSuchKey (name : String)
  /-- A value has no such part. -/
  | noSuchPart
  /-- The value does not support the operation. -/
  | unsupported
  /-- The number is too large for the layout. -/
  | tooLarge
  /-- The message would not fit into memory. -/
  | tooLong
  /-- An integer has too many digits. -/
  | numeralTooLong
  /-- A value is nested too deep. -/
  | valueTooDeep
  deriving DecidableEq, Repr

/-- The digits of an integer can be written. -/
def checkDigits (n : Int) : Except Fault Unit :=
  if Decimal.isShort n then .ok () else .error .numeralTooLong

mutual

/-- The text of a value can be written, if there is room for so many values within values.  Parts
are written in their order, so the first one that cannot be is the one that counts. -/
def checkText : Nat → Value → Except Fault Unit
  | _, .int n => checkDigits n
  | 0, .list _ | 0, .set _ | 0, .map _ | 0, .pair _ _ => .error .valueTooDeep
  | room + 1, .list items => checkTexts room items
  | room + 1, .set members => checkTexts room members
  | room + 1, .map fields => checkFields room fields
  | room + 1, .pair a b => do
    checkText room a
    checkText room b
  | _, _ => .ok ()

/-- The texts of several values can be written. -/
def checkTexts : Nat → List Value → Except Fault Unit
  | _, [] => .ok ()
  | room, v :: rest => do
    checkText room v
    checkTexts room rest

/-- The texts of several keys and their values can be written. -/
def checkFields : Nat → List (Value × Value) → Except Fault Unit
  | _, [] => .ok ()
  | room, (k, v) :: rest => do
    checkText room k
    checkText room v
    checkFields room rest

end

/-- The number of values within values that there is room for. -/
def maxNesting : Nat := 985

/-- Whether there are limits to what can be turned into text. -/
inductive Limits
  | absent
  | present
  deriving DecidableEq, Repr

/-- The text of a value can be written within the limits. -/
def Limits.check : Limits → Value → Except Fault Unit
  | absent, _ => .ok ()
  | present, v => checkText maxNesting v

end Cyclometry.Template
