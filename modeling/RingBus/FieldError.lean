import RingBus.Text.Record

/-!
# Unusable values

A value that cannot be used where it was given: a text that breaks the rules of its field, or a
number outside the bounds of its field.
-/

namespace RingBus

/-- Why a value was turned down. -/
inductive FieldError
  | invalid (field value reason : String)
  | outOfBounds (field : String) (value min max : Nat)
  deriving DecidableEq, Repr

namespace FieldError

def message : FieldError → String
  | .invalid field value reason => s!"Invalid field value: {field} = {value} - {reason}"
  | .outOfBounds field value min max =>
    s!"Value out of bounds: {field} = {value} (min: {min}, max: {max})"

def spelledOut : FieldError → String
  | .invalid field value reason =>
    Text.record "InvalidFieldValue"
      [("field", Text.quoted field), ("value", Text.quoted value), ("reason", Text.quoted reason)]
  | .outOfBounds field value min max =>
    Text.record "OutOfBounds"
      [("field", Text.quoted field), ("value", toString value), ("min", toString min),
       ("max", toString max)]

end FieldError
end RingBus
