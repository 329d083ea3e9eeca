import RingBus.Text.Quoted

/-!
# Records spelled out

The long form of a value in a diagnostic: its name, and in braces its fields with their values.
-/

namespace RingBus
namespace Text

/-- A name followed by named fields, or the bare name if there are none. -/
def record (name : String) : List (String × String) → String
  | [] => name
  | fields =>
    name ++ " \x7b " ++ String.intercalate ", " (fields.map fun (field, value) =>
      field ++ ": " ++ value) ++ " \x7d"

/-- A name wrapped around one unnamed value. -/
def wrapped (name inner : String) : String :=
  name ++ "(" ++ inner ++ ")"

end Text
end RingBus
