import RingBus.Decimal.Reading
import RingBus.Decimal.Shortest
import RingBus.Endpoint
import RingBus.RingName

/-!
# Names in data documents

In a document a key, a ring name or an endpoint is a text and nothing else, and the text has to
follow the rules of its type.
-/

namespace RingBus
namespace Interchange

/-- A value of a document, as far as it matters here. -/
inductive Value
  | null
  | boolean (b : Bool)
  | integer (n : Int)
  | decimal (x : Float)
  | text (s : String)
  | sequence
  | map

/-- The value of a number. A whole number without a point and an exponent is kept as it is, if 64
bits can hold it: as a positive number, or with the sign of a negative one. A negative zero is not
whole. -/
def Value.ofNumber? (text : String) : Option Value := do
  let s ← Decimal.Spelling.ofChars? text.toList
  let n := Decimal.natOfDigits s.whole
  let isWhole := !text.toList.any fun c => c == '.' || c == 'e' || c == 'E'
  if isWhole && !s.negative && n < UInt64.size then
    return .integer n
  else if isWhole && s.negative && 0 < n && n ≤ Nat.pow 2 63 then
    return .integer (-(n : Int))
  else
    return .decimal (← s.quick?)

/-- What stands where a text was expected. -/
def Value.kind : Value → String
  | .null => "null"
  | .boolean b => s!"boolean `{b}`"
  | .integer n => s!"integer `{n}`"
  | .decimal x => s!"floating point `" ++ Decimal.write .mixed x ++ "`"
  | .text s => s!"string " ++ Text.quoted s
  | .sequence => "sequence"
  | .map => "map"

inductive Error
  | notText (found : Value)
  | field (e : FieldError)

def Error.message : Error → String
  | .notText found => s!"invalid type: {found.kind}, expected a string"
  | .field e => e.message

/-- Reads a text by the rules of a field. -/
def read {α : Type} (ofString : String → Except FieldError α) : Value → Except Error α
  | .text s => (ofString s).mapError .field
  | v => .error (.notText v)

end Interchange
end RingBus
