import RingBus.Decimal.Reading
import RingBus.Yaml.Node
import RingBus.Yaml.Token.Scalar

/-!
# What scalars mean

A plain scalar may write nothing at all, a truth value, a whole number, a decimal number or else a
text. Which one is told by its spelling, in this order. A tag may say what a scalar has to be.
-/

namespace RingBus
namespace Yaml

/-- What a scalar means. -/
inductive Value
  | null
  | boolean (b : Bool)
  | integer (n : Int)
  | decimal (x : Float)
  | text (s : String)

/-- What a tag asks of a scalar. -/
inductive Expectation
  | boolean
  | integer
  | decimal
  | null
  deriving DecidableEq, Repr

namespace Expectation

/-- The tag that asks for it. -/
def tag : Expectation → String
  | .boolean => "tag:yaml.org,2002:bool"
  | .integer => "tag:yaml.org,2002:int"
  | .decimal => "tag:yaml.org,2002:float"
  | .null => "tag:yaml.org,2002:null"

/-- What a tag asks for, if it is one of these. -/
def ofTag? (tag : String) : Option Expectation :=
  [boolean, integer, decimal, null].find? fun e => e.tag == tag

end Expectation

/-! ## Spellings -/

def boolean? (s : String) : Option Bool :=
  if ["true", "True", "TRUE"].contains s then some true
  else if ["false", "False", "FALSE"].contains s then some false
  else none

/-- Whether a scalar writes nothing. -/
def isNull (s : String) : Bool :=
  ["null", "Null", "NULL", "~"].contains s

/-- The digit's value in a base up to sixteen. -/
def digitValue? (base : Nat) (c : Char) : Option Nat :=
  (hexValue? c).filter (· < base)

/-- The number that one or more digits write in a base up to sixteen. -/
def digits? (base : Nat) (digits : List Char) : Option Nat :=
  if digits = [] then none
  else digits.foldlM (fun n d => (digitValue? base d).map (n * base + ·)) 0

/-- The digits of a number that is not decimal, with their base. -/
def marked? : List Char → Option (Nat × List Char)
  | '0' :: 'x' :: digits => some (16, digits)
  | '0' :: 'o' :: digits => some (8, digits)
  | '0' :: 'b' :: digits => some (2, digits)
  | _ => none

/-- Whether a row of digits begins with a zero it does not need. It is a text then. -/
def hasLeadingZero (digits : List Char) : Bool :=
  decide (1 < digits.length) && digits.head? == some '0' && digits.all Char.isDigit

/-- The digits of a number without its plus sign. -/
def unsigned : List Char → List Char
  | '+' :: digits => digits
  | digits => digits

/-- The number that digits write, in the base that they are marked with. -/
def magnitude? (digits : List Char) : Option Nat :=
  match marked? digits with
  | some (base, digits) => digits? base digits
  | none => if hasLeadingZero digits then none else digits? 10 digits

/-- Reads a number with no minus sign. -/
def natural? (s : String) : Option Nat :=
  magnitude? (unsigned s.toList)

/-- Reads a number with a minus sign. -/
def negative? (s : String) : Option Int :=
  match s.toList with
  | '-' :: digits => (magnitude? digits).map fun n => -(n : Int)
  | _ => none

/-- Reads a whole number of at most 128 bits. -/
def integer? (s : String) : Option Int :=
  match natural? s with
  | some n => if n < Nat.pow 2 128 then some n else none
  | none => (negative? s).filter fun n => decide (-Int.ofNat (Nat.pow 2 127) ≤ n)

/-- Reads a decimal number. It is infinite only where it says so. -/
def decimal? (s : String) : Option Float :=
  let positive := unsigned s.toList
  if s.toList ≠ positive ∧ (positive.head? = some '+' ∨ positive.head? = some '-') then none
  else if [".inf", ".Inf", ".INF"].contains (String.ofList positive) then some (1.0 / 0.0)
  else if ["-.inf", "-.Inf", "-.INF"].contains s then some (-1.0 / 0.0)
  else if [".nan", ".NaN", ".NAN"].contains s then some (0.0 / 0.0)
  else (Decimal.read? positive).filter Float.isFinite

/-! ## Meanings -/

/-- What a plain scalar means. -/
def Value.ofPlain (s : String) : Value :=
  if s = "" ∨ isNull s then .null
  else match boolean? s, integer? s with
    | some b, _ => .boolean b
    | none, some n => .integer n
    | none, none =>
      let digits := match s.toList with
        | '-' :: digits => digits
        | digits => unsigned digits
      match if hasLeadingZero digits then none else decimal? s with
      | some x => .decimal x
      | none => .text s

/-- What a scalar means whose tag asks for something, if it is that. -/
def Value.asExpected? (s : String) : Expectation → Option Value
  | .boolean => (boolean? s).map .boolean
  | .integer => (integer? s).map .integer
  | .decimal => (decimal? s).map .decimal
  | .null => if isNull s then some .null else none

/-- What a scalar means, or what its tag asks for in vain. A tag of its own does not change what a
plain scalar means. -/
def Value.ofScalar (tag : Option String) (s : String) (style : Style) :
    Except Expectation Value :=
  match tag.bind Expectation.ofTag? with
  | some expected =>
    match asExpected? s expected with
    | some v => .ok v
    | none => .error expected
  | none =>
    let own := tag.all fun tag => tag.toList.head? == some '!'
    .ok (if own && style == .plain then ofPlain s else .text s)

end Yaml
end RingBus
