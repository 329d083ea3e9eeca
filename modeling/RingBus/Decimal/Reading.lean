/-!
# Reading decimal numbers

A sign, digits with at most one point among them, and an exponent. There are two ways to make a
double of it. The faithful one takes the nearest. The quick one keeps as many digits as fit into 64
bits and scales them by a power of ten, and rounds at each of the two steps.
-/

namespace RingBus
namespace Decimal

/-! ## Spellings -/

def natOfDigits (digits : List Char) : Nat :=
  digits.foldl (fun n d => n * 10 + (d.toNat - 0x30)) 0

structure Spelling where
  negative : Bool
  /-- The digits in front of the point. -/
  whole : List Char
  /-- The digits behind the point. -/
  fraction : List Char
  /-- The exponent, if one is written. -/
  exponent : Option Int
  deriving DecidableEq, Repr

def exponent? : List Char → Option Int
  | '-' :: digits => if digits = [] ∨ !digits.all Char.isDigit then none else
      some (-(natOfDigits digits : Int))
  | '+' :: digits => if digits = [] ∨ !digits.all Char.isDigit then none else
      some (natOfDigits digits)
  | digits => if digits = [] ∨ !digits.all Char.isDigit then none else some (natOfDigits digits)

namespace Spelling

/-- Takes a number without a sign apart. There is a digit on one side of the point at least. -/
def ofMagnitude? (negative : Bool) (text : List Char) : Option Spelling := do
  let whole := text.takeWhile Char.isDigit
  let rest := text.dropWhile Char.isDigit
  let fraction := match rest with
    | '.' :: rest => rest.takeWhile Char.isDigit
    | _ => []
  let rest := match rest with
    | '.' :: rest => rest.dropWhile Char.isDigit
    | rest => rest
  if whole ++ fraction = [] then none
  match rest with
  | [] => return ⟨negative, whole, fraction, none⟩
  | mark :: rest =>
    if mark = 'e' ∨ mark = 'E' then return ⟨negative, whole, fraction, some (← exponent? rest)⟩
    else none

def ofChars? : List Char → Option Spelling
  | '-' :: text => ofMagnitude? true text
  | '+' :: text => ofMagnitude? false text
  | text => ofMagnitude? false text

def signed (s : Spelling) (magnitude : Float) : Float :=
  if s.negative then -magnitude else magnitude

end Spelling

/-! ## The nearest double -/

/-- The double nearest to `mantissa * 10 ^ exponent`, where the mantissa has so many digits from the
first that is not zero. A number that no double comes near is infinite or zero. -/
def nearest (mantissa : Nat) (digitCount : Nat) (exponent : Int) : Float :=
  if mantissa = 0 then 0.0
  else if 400 < exponent + digitCount then 1.0 / 0.0
  else if exponent + digitCount < -400 then 0.0
  else Float.ofScientific mantissa (decide (exponent < 0)) exponent.natAbs

def read? (text : List Char) : Option Float := do
  let s ← Spelling.ofChars? text
  let digits := (s.whole ++ s.fraction).dropWhile (· == '0')
  let exponent := s.exponent.getD 0 - (s.fraction.length : Int)
  return s.signed (nearest (natOfDigits digits) digits.length exponent)

/-! ## Two roundings -/

/-- Puts digits behind a number as long as it stays below `2 ^ 64`. Gives the number, and how many
digits are left over. -/
def appendDigits : Nat → List Char → Nat × Nat
  | n, [] => (n, 0)
  | n, d :: digits =>
    let next := n * 10 + (d.toNat - 0x30)
    if next < UInt64.size then appendDigits next digits else (n, digits.length + 1)

/-- The greatest power of ten that a double is scaled by at once. -/
def greatestScale : Nat := 308

def powerOfTen (n : Nat) : Float :=
  Float.ofScientific 1 false n

/-- Divides by a power of ten, in several steps if it is a great one. Every double is zero after
three great steps, so more fuel than that changes nothing. -/
def divideByPower : Nat → Float → Nat → Float
  | 0, _, _ => 0.0
  | fuel + 1, x, n =>
    if n ≤ greatestScale then x / powerOfTen n
    else divideByPower fuel (x / powerOfTen greatestScale) (n - greatestScale)

/-- Multiplies by a power of ten, if a double can hold the result. -/
def multiplyByPower? (x : Float) (n : Nat) : Option Float :=
  if x == 0.0 then some 0.0
  else if greatestScale < n then none
  else some (x * powerOfTen n) |>.filter Float.isFinite

/-- The double of a spelling by two roundings, if it is finite. Digits in front of the point that
do not fit count as zeros, and those behind it as nothing. -/
def Spelling.quick? (s : Spelling) : Option Float :=
  let (n, wholeLeft) := appendDigits 0 s.whole
  let (n, fractionLeft) := appendDigits n s.fraction
  let taken := s.fraction.length - fractionLeft
  let exponent := s.exponent.getD 0 + (wholeLeft : Int) - (taken : Int)
  let x := Float.ofScientific n false 0
  let scaled :=
    if 0 ≤ exponent then multiplyByPower? x exponent.toNat
    else some (divideByPower 4 x exponent.natAbs)
  scaled.map s.signed

end Decimal
end RingBus
