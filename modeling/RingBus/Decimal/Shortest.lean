/-!
# The fewest digits that read back

A binary floating point number stands for every real number that rounds to it. Its shortest
decimal form is the one with the fewest digits among those; of several the nearest is taken. Where
two are equally near, it is a matter of style. All of it is exact arithmetic on natural numbers.
-/

namespace RingBus
namespace Decimal

/-- A decimal number `digits * 10 ^ exponent`. -/
structure Scaled where
  digits : Nat
  exponent : Int
  deriving DecidableEq, Repr

/-- A finite positive double: `mantissa * 2 ^ exponent`. -/
structure Binary where
  mantissa : Nat
  exponent : Int
  deriving DecidableEq, Repr

def minExponent : Int := -1074

/-- The mantissa from which on a double is normal. -/
def normalMantissa : Nat := Nat.pow 2 52

/-- Takes the bits of a finite double apart, sign aside. -/
def Binary.ofBits (bits : Nat) : Binary :=
  let fraction := bits % normalMantissa
  let biased := bits / normalMantissa % Nat.pow 2 11
  if biased = 0 then ⟨fraction, minExponent⟩
  else ⟨normalMantissa + fraction, Int.ofNat biased - 1075⟩

/-- Compares `a * 10 ^ p` with `b * 2 ^ q`. -/
def compareScaled (a : Nat) (p : Int) (b : Nat) (q : Int) : Ordering :=
  let left := a * Nat.pow 10 p.toNat * Nat.pow 2 (-q).toNat
  let right := b * Nat.pow 2 q.toNat * Nat.pow 10 (-p).toNat
  compare left right

/-- Whether the decimal number rounds to the double. The quarter units of the last binary place
are counted; below a power of two the neighbour is only half as far, and the ends belong to an
even mantissa. -/
def readsBack (x : Binary) (d : Scaled) : Bool :=
  let q := x.exponent - 2
  let low := 4 * x.mantissa -
    (if x.mantissa = normalMantissa && x.exponent > minExponent then 1 else 2)
  let high := 4 * x.mantissa + 2
  let inclusive := x.mantissa % 2 = 0
  let aboveLow := compareScaled d.digits d.exponent low q
  let belowHigh := compareScaled d.digits d.exponent high q
  (aboveLow == .gt || (inclusive && aboveLow == .eq)) &&
    (belowHigh == .lt || (inclusive && belowHigh == .eq))

/-- The whole number of steps of `10 ^ e` in the double. -/
def floorSteps (x : Binary) (e : Int) : Nat :=
  (x.mantissa * Nat.pow 2 x.exponent.toNat * Nat.pow 10 (-e).toNat) /
    (Nat.pow 2 (-x.exponent).toNat * Nat.pow 10 e.toNat)

/-- Which of two decimal numbers is taken if both are equally near. -/
inductive Tie
  /-- The greater one. -/
  | up
  /-- The one whose last digit is even. -/
  | even
  deriving DecidableEq, Repr

/-- Whether step `n` of `10 ^ e` is taken, and not the step after it. -/
def takesBelow (tie : Tie) (x : Binary) (n : Nat) (e : Int) : Bool :=
  match compareScaled (2 * n + 1) e (2 * x.mantissa) x.exponent with
  | .gt => true
  | .lt => false
  | .eq => tie == .even && n % 2 == 0

/-- The exponent of the leading decimal digit, searched downwards. -/
def leadingExponent (x : Binary) : Nat → Int → Int
  | 0, e => e
  | fuel + 1, e => if 0 < floorSteps x e then e else leadingExponent x fuel (e - 1)

/-- Tries grids of one digit more each time. -/
def onGrid (tie : Tie) (x : Binary) (lead : Int) : Nat → Nat → Scaled
  | 0, n => ⟨floorSteps x (lead - n), lead - n⟩
  | fuel + 1, n =>
    let e := lead - n
    let below : Scaled := ⟨floorSteps x e, e⟩
    let above : Scaled := ⟨below.digits + 1, e⟩
    match readsBack x below, readsBack x above with
    | true, true => if takesBelow tie x below.digits e then below else above
    | true, false => below
    | false, true => above
    | false, false => onGrid tie x lead fuel (n + 1)

/-- The same number without zeros at the end of its digits. -/
def stripZeros : Nat → Scaled → Scaled
  | 0, d => d
  | fuel + 1, d =>
    if d.digits ≠ 0 ∧ d.digits % 10 = 0 then stripZeros fuel ⟨d.digits / 10, d.exponent + 1⟩ else d

/-- The shortest decimal form of a positive double. -/
def shortest (tie : Tie) (x : Binary) : Scaled :=
  stripZeros 400 (onGrid tie x (leadingExponent x 640 310) 17 0)

/-! ## Writing it down -/

/-- How doubles are written: what becomes of ties, and where notation with an exponent takes over
from plain digits. -/
structure Style where
  tie : Tie
  /-- Whether there ever is an exponent. -/
  exponents : Bool
  /-- The most digits in front of the point. -/
  maxWhole : Int
  /-- The most zeros right behind the point. -/
  maxZeros : Int
  deriving DecidableEq, Repr

/-- Plain digits, however many it takes. Ties go up. -/
def Style.plain : Style := ⟨.up, false, 0, 0⟩

/-- Plain digits from `0.00001` to below `10000000000000000`, an exponent beyond. Ties go to the
even digit. -/
def Style.mixed : Style := ⟨.even, true, 16, 4⟩

/-- Plain digits with a point; a whole number ends in `.0`. -/
def writePlain (d : Scaled) : String :=
  let digits := Nat.toDigits 10 d.digits
  let point := (digits.length : Int) + d.exponent
  if 0 ≤ d.exponent then
    String.ofList (digits ++ List.replicate d.exponent.toNat '0' ++ ['.', '0'])
  else if 0 < point then
    String.ofList (digits.take point.toNat ++ '.' :: digits.drop point.toNat)
  else
    String.ofList ('0' :: '.' :: (List.replicate (-point).toNat '0' ++ digits))

/-- One digit in front of the point, and an exponent, which always has a sign. -/
def writeExponent (d : Scaled) : String :=
  let digits := Nat.toDigits 10 d.digits
  let n := (digits.length : Int) + d.exponent - 1
  let e := (if 0 ≤ n then "+" else "") ++ toString n
  match digits with
  | [only] => String.ofList [only, 'e'] ++ e
  | first :: rest => String.ofList (first :: '.' :: rest) ++ "e" ++ e
  | [] => ""

/-- A double in the fewest digits that read back. -/
def write (style : Style) (x : Float) : String :=
  let bits := x.toBits.toNat
  let signBit := Nat.pow 2 63
  let sign := if bits / signBit % 2 = 1 then "-" else ""
  let magnitude := bits % signBit
  if magnitude / normalMantissa = 0x7FF then
    if magnitude % normalMantissa = 0 then sign ++ "inf" else "NaN"
  else if magnitude = 0 then sign ++ "0.0"
  else
    let d := shortest style.tie (Binary.ofBits magnitude)
    let point := ((Nat.toDigits 10 d.digits).length : Int) + d.exponent
    let plain := !style.exponents || (-style.maxZeros ≤ point && point ≤ style.maxWhole)
    sign ++ (if plain then writePlain d else writeExponent d)

end Decimal
end RingBus
