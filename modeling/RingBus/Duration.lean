/-!
# Spans of time

A span is a number of whole seconds in 64 bits and a fraction in nanoseconds below one second.
Arithmetic that would leave the range stops at the longest span.
-/

namespace RingBus

def nanosPerSecond : Nat := 1000000000

@[ext]
structure Duration where
  seconds : UInt64
  nanos : UInt32
  nanos_lt : nanos.toNat < nanosPerSecond
  deriving DecidableEq, Repr

namespace Duration

def toNanos (d : Duration) : Nat :=
  d.seconds.toNat * nanosPerSecond + d.nanos.toNat

/-- The span of this many nanoseconds, if its seconds fit in 64 bits. -/
def ofNanos? (n : Nat) : Option Duration :=
  if n / nanosPerSecond < UInt64.size then
    some ⟨UInt64.ofNat (n / nanosPerSecond), UInt32.ofNat (n % nanosPerSecond), by
      have h : n % nanosPerSecond < nanosPerSecond := Nat.mod_lt _ (by decide)
      have small : n % nanosPerSecond < 2 ^ 32 :=
        Nat.lt_trans h (by decide)
      rw [UInt32.toNat_ofNat', Nat.mod_eq_of_lt small]; exact h⟩
  else
    none

def longest : Duration :=
  ⟨UInt64.ofNat (UInt64.size - 1), 999999999, by decide⟩

def ofSeconds (n : UInt64) : Duration :=
  ⟨n, 0, by decide⟩

def zero : Duration :=
  ofSeconds 0

/-- The span of this many milliseconds, at most the longest span. -/
def ofMillis (n : Nat) : Duration :=
  (ofNanos? (n * 1000000)).getD longest

/-- `k` times a span, at most the longest span. The fraction is multiplied first and carries its
whole seconds over. -/
def times (d : Duration) (k : Nat) : Duration :=
  let fraction := d.nanos.toNat * k
  let seconds := d.seconds.toNat * k + fraction / nanosPerSecond
  (ofNanos? (seconds * nanosPerSecond + fraction % nanosPerSecond)).getD longest

def min (a b : Duration) : Duration :=
  if a.toNanos ≤ b.toNanos then a else b

end Duration
end RingBus
