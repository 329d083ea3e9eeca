import RingBus.Duration

/-!
# Trying again

How often something that may not exist yet is looked for, and how long to pause after each failed
attempt: the pause doubles from attempt to attempt and never exceeds one second.
-/

namespace RingBus

/-- A bounded schedule of attempts. -/
@[ext]
structure RetryPolicy where
  attempts : UInt32
  initial : Duration
  attempts_pos : 0 < attempts.toNat
  deriving DecidableEq, Repr

namespace RetryPolicy

def maxPause : Duration :=
  .ofSeconds 1

/-- A schedule of at least one attempt. -/
def make (attempts : UInt32) (initial : Duration) : RetryPolicy :=
  if h : 0 < attempts.toNat then ⟨attempts, initial, h⟩ else ⟨1, initial, by decide⟩

def once : RetryPolicy :=
  make 1 Duration.zero

/-- What is used where nothing else is said: 20 attempts, 100 milliseconds after the first. -/
def standard : RetryPolicy :=
  make 20 (Duration.ofMillis 100)

/-- The doublings after which the pause grows no further. -/
def maxDoublings : Nat := 16

/-- The pause after failed attempt number `n`, counted from zero. -/
def pause (policy : RetryPolicy) (n : Nat) : Duration :=
  (policy.initial.times (Nat.pow 2 (Nat.min n maxDoublings))).min maxPause

/-! ## Running a schedule -/

/-- What a schedule came to: the last answer, the pauses that were made on the way, and how many
attempts it took. -/
structure Run (ε α : Type) where
  answer : Except ε α
  pauses : List Duration
  attempts : Nat

/-- The same run with its error told in other words. -/
def Run.mapError {ε δ α : Type} (r : Run ε α) (f : ε → δ) : Run δ α :=
  ⟨r.answer.mapError f, r.pauses, r.attempts⟩

/-- Attempts number `n` and, as long as the answer is one worth waiting for, the `left` attempts
after it, with a pause in between. -/
def runFrom {ε α : Type} (policy : RetryPolicy) (attempt : Nat → Except ε α)
    (worthWaiting : ε → Bool) : Nat → Nat → Run ε α
  | 0, n => ⟨attempt n, [], 1⟩
  | left + 1, n =>
    match attempt n with
    | .ok a => ⟨.ok a, [], 1⟩
    | .error e =>
      if worthWaiting e then
        let later := runFrom policy attempt worthWaiting left (n + 1)
        ⟨later.answer, policy.pause n :: later.pauses, later.attempts + 1⟩
      else
        ⟨.error e, [], 1⟩

def run {ε α : Type} (policy : RetryPolicy) (attempt : Nat → Except ε α)
    (worthWaiting : ε → Bool) : Run ε α :=
  policy.runFrom attempt worthWaiting (policy.attempts.toNat - 1) 0

end RetryPolicy
end RingBus
