import Mathlib.Algebra.Group.Nat.Defs
import RingBus.Proofs.Durations
import RingBus.RetryPolicy

/-!
# Schedules

The pauses of a policy double until they reach a second. The policy stops counting doublings after
sixteen of them, which shows only if that many do not lead from the first pause to a second. A run
makes one attempt more than it waits, with one pause for each wait, and it waits as long as attempts
are left and fail with something worth waiting for.

* `RetryPolicy.pauses_double_iff`: when the limit on doublings cannot be noticed.
* `RetryPolicy.run_of_waits`: what a run comes to.
-/

namespace RingBus
namespace RetryPolicy

/-! ## Pauses -/

section

variable (policy : RetryPolicy)

theorem toNanos_maxPause : maxPause.toNanos = nanosPerSecond := by
  decide

/-- Whatever a multiplication cuts off is beyond the longest pause. -/
theorem toNanos_pause (n : Nat) :
    (policy.pause n).toNanos =
      min (2 ^ min n maxDoublings * policy.initial.toNanos) nanosPerSecond := by
  have reach : nanosPerSecond ≤ Duration.longest.toNanos := by decide
  have doublings : Nat.pow 2 (Nat.min n maxDoublings) = 2 ^ min n maxDoublings := rfl
  rw [pause, Duration.toNanos_min, Duration.toNanos_times, toNanos_maxPause, doublings,
    Nat.mul_comm, Nat.min_assoc, Nat.min_eq_right reach]

/-- No pause is longer than a second. -/
theorem toNanos_pause_le (n : Nat) : (policy.pause n).toNanos ≤ nanosPerSecond := by
  rw [toNanos_pause]
  exact Nat.min_le_right _ _

/-- Pauses never become shorter. -/
theorem toNanos_pause_mono {m n : Nat} (h : m ≤ n) :
    (policy.pause m).toNanos ≤ (policy.pause n).toNanos := by
  have doublings : min m maxDoublings ≤ min n maxDoublings := by omega
  have grown := Nat.mul_le_mul_right policy.initial.toNanos
    (Nat.pow_le_pow_right (by decide : 2 > 0) doublings)
  rw [toNanos_pause, toNanos_pause]
  omega

/-- The limit on doublings cannot be noticed just if there is nothing to double, or if all doublings
together reach a second. -/
theorem pauses_double_iff :
    (∀ n, (policy.pause n).toNanos = min (2 ^ n * policy.initial.toNanos) nanosPerSecond) ↔
      policy.initial.toNanos = 0 ∨
        nanosPerSecond ≤ 2 ^ maxDoublings * policy.initial.toNanos := by
  constructor
  · intro doubles
    rcases Nat.eq_zero_or_pos policy.initial.toNanos with nothing | something
    · exact .inl nothing
    · -- After thirty doublings there should be a second, whatever the first pause was.
      right
      have late := doubles 30
      rw [toNanos_pause] at late
      have second : nanosPerSecond ≤ 2 ^ 30 * policy.initial.toNanos :=
        Nat.le_trans (by decide) (Nat.le_mul_of_pos_right _ something)
      have limit : min 30 maxDoublings = maxDoublings := by decide
      rw [limit] at late
      omega
  · rintro (nothing | reached) n
    · rw [toNanos_pause, nothing, Nat.mul_zero, Nat.mul_zero]
    · rw [toNanos_pause]
      rcases Nat.le_total n maxDoublings with few | many
      · rw [Nat.min_eq_left few]
      · have more := Nat.mul_le_mul_right policy.initial.toNanos
          (Nat.pow_le_pow_right (by decide : 2 > 0) many)
        rw [Nat.min_eq_right many]
        omega

end

/-- From a nanosecond, sixteen doublings do not lead far. -/
example : ((make 20 ⟨0, 1, by decide⟩).pause 40).toNanos = 65536 := by decide

/-! ## Runs -/

section

variable {ε α : Type} {policy : RetryPolicy} {attempt : Nat → Except ε α}
  {worthWaiting : ε → Bool}

/-- Attempt number `n` fails with something worth waiting for. -/
def Waits (attempt : Nat → Except ε α) (worthWaiting : ε → Bool) (n : Nat) : Prop :=
  ∃ e, attempt n = .error e ∧ worthWaiting e = true

theorem runFrom_of_not_waits {left n : Nat} (ends : left = 0 ∨ ¬ Waits attempt worthWaiting n) :
    policy.runFrom attempt worthWaiting left n = ⟨attempt n, [], 1⟩ := by
  cases left with
  | zero => rfl
  | succ left =>
    have final : ¬ Waits attempt worthWaiting n := ends.resolve_left (Nat.succ_ne_zero left)
    rw [runFrom]
    cases answer : attempt n with
    | ok a => rfl
    | error e =>
      have useless : ¬ worthWaiting e = true := fun worth => final ⟨e, answer, worth⟩
      simp [useless]

theorem runFrom_succ_of_waits {left n : Nat} (waits : Waits attempt worthWaiting n) :
    policy.runFrom attempt worthWaiting (left + 1) n =
      ⟨(policy.runFrom attempt worthWaiting left (n + 1)).answer,
        policy.pause n :: (policy.runFrom attempt worthWaiting left (n + 1)).pauses,
        (policy.runFrom attempt worthWaiting left (n + 1)).attempts + 1⟩ := by
  obtain ⟨e, failed, worth⟩ := waits
  rw [runFrom, failed]
  simp [worth]

/-- A schedule goes on as long as it has to wait and attempts are left. -/
theorem runFrom_of_waits {k left n : Nat} (within : k ≤ left)
    (waits : ∀ i < k, Waits attempt worthWaiting (n + i))
    (ends : k = left ∨ ¬ Waits attempt worthWaiting (n + k)) :
    policy.runFrom attempt worthWaiting left n =
      ⟨attempt (n + k), (List.range' n k).map policy.pause, k + 1⟩ := by
  -- The induction is on the waits that are still to come, from any attempt on.
  induction k generalizing left n with
  | zero => exact runFrom_of_not_waits (ends.imp Eq.symm id)
  | succ k ih =>
    obtain ⟨left, rfl⟩ : ∃ rest, left = rest + 1 := ⟨left - 1, by omega⟩
    have shift : ∀ i, n + 1 + i = n + (i + 1) := fun i => by omega
    have first : Waits attempt worthWaiting n := waits 0 (Nat.succ_pos k)
    have later := ih (n := n + 1) (Nat.le_of_succ_le_succ within)
      (fun i hi => shift i ▸ waits (i + 1) (Nat.succ_lt_succ hi))
      (shift k ▸ ends.imp Nat.succ.inj id)
    rw [runFrom_succ_of_waits first, later, shift, List.range'_succ, List.map_cons]

/-- A run that waits `k` times makes the first `k` pauses, and one attempt more. -/
theorem run_of_waits {k : Nat} (within : k < policy.attempts.toNat)
    (waits : ∀ i < k, Waits attempt worthWaiting i)
    (ends : k + 1 = policy.attempts.toNat ∨ ¬ Waits attempt worthWaiting k) :
    policy.run attempt worthWaiting = ⟨attempt k, (List.range k).map policy.pause, k + 1⟩ := by
  have start : ∀ i, 0 + i = i := Nat.zero_add
  rw [run, runFrom_of_waits (Nat.le_sub_one_of_lt within) (fun i hi => (start i).symm ▸ waits i hi)
    ((start k).symm ▸ ends.imp (by omega) id), start, List.range_eq_range']

/-- A run that always waits takes all attempts, with all pauses in between. -/
theorem run_of_waits_throughout
    (waits : ∀ i < policy.attempts.toNat - 1, Waits attempt worthWaiting i) :
    policy.run attempt worthWaiting =
      ⟨attempt (policy.attempts.toNat - 1),
        (List.range (policy.attempts.toNat - 1)).map policy.pause, policy.attempts.toNat⟩ := by
  have whole : policy.attempts.toNat - 1 + 1 = policy.attempts.toNat :=
    Nat.sub_add_cancel policy.attempts_pos
  rw [run_of_waits (Nat.sub_one_lt_of_lt policy.attempts_pos) waits (.inl whole), whole]

/-- When nothing changes between the attempts, the last answer is the first one. -/
theorem answer_run_const (policy : RetryPolicy) (answer : Except ε α) (worthWaiting : ε → Bool) :
    (policy.run (fun _ => answer) worthWaiting).answer = answer := by
  by_cases waits : Waits (fun _ => answer) worthWaiting 0
  · rw [run_of_waits_throughout fun _ _ => waits]
  · rw [run_of_waits policy.attempts_pos (fun i early => absurd early (Nat.not_lt_zero i))
      (.inr waits)]

end

end RetryPolicy
end RingBus
