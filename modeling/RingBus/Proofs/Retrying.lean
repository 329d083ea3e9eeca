import RingBus.Proofs.Config.Loading
import RingBus.Proofs.Schedules
import RingBus.Proofs.SemaphoreNames

/-!
# Waiting for a name

The first pause of a configuration is a millisecond at least, so its pauses double until they reach
a second, and nothing else limits them. A search for a name makes all attempts of its policy if the
name stays away, and ends with the first attempt that meets it otherwise.

* `RetryPolicy.configured_iff`: the policies that configurations hold.
* `Semaphore.openPatiently_of_missing`: how a search ends that finds nothing.
-/

namespace RingBus

namespace RetryPolicy

/-! ## Policies of configurations -/

/-- A policy that some configuration holds. -/
def Configured (policy : RetryPolicy) : Prop :=
  ∃ (s : Settings) (config : Config), Config.ofSettings s = .ok config ∧ config.retry = policy

/-- A configured schedule begins with one millisecond to ten seconds. -/
theorem configured_iff {policy : RetryPolicy} :
    policy.Configured ↔
      ∃ millis, (1 ≤ millis ∧ millis ≤ 10000) ∧ policy.initial.toNanos = millis * 1000000 := by
  constructor
  · rintro ⟨s, config, made, rfl⟩
    have usable := Config.exists_ofSettings_iff.1 ⟨config, made⟩
    exact ⟨_, usable.openBackoffMillis, (Config.holds_of_ofSettings made).openBackoffMillis⟩
  · rintro ⟨millis, bounds, first⟩
    let s : Settings :=
      { openAttempts := policy.attempts, openBackoffMillis := UInt64.ofNat millis }
    have spelled : s.openBackoffMillis.toNat = millis :=
      UInt64.toNat_ofNat_of_lt' (Nat.lt_of_le_of_lt bounds.2 (by decide))
    have usable : s.Usable :=
      { Config.usable_default with
        openAttempts := ⟨policy.attempts_pos, Nat.le_of_lt_succ policy.attempts.toNat_lt⟩
        openBackoffMillis := spelled.symm ▸ bounds }
    obtain ⟨config, made⟩ := Config.exists_ofSettings_iff.2 usable
    have holds := Config.holds_of_ofSettings made
    -- A policy is its number of attempts and its first pause, and a pause is its length.
    have attempts : config.retry.attempts = policy.attempts := holds.openAttempts
    have initial : config.retry.initial = policy.initial := by
      rw [← Duration.toNanos_inj, holds.openBackoffMillis, spelled, first]
    exact ⟨s, config, made, RetryPolicy.ext attempts initial⟩

/-- No first pause of a configuration is so short that sixteen doublings would not do. -/
theorem Configured.reaches {policy : RetryPolicy} (configured : policy.Configured) :
    nanosPerSecond ≤ 2 ^ maxDoublings * policy.initial.toNanos := by
  obtain ⟨millis, ⟨positive, -⟩, first⟩ := configured_iff.1 configured
  have shortest : nanosPerSecond ≤ 2 ^ maxDoublings * 1000000 := by decide
  have reached := Nat.mul_le_mul_left (2 ^ maxDoublings) (Nat.mul_le_mul_right 1000000 positive)
  rw [Nat.one_mul] at reached
  rw [first]
  exact shortest.trans reached

end RetryPolicy

namespace Semaphore

/-! ## Searching for a name -/

section

variable {name : String} {policy : RetryPolicy} {all : Nat → Shared}

theorem find_of_missing {all : Shared} (acceptable : Acceptable name)
    (missing : all.named (file name) = none) : find name all = .error (.kernel .noEntry) := by
  rw [find, checkName_eq_ok_iff_acceptable.2 acceptable]
  simp only [missing]

theorem find_of_named {all : Shared} {id : Nat} (acceptable : Acceptable name)
    (named : all.named (file name) = some id) : find name all = .ok ⟨name, id⟩ := by
  rw [find, checkName_eq_ok_iff_acceptable.2 acceptable]
  simp only [named]

theorem waits_of_missing {i : Nat} (acceptable : Acceptable name)
    (missing : (all i).named (file name) = none) :
    RetryPolicy.Waits (fun n => find name (all n)) mayAppear i :=
  ⟨_, find_of_missing acceptable missing, rfl⟩

/-- Opening is finding, with the error told in other words. -/
theorem openPatiently_of_acceptable (acceptable : Acceptable name) :
    openPatiently name policy all =
      (findPatiently name policy all).mapError (.openFailed name policy.attempts.toNat) := by
  rw [openPatiently, nulPosition?_eq_none_iff.2 acceptable.plain]

/-- A name that does not appear is looked up as often as the policy says, with every pause in
between. -/
theorem openPatiently_of_missing (acceptable : Acceptable name)
    (missing : ∀ i < policy.attempts.toNat, (all i).named (file name) = none) :
    openPatiently name policy all =
      ⟨.error (.openFailed name policy.attempts.toNat (.kernel .noEntry)),
        (List.range (policy.attempts.toNat - 1)).map policy.pause, policy.attempts.toNat⟩ := by
  have last : policy.attempts.toNat - 1 < policy.attempts.toNat :=
    Nat.sub_one_lt_of_lt policy.attempts_pos
  rw [openPatiently_of_acceptable acceptable, findPatiently,
    RetryPolicy.run_of_waits_throughout fun i early =>
      waits_of_missing acceptable (missing i (early.trans last)),
    find_of_missing acceptable (missing _ last)]
  rfl

/-- A name that appears in time is found by the first attempt after that. -/
theorem openPatiently_of_appearing {k id : Nat} (acceptable : Acceptable name)
    (within : k < policy.attempts.toNat) (missing : ∀ i < k, (all i).named (file name) = none)
    (named : (all k).named (file name) = some id) :
    openPatiently name policy all =
      ⟨.ok ⟨name, id⟩, (List.range k).map policy.pause, k + 1⟩ := by
  have found := find_of_named acceptable named
  have final : ¬ RetryPolicy.Waits (fun n => find name (all n)) mayAppear k := by
    rintro ⟨e, failed, -⟩
    cases found.symm.trans failed
  rw [openPatiently_of_acceptable acceptable, findPatiently,
    RetryPolicy.run_of_waits within (fun i hi => waits_of_missing acceptable (missing i hi))
      (.inr final), found]
  rfl

end

end Semaphore

namespace RetryPolicy

/-- Configurations hold just the policies with a first pause of 1 to 10000 milliseconds, and their
pauses double without any limit but the second. No policy makes its pauses shorter again, or longer
than a second. A search for a name that stays away takes all attempts of its policy and all pauses
between them, and one for a name that appears in time ends with the attempt that meets it. -/
theorem keeps_doubling_schedule :
    (∀ policy : RetryPolicy,
      (policy.Configured ↔
        ∃ millis, (1 ≤ millis ∧ millis ≤ 10000) ∧
          policy.initial.toNanos = millis * 1000000) ∧
      (policy.Configured → ∀ n,
        (policy.pause n).toNanos = min (2 ^ n * policy.initial.toNanos) nanosPerSecond)) ∧
    (∀ policy : RetryPolicy,
      (∀ m n, m ≤ n → (policy.pause m).toNanos ≤ (policy.pause n).toNanos) ∧
      ∀ n, (policy.pause n).toNanos ≤ nanosPerSecond) ∧
    ∀ policy name all, Semaphore.Acceptable name →
      ((∀ i < policy.attempts.toNat, (all i).named (Semaphore.file name) = none) →
        Semaphore.openPatiently name policy all =
          ⟨.error (.openFailed name policy.attempts.toNat (.kernel .noEntry)),
            (List.range (policy.attempts.toNat - 1)).map policy.pause,
            policy.attempts.toNat⟩) ∧
      ∀ k id, k < policy.attempts.toNat →
        (∀ i < k, (all i).named (Semaphore.file name) = none) →
        (all k).named (Semaphore.file name) = some id →
          Semaphore.openPatiently name policy all =
            ⟨.ok ⟨name, id⟩, (List.range k).map policy.pause, k + 1⟩ := by
  refine ⟨fun policy => ⟨configured_iff, fun configured => ?_⟩, fun policy => ⟨?_, ?_⟩, ?_⟩
  · exact policy.pauses_double_iff.2 (.inr configured.reaches)
  · exact fun m n h => policy.toNanos_pause_mono h
  · exact policy.toNanos_pause_le
  · intro policy name all acceptable
    exact ⟨Semaphore.openPatiently_of_missing acceptable,
      fun k id => Semaphore.openPatiently_of_appearing acceptable⟩

namespace Sample

/-- Three attempts, with a tenth of a second after the first. -/
def thrice : RetryPolicy :=
  ⟨3, .ofMillis 100, by decide⟩

/-- The shared files, where a semaphore is created between the first attempt and the second. -/
def late : Nat → Shared
  | 0 => .empty
  | _ + 1 => Catalog.insert .empty "sem.late" (Semaphore.image 1)

end Sample

theorem keeps_doubling_schedule_late :
    Sample.thrice.Configured ∧
      (Sample.thrice.pause 3).toNanos = 800000000 ∧
      (Sample.thrice.pause 40).toNanos = 1000000000 ∧
      Semaphore.openPatiently "/gone" Sample.thrice Sample.late =
        ⟨.error (.openFailed "/gone" 3 (.kernel .noEntry)), [.ofMillis 100, .ofMillis 200], 3⟩ ∧
      Semaphore.openPatiently "/late" Sample.thrice Sample.late =
        ⟨.ok ⟨"/late", 0⟩, [.ofMillis 100], 2⟩ := by
  obtain ⟨hConfigured, -, hSearch⟩ := keeps_doubling_schedule
  obtain ⟨hPolicy, hDoubles⟩ := hConfigured Sample.thrice
  have configured : Sample.thrice.Configured := hPolicy.2 ⟨100, by decide, by decide⟩
  have gone : Semaphore.Acceptable "/gone" := ⟨by decide, by decide, by decide, by decide⟩
  have late : Semaphore.Acceptable "/late" := ⟨by decide, by decide, by decide, by decide⟩
  refine ⟨configured, ?_, ?_, ?_, ?_⟩
  · rw [hDoubles configured]
    decide
  · rw [hDoubles configured]
    decide
  · have missing : ∀ i < 3, (Sample.late i).named (Semaphore.file "/gone") = none := by decide
    have pauses : (List.range 2).map Sample.thrice.pause = [.ofMillis 100, .ofMillis 200] := by
      decide
    exact pauses ▸ (hSearch Sample.thrice "/gone" Sample.late gone).1 missing
  · have missing : ∀ i < 1, (Sample.late i).named (Semaphore.file "/late") = none := by decide
    have named : (Sample.late 1).named (Semaphore.file "/late") = some 0 := by decide
    have pauses : (List.range 1).map Sample.thrice.pause = [.ofMillis 100] := by decide
    exact pauses ▸ (hSearch Sample.thrice "/late" Sample.late late).2 1 0 (by decide) missing named

end RetryPolicy

end RingBus
