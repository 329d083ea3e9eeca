import RingBus.Duration

/-!
# Lengths of spans

A span is told from its length in nanoseconds, and in nanoseconds the arithmetic of spans is exact:
whatever is carried from fractions to seconds, only what exceeds the longest span is cut off.
-/

namespace RingBus
namespace Duration

theorem toNanos_of_ofNanos? {n : Nat} {d : Duration} (h : ofNanos? n = some d) :
    d.toNanos = n := by
  unfold ofNanos? at h
  split at h
  · next fits =>
    cases h
    have below : n % nanosPerSecond < 2 ^ 32 :=
      Nat.lt_trans (Nat.mod_lt _ (by decide)) (by decide : nanosPerSecond < 2 ^ 32)
    rw [toNanos, UInt64.toNat_ofNat', UInt32.toNat_ofNat', Nat.mod_eq_of_lt fits,
      Nat.mod_eq_of_lt below, Nat.div_add_mod']
  · cases h

/-- A span is known by its length. -/
theorem toNanos_inj {d d' : Duration} : d.toNanos = d'.toNanos ↔ d = d' := by
  constructor
  · intro h
    have fraction := d.nanos_lt
    have fraction' := d'.nanos_lt
    simp only [toNanos, nanosPerSecond] at h fraction fraction'
    have seconds : d.seconds.toNat = d'.seconds.toNat := by omega
    have nanos : d.nanos.toNat = d'.nanos.toNat := by omega
    exact Duration.ext (UInt64.toNat_inj.1 seconds) (UInt32.toNat_inj.1 nanos)
  · rintro rfl
    rfl

/-! ## Cutting off -/

theorem toNanos_longest : longest.toNanos = UInt64.size * nanosPerSecond - 1 := by
  decide

/-- The seconds fit just as far as the longest span reaches. -/
theorem fits_iff {n : Nat} : n / nanosPerSecond < UInt64.size ↔ n ≤ longest.toNanos := by
  rw [Nat.div_lt_iff_lt_mul (by decide), toNanos_longest]
  exact Nat.lt_iff_le_pred (by decide)

/-- A length is exact up to the longest span. -/
theorem toNanos_getD_longest (n : Nat) :
    ((ofNanos? n).getD longest).toNanos = Min.min n longest.toNanos := by
  by_cases within : n ≤ longest.toNanos
  · obtain ⟨d, span⟩ : ∃ d, ofNanos? n = some d := by
      simp [ofNanos?, fits_iff.2 within]
    rw [span, Option.getD_some, toNanos_of_ofNanos? span, Nat.min_eq_left within]
  · have span : ofNanos? n = none := dif_neg (mt fits_iff.1 within)
    rw [span, Option.getD_none, Nat.min_eq_right (Nat.le_of_not_le within)]

/-- Up to ten seconds, milliseconds make no span too long. -/
theorem toNanos_ofMillis {n : Nat} (short : n ≤ 10000) :
    (ofMillis n).toNanos = n * 1000000 := by
  have within : n * 1000000 ≤ longest.toNanos :=
    Nat.le_trans (Nat.mul_le_mul_right _ short) (by decide)
  rw [ofMillis, toNanos_getD_longest, Nat.min_eq_left within]

/-! ## Arithmetic -/

/-- Nothing is lost when the fraction carries its whole seconds over. -/
theorem carried (d : Duration) (k : Nat) :
    (d.seconds.toNat * k + d.nanos.toNat * k / nanosPerSecond) * nanosPerSecond +
      d.nanos.toNat * k % nanosPerSecond = d.toNanos * k := by
  rw [Nat.add_mul, Nat.add_assoc, Nat.div_add_mod', toNanos, Nat.add_mul, Nat.mul_right_comm]

/-- The length of a multiple is the multiple of the length, at most the longest. -/
theorem toNanos_times (d : Duration) (k : Nat) :
    (d.times k).toNanos = Min.min (d.toNanos * k) longest.toNanos := by
  rw [times, toNanos_getD_longest, carried]

theorem toNanos_min (a b : Duration) : (a.min b).toNanos = Min.min a.toNanos b.toNanos := by
  unfold min
  split
  · next shorter => rw [Nat.min_eq_left shorter]
  · next longer => rw [Nat.min_eq_right (Nat.le_of_not_le longer)]

end Duration
end RingBus
