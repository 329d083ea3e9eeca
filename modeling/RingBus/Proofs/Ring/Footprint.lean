import RingBus.Proofs.Ring.Transfer

/-!
# What a transfer touches

Whatever the counts and the bytes are, a write or a read stays inside its segment. It changes the
counts of its own three semaphores and at most one message and one index in its own segment. Such
changes are among those that any process may make.
-/

namespace RingBus

/-! ## Counts -/

/-- Files that differ from `all` in the counts of the three semaphores of a ring at most. -/
inductive Triplet.Recounted (t : Triplet) (all : Shared) : Shared → Prop
  | refl : Recounted t all all
  | set {mid : Shared} (role : SemaphoreRole) (units : Nat) :
      Recounted t all mid → Recounted t all ((t.playing role).setUnits units mid)

namespace Triplet.Recounted

variable {t : Triplet} {all mid after : Shared}

theorem giveBack (role : SemaphoreRole) (h : Recounted t all mid) :
    Recounted t all ((t.playing role).giveBack mid) := by
  by_cases hFull : (t.playing role).units mid = Semaphore.maxCount
  · rwa [Semaphore.giveBack_of_max hFull]
  · rw [Semaphore.giveBack_of_ne hFull]
    exact .set role _ h

theorem trans (h : Recounted t all mid) (h' : Recounted t mid after) : Recounted t all after := by
  induction h' with
  | refl => exact h
  | set role units _ ih => exact .set role units ih

theorem named_eq (h : Recounted t all after) : after.named = all.named := by
  induction h with
  | refl => rfl
  | set role units _ ih => exact ih

theorem count_eq (h : Recounted t all after) : after.count = all.count := by
  induction h with
  | refl => rfl
  | set role units _ ih => exact ih

theorem object_eq (h : Recounted t all after) {id : Nat}
    (hOther : ∀ role, id ≠ (t.playing role).id) : after.object id = all.object id := by
  induction h with
  | refl => rfl
  | set role units _ ih => rw [Semaphore.object_setUnits_other _ _ (hOther role), ih]

theorem size_eq (h : Recounted t all after) (id : Nat) :
    (after.object id).size = (all.object id).size := by
  induction h with
  | refl => rfl
  | set role units _ ih => exact (Semaphore.size_setUnits _ _ _ id).trans ih

/-- Counts stand in front of their files. -/
theorem byte_eq (h : Recounted t all after) (id : Nat) {i : Nat} (hi : 8 ≤ i) :
    (after.object id).byte i = (all.object id).byte i := by
  induction h with
  | refl => rfl
  | set role units _ ih => exact (Semaphore.byte_setUnits _ _ _ id hi).trans ih

theorem evolves (h : Recounted t all after) : all.Evolves after := by
  induction h with
  | refl => exact Relation.ReflTransGen.refl
  | set role units h ih =>
    refine ih.trans (Shared.evolves_set ?_)
    split <;> rfl

end Triplet.Recounted

namespace Ring

variable {r : Ring} {s : Shared} {payload : ByteArray} {patience : Patience}

/-! ## Outcomes -/

/-- The files with other counts, or also with a payload in the slot at the tail of a ring. -/
def AfterWrite (r : Ring) (payload : ByteArray) (s after : Shared) : Prop :=
  ∃ counted, r.semaphores.Recounted s counted ∧
    (after = counted ∨
      (payload.size ≤ r.geometry.slotSize.toNat ∧ r.tailIndex s < r.geometry.slotCount ∧
        after = r.withMemory counted (deposited r.geometry (r.memory s) (r.tailIndex s) payload)))

/-- The files with other counts, or also with the message at the head of a ring taken up. -/
def AfterRead (r : Ring) (s after : Shared) : Prop :=
  ∃ counted, r.semaphores.Recounted s counted ∧
    (after = counted ∨
      (r.headIndex s < r.geometry.slotCount ∧
        after = r.withMemory counted (collected r.geometry (r.memory s) (r.headIndex s))))

/-- A write of `payload` came to `outcome` within its bounds. -/
structure BoundedWrite (r : Ring) (payload : ByteArray) (s : Shared)
    (outcome : Shared × Reply Unit) : Prop where
  inside : outcome.2 ≠ .outside
  after : r.AfterWrite payload s outcome.1

/-- A read came to `outcome` within its bounds. -/
structure BoundedRead {α : Type} (r : Ring) (s : Shared) (outcome : Shared × Reply α) : Prop where
  inside : outcome.2 ≠ .outside
  after : r.AfterRead s outcome.1

/-! ## Transfers -/

/-- A write that only counts touches no byte of the segment. -/
theorem BoundedWrite.of_recounted {reply : Reply Unit} {after : Shared} (hInside : reply ≠ .outside)
    (h : r.semaphores.Recounted s after) : r.BoundedWrite payload s (after, reply) :=
  ⟨hInside, after, h, .inl rfl⟩

/-- A read that only counts touches no byte of the segment. -/
theorem BoundedRead.of_recounted {α : Type} {reply : Reply α} {after : Shared}
    (hInside : reply ≠ .outside) (h : r.semaphores.Recounted s after) :
    r.BoundedRead s (after, reply) :=
  ⟨hInside, after, h, .inl rfl⟩

theorem recounted_taken (role : SemaphoreRole) : r.semaphores.Recounted s (r.taken role s) :=
  .set role _ .refl

theorem recounted_released : r.semaphores.Recounted s (r.released s) :=
  .giveBack .mutex (recounted_taken .mutex)

/-- A signal counts beside the bytes of the segment. -/
theorem Mounted.signal_withMemory {mid after : Shared} {m : Memory} (role : SemaphoreRole)
    (mounted : r.Mounted s) (h : r.semaphores.Recounted s mid)
    (hSignal : (r.semaphores.playing role).signal (r.withMemory mid m) = .ok after) :
    ∃ counted, r.semaphores.Recounted s counted ∧ after = r.withMemory counted m := by
  have hAfter := Semaphore.eq_of_signal hSignal
  rw [withMemory, Semaphore.setUnits_set _ _ _ (mounted.playing_ne_segment role)] at hAfter
  exact ⟨_, .set role _ h, hAfter⟩

/-- Storing touches one slot and the tail. -/
theorem boundedWrite_store (mounted : r.Mounted s)
    (hSize : payload.size ≤ r.geometry.slotSize.toNat) :
    r.BoundedWrite payload s (r.store payload s) := by
  rcases store_cases mounted hSize with ⟨_, hStore⟩ | ⟨_, _, hStore⟩ | ⟨_, hTail, hStore⟩
  · rw [hStore]
    exact .of_recounted (by simp) .refl
  · rw [hStore]
    exact .of_recounted (by simp) (.giveBack .free recounted_released)
  · rw [hStore]
    cases hSignal : r.semaphores.filled.signal (r.stored payload s) with
    | ok after =>
      -- The last signal counts as well, and leaves the bytes that were laid down.
      obtain ⟨counted, hCounted, rfl⟩ :=
        mounted.signal_withMemory .filled recounted_released hSignal
      exact ⟨by simp, counted, hCounted, .inr ⟨hSize, hTail, rfl⟩⟩
    | error e => exact ⟨by simp, _, recounted_released, .inr ⟨hSize, hTail, rfl⟩⟩

/-- Loading touches the head only. -/
theorem boundedRead_load (mounted : r.Mounted s) : r.BoundedRead s (r.load s) := by
  rcases load_cases mounted with
    ⟨_, hLoad⟩ | ⟨_, _, hLoad⟩ | ⟨_, _, _, hLoad⟩ | ⟨_, hHead, _, hLoad⟩
  · rw [hLoad]
    exact .of_recounted (by simp) .refl
  · rw [hLoad]
    exact .of_recounted (by simp) (.giveBack .filled recounted_released)
  · rw [hLoad]
    exact .of_recounted (by simp) (.giveBack .filled recounted_released)
  · rw [hLoad]
    cases hSignal : r.semaphores.free.signal (r.loaded s) with
    | ok after =>
      -- The last signal counts as well, and leaves the bytes as they are.
      obtain ⟨counted, hCounted, rfl⟩ :=
        mounted.signal_withMemory .free recounted_released hSignal
      exact ⟨by simp, counted, hCounted, .inr ⟨hHead, rfl⟩⟩
    | error e => exact ⟨by simp, _, recounted_released, .inr ⟨hHead, rfl⟩⟩

/-- A unit that was taken before does not show in what storing or loading does to the segment. -/
theorem AfterWrite.of_taken {after : Shared} {role : SemaphoreRole} (mounted : r.Mounted s)
    (h : r.AfterWrite payload (r.taken role s) after) : r.AfterWrite payload s after := by
  obtain ⟨counted, hCounted, hAfter⟩ := h
  have hMemory : r.memory (r.taken role s) = r.memory s := mounted.memory_taken role
  rw [tailIndex, hMemory] at hAfter
  exact ⟨counted, (recounted_taken role).trans hCounted, hAfter⟩

theorem AfterRead.of_taken {after : Shared} {role : SemaphoreRole} (mounted : r.Mounted s)
    (h : r.AfterRead (r.taken role s) after) : r.AfterRead s after := by
  obtain ⟨counted, hCounted, hAfter⟩ := h
  have hMemory : r.memory (r.taken role s) = r.memory s := mounted.memory_taken role
  rw [headIndex, hMemory] at hAfter
  exact ⟨counted, (recounted_taken role).trans hCounted, hAfter⟩

/-- A write stays within bounds, whatever the counts and bytes are. -/
theorem boundedWrite (mounted : r.Mounted s) (payload : ByteArray) (patience : Patience) :
    r.BoundedWrite payload s (r.write payload patience s) := by
  by_cases hLarge : r.geometry.slotSize.toNat < payload.size
  · simp only [write, if_pos hLarge]
    exact .of_recounted (by simp) .refl
  have hSize := Nat.le_of_not_lt hLarge
  rcases Nat.eq_zero_or_pos (r.units .free s) with hZero | hPos
  · rw [write, if_neg hLarge, request_of_zero r.semaphores.free hZero]
    by_cases hForever : patience = .forever
    · rw [if_pos hForever]
      exact .of_recounted (by simp) .refl
    · rw [if_neg hForever]
      exact .of_recounted (by simp) .refl
  · rw [write_of_pos hSize hPos]
    obtain ⟨hInside, hAfter⟩ := boundedWrite_store (mounted.setUnits .free _) hSize
    exact ⟨hInside, hAfter.of_taken mounted⟩

/-- A read stays within bounds, whatever the counts and bytes are. -/
theorem boundedRead (mounted : r.Mounted s) (patience : Patience) :
    r.BoundedRead s (r.read patience s) := by
  rcases Nat.eq_zero_or_pos (r.units .filled s) with hZero | hPos
  · rw [read, request_of_zero r.semaphores.filled hZero]
    by_cases hForever : patience = .forever
    · rw [if_pos hForever]
      exact .of_recounted (by simp) .refl
    · rw [if_neg hForever]
      exact .of_recounted (by simp) .refl
  · rw [read_of_pos hPos]
    have hLoad : r.BoundedRead (r.taken .filled s) (r.load (r.taken .filled s)) :=
      boundedRead_load (mounted.setUnits .filled _)
    generalize r.load (r.taken .filled s) = outcome at hLoad ⊢
    obtain ⟨after, reply⟩ := outcome
    obtain ⟨hInside, hAfter⟩ := hLoad
    have hWhole := hAfter.of_taken mounted
    -- Reading only wraps what loading answers.
    cases reply with
    | value payload => exact ⟨by simp, hWhole⟩
    | failed e => exact ⟨by simp, hWhole⟩
    | blocked => exact ⟨by simp, hWhole⟩
    | outside => exact absurd rfl hInside

/-- Looking at the indices counts the mutex at most. -/
theorem recounted_indices (mounted : r.Mounted s) :
    r.semaphores.Recounted s (r.indices s).1 := by
  rw [indices_eq mounted]
  split
  · exact .refl
  · exact recounted_released

/-! ## Transfers are changes like any other -/

/-- A change that concerns the files of one ring only, and neither their names nor the front of the
header. -/
structure Touches (r : Ring) (s s' : Shared) : Prop where
  evolves : s.Evolves s'
  named : s'.named = s.named
  count : s'.count = s.count
  /-- Files that are no part of the ring stay. -/
  others : ∀ id, (∀ p, id ≠ r.part p) → s'.object id = s.object id
  /-- Of all files but the segment, the counts in front may have changed. -/
  counts : ∀ id, id ≠ r.segment.id → ∀ i, 8 ≤ i → (s'.object id).byte i = (s.object id).byte i
  size : ∀ id, (s'.object id).size = (s.object id).size
  described : ∀ {g}, Described g (r.memory s) → Described g (r.memory s')

/-- The segment of a ring does not take part in counting. -/
theorem Mounted.memory_recounted {s' : Shared} (mounted : r.Mounted s)
    (h : r.semaphores.Recounted s s') : r.memory s' = r.memory s :=
  h.object_eq fun role => (mounted.playing_ne_segment role).symm

theorem touches_recounted {s' : Shared} (mounted : r.Mounted s)
    (h : r.semaphores.Recounted s s') : r.Touches s s' where
  evolves := h.evolves
  named := h.named_eq
  count := h.count_eq
  others _ hOther := h.object_eq fun role => hOther (.semaphore role)
  counts id _ _ hi := h.byte_eq id hi
  size := h.size_eq
  described hDescribed := (mounted.memory_recounted h).symm ▸ hDescribed

theorem touches_withMemory {counted : Shared} {m : Memory}
    (h : r.semaphores.Recounted s counted) (hSize : m.size = (r.memory s).size)
    (hDescribed : ∀ {g}, Described g (r.memory s) → Described g m) :
    r.Touches s (r.withMemory counted m) := by
  have hOther : ∀ id, id ≠ r.segment.id → (r.withMemory counted m).object id = counted.object id :=
    fun id hId => Catalog.object_set_other _ _ hId
  have hSame : m.size = (counted.object r.segment.id).size := hSize.trans (h.size_eq _).symm
  refine
    { evolves := h.evolves.trans (Shared.evolves_set hSame)
      named := h.named_eq
      count := h.count_eq
      others := fun id hId =>
        (hOther id (hId .segment)).trans (h.object_eq fun role => hId (.semaphore role))
      counts := fun id hId i hi => by rw [hOther id hId, h.byte_eq id hi]
      size := fun id => ?_
      described := fun hFront => by rw [memory_withMemory]; exact hDescribed hFront }
  by_cases hId : id = r.segment.id
  · rw [hId]
    exact (congrArg Memory.size (memory_withMemory r counted m)).trans hSize
  · rw [hOther id hId, h.size_eq]

/-- A write changes the segment's bytes and the semaphores' counts only, and keeps the header's
description. -/
theorem write_touches (mounted : r.Mounted s) (payload : ByteArray) (patience : Patience) :
    r.Touches s (r.write payload patience s).1 := by
  obtain ⟨counted, hCounted, hSame | ⟨_, _, hWritten⟩⟩ :=
    (boundedWrite mounted payload patience).after
  · rw [hSame]
    exact touches_recounted mounted hCounted
  · rw [hWritten]
    exact touches_withMemory hCounted size_deposited Described.deposited

/-- A read changes the segment's bytes and the semaphores' counts only, and keeps the header's
description. -/
theorem read_touches (mounted : r.Mounted s) (patience : Patience) :
    r.Touches s (r.read patience s).1 := by
  obtain ⟨counted, hCounted, hSame | ⟨_, hRead⟩⟩ := (boundedRead mounted patience).after
  · rw [hSame]
    exact touches_recounted mounted hCounted
  · rw [hRead]
    exact touches_withMemory hCounted size_collected Described.collected

end Ring
end RingBus
