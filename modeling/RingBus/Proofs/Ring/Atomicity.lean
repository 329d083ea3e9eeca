import RingBus.Proofs.Ring.Transfer

/-!
# Transfers are all or nothing

Whatever the bytes of a segment have become, a write or a read that comes back either moved
exactly one unit between `free` and `filled`, or changed nothing at all. It fails in the mutex
only if the numbers it finds there contradict the geometry of its handle.
-/

namespace RingBus
namespace Ring

variable {r : Ring} {s s₀ : Shared} {payload : ByteArray} {patience : Patience}

/-- What a caller can rely on when a write came to `outcome`. -/
structure AtomicWrite (r : Ring) (payload : ByteArray) (s : Shared)
    (outcome : Shared × Reply Unit) : Prop where
  conserves : outcome.2 ≠ .blocked →
    r.freeSlots outcome.1 + r.filledSlots outcome.1 = r.freeSlots s + r.filledSlots s ∧
      r.mutexUnits outcome.1 = r.mutexUnits s
  refuses : ∀ e, outcome.2 = .failed e →
    outcome.1 = s ∧
      (e = .payloadTooLarge payload.size r.geometry.slotSize.toNat ∨ e = .full ∨
        e = r.tailCorrupt s)
  fails_iff : payload.size ≤ r.geometry.slotSize.toNat → 1 ≤ r.freeSlots s →
    ((∃ e, outcome.2 = .failed e) ↔ r.geometry.slotCount ≤ r.tailIndex s)
  succeeds_iff : payload.size ≤ r.geometry.slotSize.toNat → 1 ≤ r.freeSlots s →
    (outcome.2 = .value () ↔ r.tailIndex s < r.geometry.slotCount)
  moves : outcome.2 = .value () →
    r.freeSlots outcome.1 + 1 = r.freeSlots s ∧ r.filledSlots outcome.1 = r.filledSlots s + 1

/-- What a caller can rely on when a read came to `outcome`. -/
structure AtomicRead (r : Ring) (s : Shared) (outcome : Shared × Reply (Option ByteArray)) :
    Prop where
  conserves : outcome.2 ≠ .blocked →
    r.freeSlots outcome.1 + r.filledSlots outcome.1 = r.freeSlots s + r.filledSlots s ∧
      r.mutexUnits outcome.1 = r.mutexUnits s
  refuses : ∀ e, outcome.2 = .failed e →
    outcome.1 = s ∧ (e = r.headCorrupt s ∨ e = r.lengthCorrupt s)
  passes : outcome.2 = .value none → outcome.1 = s
  fails_iff : 1 ≤ r.filledSlots s →
    ((∃ e, outcome.2 = .failed e) ↔
      r.geometry.slotCount ≤ r.headIndex s ∨ r.geometry.slotSize < r.lengthAtHead s)
  succeeds_iff : 1 ≤ r.filledSlots s →
    ((∃ payload, outcome.2 = .value (some payload)) ↔
      r.headIndex s < r.geometry.slotCount ∧ r.lengthAtHead s ≤ r.geometry.slotSize)
  moves : ∀ payload, outcome.2 = .value (some payload) →
    r.filledSlots outcome.1 + 1 = r.filledSlots s ∧ r.freeSlots outcome.1 = r.freeSlots s + 1

/-! ## Counts after a transfer -/

section

variable (mounted : r.Mounted s) (ready : r.Ready s)
include mounted ready

/-- There still is room for the units after one of them went from `free` to `filled`. -/
theorem Ready.written (hPos : 0 < r.freeSlots s) : r.Ready (r.written payload s) := by
  have hRoom := ready.room
  rw [ready.freeSlots_eq] at hPos
  have hFilled := units_filled_written mounted payload (by omega)
  have hMutex : r.units .mutex (r.written payload s) = _ := units_mutex_written mounted
  refine ⟨hMutex ▸ ready.mutex_pos, hMutex ▸ ready.mutex_le, ?_⟩
  rw [units_free_written mounted, hFilled]
  omega

theorem Ready.consumed (hPos : 0 < r.filledSlots s) : r.Ready (r.consumed s) := by
  have hRoom := ready.room
  rw [ready.filledSlots_eq] at hPos
  have hFree := units_free_consumed mounted (by omega)
  have hMutex : r.units .mutex (r.consumed s) = _ := units_mutex_consumed mounted
  refine ⟨hMutex ▸ ready.mutex_pos, hMutex ▸ ready.mutex_le, ?_⟩
  rw [units_filled_consumed mounted, hFree]
  omega

/-- The counts that are told follow the units. -/
theorem told_written (payload : ByteArray) (hPos : 0 < r.freeSlots s) :
    r.freeSlots (r.written payload s) + 1 = r.freeSlots s ∧
      r.filledSlots (r.written payload s) = r.filledSlots s + 1 ∧
      r.mutexUnits (r.written payload s) = r.mutexUnits s := by
  have after : r.Ready (r.written payload s) := ready.written mounted hPos
  have hRoom := ready.room
  rw [after.freeSlots_eq, after.filledSlots_eq, after.mutexUnits_eq, ready.filledSlots_eq,
    ready.mutexUnits_eq]
  rw [ready.freeSlots_eq] at hPos ⊢
  exact ⟨(congrArg (· + 1) (units_free_written mounted)).trans (Nat.sub_add_cancel hPos),
    units_filled_written mounted payload (by omega), units_mutex_written mounted⟩

theorem told_consumed (hPos : 0 < r.filledSlots s) :
    r.filledSlots (r.consumed s) + 1 = r.filledSlots s ∧
      r.freeSlots (r.consumed s) = r.freeSlots s + 1 ∧
      r.mutexUnits (r.consumed s) = r.mutexUnits s := by
  have after : r.Ready (r.consumed s) := ready.consumed mounted hPos
  have hRoom := ready.room
  rw [after.freeSlots_eq, after.filledSlots_eq, after.mutexUnits_eq, ready.freeSlots_eq,
    ready.mutexUnits_eq]
  rw [ready.filledSlots_eq] at hPos ⊢
  exact ⟨(congrArg (· + 1) (units_filled_consumed mounted)).trans (Nat.sub_add_cancel hPos),
    units_free_consumed mounted (by omega), units_mutex_consumed mounted⟩

end

/-! ## Writing -/

/-- A write that waits for a free slot has changed nothing. -/
theorem AtomicWrite.of_blocked (hZero : r.freeSlots s = 0) :
    AtomicWrite r payload s (s, .blocked) where
  conserves _ := ⟨rfl, rfl⟩
  refuses e h := by cases h
  fails_iff _ hPos := absurd hZero (Nat.ne_of_gt hPos)
  succeeds_iff _ hPos := absurd hZero (Nat.ne_of_gt hPos)
  moves h := by cases h

/-- A write that is refused has changed nothing. -/
theorem AtomicWrite.of_refused {e : RingError}
    (hKind : e = .payloadTooLarge payload.size r.geometry.slotSize.toNat ∨ e = .full ∨
      e = r.tailCorrupt s)
    (hCause : payload.size ≤ r.geometry.slotSize.toNat → 1 ≤ r.freeSlots s →
      r.geometry.slotCount ≤ r.tailIndex s) :
    AtomicWrite r payload s (s, .failed e) where
  conserves _ := ⟨rfl, rfl⟩
  refuses e' h := by
    cases h
    exact ⟨rfl, hKind⟩
  fails_iff hSize hPos := iff_of_true ⟨e, rfl⟩ (hCause hSize hPos)
  succeeds_iff hSize hPos :=
    iff_of_false (fun h => by cases h) (UInt32.not_lt.mpr (hCause hSize hPos))
  moves h := by cases h

/-- A write that succeeds moves one unit from free to filled and stores one message. -/
theorem AtomicWrite.of_written (mounted : r.Mounted s) (ready : r.Ready s)
    (hPos : 0 < r.freeSlots s) (hTail : r.tailIndex s < r.geometry.slotCount) :
    AtomicWrite r payload s (r.written payload s, .value ()) where
  conserves _ := by
    obtain ⟨hFree, hFilled, hMutex⟩ := told_written mounted ready payload hPos
    exact ⟨by dsimp only; omega, hMutex⟩
  refuses e h := by cases h
  fails_iff _ _ := iff_of_false (fun ⟨_, h⟩ => by cases h) (UInt32.not_le.mpr hTail)
  succeeds_iff _ _ := iff_of_true rfl hTail
  moves _ := by
    obtain ⟨hFree, hFilled, _⟩ := told_written mounted ready payload hPos
    exact ⟨hFree, hFilled⟩

/-- Every write is atomic, whatever bytes the segment holds. -/
theorem atomicWrite (mounted : r.Mounted s) (ready : r.Ready s) :
    AtomicWrite r payload s (r.write payload patience s) := by
  -- The four questions that a write asks, in their order.
  rw [write_eq mounted ready, ← ready.freeSlots_eq]
  by_cases hLarge : r.geometry.slotSize.toNat < payload.size
  · rw [if_pos hLarge]
    exact .of_refused (.inl rfl) fun hSize => absurd hLarge (Nat.not_lt.mpr hSize)
  rw [if_neg hLarge]
  by_cases hZero : r.freeSlots s = 0
  · rw [if_pos hZero]
    by_cases hForever : patience = .forever
    · rw [if_pos hForever]
      exact .of_blocked hZero
    · rw [if_neg hForever]
      exact .of_refused (.inr (.inl rfl)) fun _ hPos => absurd hZero (Nat.ne_of_gt hPos)
  rw [if_neg hZero]
  by_cases hCorrupt : r.geometry.slotCount ≤ r.tailIndex s
  · rw [if_pos hCorrupt]
    exact .of_refused (.inr (.inr rfl)) fun _ _ => hCorrupt
  · rw [if_neg hCorrupt]
    exact .of_written mounted ready (Nat.pos_of_ne_zero hZero) (UInt32.not_le.mp hCorrupt)

/-! ## Reading -/

/-- A read that waits for a message has changed nothing. -/
theorem AtomicRead.of_waiting (hZero : r.filledSlots s = 0) {reply : Reply (Option ByteArray)}
    (hReply : reply = .blocked ∨ reply = .value none) : AtomicRead r s (s, reply) where
  conserves _ := ⟨rfl, rfl⟩
  refuses e h := by rcases hReply with rfl | rfl <;> cases h
  passes _ := rfl
  fails_iff hPos := absurd hZero (Nat.ne_of_gt hPos)
  succeeds_iff hPos := absurd hZero (Nat.ne_of_gt hPos)
  moves payload h := by rcases hReply with rfl | rfl <;> cases h

/-- A read that is refused has changed nothing. -/
theorem AtomicRead.of_refused {e : RingError} (hKind : e = r.headCorrupt s ∨ e = r.lengthCorrupt s)
    (hCause : r.geometry.slotCount ≤ r.headIndex s ∨ r.geometry.slotSize < r.lengthAtHead s) :
    AtomicRead r s (s, .failed e) where
  conserves _ := ⟨rfl, rfl⟩
  refuses e' h := by
    cases h
    exact ⟨rfl, hKind⟩
  passes h := by cases h
  fails_iff _ := iff_of_true ⟨e, rfl⟩ hCause
  succeeds_iff _ := by
    refine iff_of_false (fun ⟨_, h⟩ => by cases h) ?_
    rintro ⟨hHead, hLength⟩
    rcases hCause with hCorrupt | hLong
    · exact UInt32.not_lt.mpr hCorrupt hHead
    · exact UInt32.not_lt.mpr hLength hLong
  moves payload h := by cases h

/-- A read that succeeds moves one unit from filled to free and takes one message. -/
theorem AtomicRead.of_consumed (mounted : r.Mounted s) (ready : r.Ready s)
    (hPos : 0 < r.filledSlots s) (hHead : r.headIndex s < r.geometry.slotCount)
    (hLength : r.lengthAtHead s ≤ r.geometry.slotSize) :
    AtomicRead r s (r.consumed s, .value (some (r.payloadAtHead s))) where
  conserves _ := by
    obtain ⟨hFilled, hFree, hMutex⟩ := told_consumed mounted ready hPos
    exact ⟨by dsimp only; omega, hMutex⟩
  refuses e h := by cases h
  passes h := by cases h
  fails_iff _ := by
    refine iff_of_false (fun ⟨_, h⟩ => by cases h) ?_
    rintro (hCorrupt | hLong)
    · exact UInt32.not_lt.mpr hCorrupt hHead
    · exact UInt32.not_lt.mpr hLength hLong
  succeeds_iff _ := iff_of_true ⟨_, rfl⟩ ⟨hHead, hLength⟩
  moves payload _ := by
    obtain ⟨hFilled, hFree, _⟩ := told_consumed mounted ready hPos
    exact ⟨hFilled, hFree⟩

/-- Every read is atomic, whatever bytes the segment holds. -/
theorem atomicRead (mounted : r.Mounted s) (ready : r.Ready s) :
    AtomicRead r s (r.read patience s) := by
  -- The three questions that a read asks, in their order.
  rw [read_eq mounted ready, ← ready.filledSlots_eq]
  by_cases hZero : r.filledSlots s = 0
  · rw [if_pos hZero]
    by_cases hForever : patience = .forever
    · rw [if_pos hForever]
      exact .of_waiting hZero (.inl rfl)
    · rw [if_neg hForever]
      exact .of_waiting hZero (.inr rfl)
  rw [if_neg hZero]
  by_cases hCorrupt : r.geometry.slotCount ≤ r.headIndex s
  · rw [if_pos hCorrupt]
    exact .of_refused (.inl rfl) (.inl hCorrupt)
  rw [if_neg hCorrupt]
  by_cases hLong : r.geometry.slotSize < r.lengthAtHead s
  · rw [if_pos hLong]
    exact .of_refused (.inr rfl) (.inr hLong)
  · rw [if_neg hLong]
    exact .of_consumed mounted ready (Nat.pos_of_ne_zero hZero) (UInt32.not_le.mp hCorrupt)
      (UInt32.not_lt.mp hLong)

/-! ## Any handle, any history -/

/-- Where the told count of the mutex is not zero, it is the number of its units. -/
theorem Ready.of_counts (hMutex : 1 ≤ r.mutexUnits s)
    (hRoom : r.units .free s + r.units .filled s ≤ Semaphore.maxCount) : r.Ready s := by
  obtain ⟨hUnits, hMost⟩ := Semaphore.units_of_value_pos hMutex
  exact ⟨Nat.lt_of_lt_of_eq hMutex hUnits.symm, hMost, hRoom⟩

/-- Through every handle that was ever created or opened, after whatever others did to the bytes
and the counts meanwhile, writes and reads are all or nothing as long as the mutex is free and
there is room for the units. -/
theorem transfers_atomic (obtained : Obtained r s₀) (later : s₀.Evolves s)
    (hMutex : 1 ≤ r.mutexUnits s)
    (hRoom : r.units .free s + r.units .filled s ≤ Semaphore.maxCount) :
    (∀ payload patience, AtomicWrite r payload s (r.write payload patience s)) ∧
      ∀ patience, AtomicRead r s (r.read patience s) := by
  have mounted := obtained.mounted.evolves later
  have ready := Ready.of_counts hMutex hRoom
  exact ⟨fun _ _ => atomicWrite mounted ready, fun _ => atomicRead mounted ready⟩

/-- In a ring that was scribbled over, every write that fits and every read of a message fails, and
changes nothing. -/
theorem transfers_atomic_scribbled :
    Sample.world.Evolves Sample.scribbled ∧
      1 ≤ Sample.ring.mutexUnits Sample.scribbled ∧
      Sample.ring.units .free Sample.scribbled + Sample.ring.units .filled Sample.scribbled ≤
        Semaphore.maxCount ∧
      Sample.ring.geometry.slotCount ≤ Sample.ring.tailIndex Sample.scribbled ∧
      (∀ payload patience, AtomicWrite Sample.ring payload Sample.scribbled
        (Sample.ring.write payload patience Sample.scribbled)) ∧
      ∀ patience, AtomicRead Sample.ring Sample.scribbled
        (Sample.ring.read patience Sample.scribbled) := by
  have hMutex : 1 ≤ Sample.ring.mutexUnits Sample.scribbled := by decide
  have hRoom : Sample.ring.units .free Sample.scribbled +
      Sample.ring.units .filled Sample.scribbled ≤ Semaphore.maxCount := by decide
  have hTail : Sample.ring.geometry.slotCount ≤ Sample.ring.tailIndex Sample.scribbled := by decide
  exact ⟨Sample.scribbled_later, hMutex, hRoom, hTail,
    transfers_atomic Sample.obtained Sample.scribbled_later hMutex hRoom⟩

end Ring
end RingBus
