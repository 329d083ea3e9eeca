import RingBus.Proofs.Ring.Handle

/-!
# What writing and reading do

All outcomes of the four steps of a transfer, for handles that are mounted: which bytes and units
change, and what the caller hears. Everything that is shown later about messages rests on
`write_eq` and `read_eq`, and where the counts may be anything, on `store_cases` and `load_cases`.
-/

namespace RingBus
namespace Ring

variable {r : Ring} {s : Shared} {payload : ByteArray} {patience : Patience}

/-! ## The state of a ring as a handle sees it -/

/-- The next slot to read. -/
def headIndex (r : Ring) (s : Shared) : UInt32 :=
  (r.memory s).wordAt headOffset

/-- The next slot to write. -/
def tailIndex (r : Ring) (s : Shared) : UInt32 :=
  (r.memory s).wordAt tailOffset

/-- The length that stands in front of the next slot to read. -/
def lengthAtHead (r : Ring) (s : Shared) : UInt32 :=
  (r.memory s).wordAt (r.geometry.slotOffset (r.headIndex s).toNat)

/-- The payload in the next slot to read. -/
def payloadAtHead (r : Ring) (s : Shared) : ByteArray :=
  (r.memory s).bytesAt (r.geometry.slotOffset (r.headIndex s).toNat + lengthSize)
    (r.lengthAtHead s).toNat

/-- The units of the mutex, as they are told. -/
def mutexUnits (r : Ring) (s : Shared) : Nat :=
  r.semaphores.mutex.value s

/-- The number in front of the file of one of the semaphores. -/
def units (r : Ring) (role : SemaphoreRole) (s : Shared) : Nat :=
  (r.semaphores.playing role).units s

/-- The files after the mutex was taken and given back. -/
def released (r : Ring) (s : Shared) : Shared :=
  r.semaphores.mutex.giveBack (r.semaphores.mutex.setUnits (r.units .mutex s - 1) s)

/-- The files after a payload was laid into the slot at the tail. -/
def stored (r : Ring) (payload : ByteArray) (s : Shared) : Shared :=
  r.withMemory (r.released s) (deposited r.geometry (r.memory s) (r.tailIndex s) payload)

/-- The files after the message at the head was taken up. -/
def loaded (r : Ring) (s : Shared) : Shared :=
  r.withMemory (r.released s) (collected r.geometry (r.memory s) (r.headIndex s))

/-- The files after a message was written. -/
def written (r : Ring) (payload : ByteArray) (s : Shared) : Shared :=
  r.withMemory (Semaphore.pass r.semaphores.free r.semaphores.filled s)
    (deposited r.geometry (r.memory s) (r.tailIndex s) payload)

/-- The files after a message was read. -/
def consumed (r : Ring) (s : Shared) : Shared :=
  r.withMemory (Semaphore.pass r.semaphores.filled r.semaphores.free s)
    (collected r.geometry (r.memory s) (r.headIndex s))

@[simp] theorem memory_withMemory (r : Ring) (s : Shared) (m : Memory) :
    r.memory (r.withMemory s m) = m :=
  Catalog.object_set_same _ _ _

/-- Counting does not touch the segment of a ring, whose semaphores are other files. -/
theorem Mounted.memory_setUnits (mounted : r.Mounted s) (role : SemaphoreRole) (n : Nat)
    (all : Shared) : r.memory ((r.semaphores.playing role).setUnits n all) = r.memory all :=
  Semaphore.object_setUnits_other n all (mounted.playing_ne_segment role).symm

/-- Nor do bytes in the segment touch the counts. -/
theorem Mounted.units_withMemory (mounted : r.Mounted s) (role : SemaphoreRole) (all : Shared)
    (m : Memory) : r.units role (r.withMemory all m) = r.units role all :=
  Semaphore.units_set_other (mounted.playing_ne_segment role)

/-- Taking the mutex and giving it back comes to nothing if its number is a count. -/
theorem released_eq (hPos : 0 < r.units .mutex s) (hMost : r.units .mutex s ≤ Semaphore.maxCount) :
    r.released s = s :=
  Semaphore.giveBack_taken hPos hMost

/-! ## Inside the mutex -/

/-- The number that stands at the tail contradicts the geometry. -/
def tailCorrupt (r : Ring) (s : Shared) : RingError :=
  .corrupt r.name (.tail (r.tailIndex s).toNat r.geometry.slotCount.toNat)

/-- The number that stands at the head contradicts the geometry. -/
def headCorrupt (r : Ring) (s : Shared) : RingError :=
  .corrupt r.name (.head (r.headIndex s).toNat r.geometry.slotCount.toNat)

/-- The length that stands in front of the slot at the head contradicts the geometry. -/
def lengthCorrupt (r : Ring) (s : Shared) : RingError :=
  .corrupt r.name (.length (r.headIndex s).toNat (r.lengthAtHead s).toNat
    r.geometry.slotSize.toNat)

theorem Mounted.readWord?_head (mounted : r.Mounted s) :
    (r.memory s).readWord? headOffset = some (r.headIndex s) :=
  mounted.readWord?_header (by decide)

theorem Mounted.readWord?_tail (mounted : r.Mounted s) :
    (r.memory s).readWord? tailOffset = some (r.tailIndex s) :=
  mounted.readWord?_header (by decide)

/-- Taking the mutex leaves the bytes of the ring as they are. -/
theorem Mounted.memory_held (mounted : r.Mounted s) :
    r.memory (r.semaphores.mutex.setUnits (r.semaphores.mutex.units s - 1) s) = r.memory s :=
  mounted.memory_setUnits .mutex _ s

/-- Whoever holds the mutex sees the segment as it was, and what it puts there stays when the mutex
is given back. -/
theorem Mounted.giveBack_held (mounted : r.Mounted s) (m : Memory) :
    r.semaphores.mutex.giveBack
        (r.withMemory (r.semaphores.mutex.setUnits (r.units .mutex s - 1) s) m) =
      r.withMemory (r.released s) m :=
  Semaphore.giveBack_set _ m (mounted.playing_ne_segment .mutex)

/-- Storing waits for the mutex, or gives its unit of `free` back, or lays the payload down and
gives a unit to `filled`. -/
theorem store_cases (mounted : r.Mounted s) (hSize : payload.size ≤ r.geometry.slotSize.toNat) :
    (r.units .mutex s = 0 ∧ r.store payload s = (s, .blocked)) ∨
    (0 < r.units .mutex s ∧ r.geometry.slotCount ≤ r.tailIndex s ∧
      r.store payload s =
        (r.semaphores.free.giveBack (r.released s), .failed (r.tailCorrupt s))) ∨
    (0 < r.units .mutex s ∧ r.tailIndex s < r.geometry.slotCount ∧
      r.store payload s =
        match r.semaphores.filled.signal (r.stored payload s) with
        | .ok after => (after, .value ())
        | .error e => (r.stored payload s, .failed (.semaphore e))) := by
  have hFits := mounted.fits_memory
  rcases Nat.eq_zero_or_pos (r.units .mutex s) with hZero | hPos
  · refine .inl ⟨hZero, ?_⟩
    simp only [store, Semaphore.take?_of_zero (s := r.semaphores.mutex) hZero]
  · have hTake := Semaphore.take?_of_pos (s := r.semaphores.mutex) hPos
    by_cases hCorrupt : r.geometry.slotCount ≤ r.tailIndex s
    · refine .inr (.inl ⟨hPos, hCorrupt, ?_⟩)
      simp only [store, hTake, mounted.memory_held, mounted.readWord?_tail, if_pos hCorrupt]
      rfl
    · have hIndex : (r.tailIndex s).toNat < r.geometry.slotCount.toNat :=
        UInt32.lt_iff_toNat_lt.mp (UInt32.not_le.mp hCorrupt)
      -- The slot at the tail lies inside, so the payload fits there.
      have hDeposit := deposit?_eq hIndex hFits hSize
      have hBack := mounted.giveBack_held
        (deposited r.geometry (r.memory s) (r.tailIndex s) payload)
      refine .inr (.inr ⟨hPos, UInt32.not_le.mp hCorrupt, ?_⟩)
      simp only [store, hTake, mounted.memory_held, mounted.readWord?_tail, if_neg hCorrupt,
        hDeposit]
      rw [stored, ← hBack]
      rfl

/-- Loading waits for the mutex, or gives its unit of `filled` back, or takes the payload up and
gives a unit to `free`. -/
theorem load_cases (mounted : r.Mounted s) :
    (r.units .mutex s = 0 ∧ r.load s = (s, .blocked)) ∨
    (0 < r.units .mutex s ∧ r.geometry.slotCount ≤ r.headIndex s ∧
      r.load s = (r.semaphores.filled.giveBack (r.released s), .failed (r.headCorrupt s))) ∨
    (0 < r.units .mutex s ∧ r.headIndex s < r.geometry.slotCount ∧
      r.geometry.slotSize < r.lengthAtHead s ∧
      r.load s = (r.semaphores.filled.giveBack (r.released s), .failed (r.lengthCorrupt s))) ∨
    (0 < r.units .mutex s ∧ r.headIndex s < r.geometry.slotCount ∧
      r.lengthAtHead s ≤ r.geometry.slotSize ∧
      r.load s =
        match r.semaphores.free.signal (r.loaded s) with
        | .ok after => (after, .value (r.payloadAtHead s))
        | .error e => (r.loaded s, .failed (.semaphore e))) := by
  have hFits := mounted.fits_memory
  rcases Nat.eq_zero_or_pos (r.units .mutex s) with hZero | hPos
  · refine .inl ⟨hZero, ?_⟩
    simp only [load, Semaphore.take?_of_zero (s := r.semaphores.mutex) hZero]
  · have hTake := Semaphore.take?_of_pos (s := r.semaphores.mutex) hPos
    by_cases hCorrupt : r.geometry.slotCount ≤ r.headIndex s
    · refine .inr (.inl ⟨hPos, hCorrupt, ?_⟩)
      simp only [load, hTake, mounted.memory_held, mounted.readWord?_head, if_pos hCorrupt]
      rfl
    · have hIndex : (r.headIndex s).toNat < r.geometry.slotCount.toNat :=
        UInt32.lt_iff_toNat_lt.mp (UInt32.not_le.mp hCorrupt)
      have hLength : (r.memory s).readWord? (r.geometry.slotOffset (r.headIndex s).toNat) =
          some (r.lengthAtHead s) :=
        Memory.readWord?_of_le (slot_in_segment hIndex hFits (Nat.zero_le _))
      by_cases hLong : r.geometry.slotSize < r.lengthAtHead s
      · refine .inr (.inr (.inl ⟨hPos, UInt32.not_le.mp hCorrupt, hLong, ?_⟩))
        simp only [load, hTake, mounted.memory_held, mounted.readWord?_head, if_neg hCorrupt,
          hLength, if_pos hLong]
        rfl
      · have hLen : (r.lengthAtHead s).toNat ≤ r.geometry.slotSize.toNat :=
          UInt32.le_iff_toNat_le.mp (UInt32.not_lt.mp hLong)
        -- Index and length are sound, so the payload can be copied.
        have hCollect := collect?_eq hIndex hFits hLen
        have hBack := mounted.giveBack_held
          (collected r.geometry (r.memory s) (r.headIndex s))
        refine .inr (.inr (.inr ⟨hPos, UInt32.not_le.mp hCorrupt, UInt32.not_lt.mp hLong, ?_⟩))
        simp only [load, hTake, mounted.memory_held, mounted.readWord?_head, if_neg hCorrupt,
          hLength, if_neg hLong, hCollect]
        rw [loaded, ← hBack]
        rfl

/-- Looking at the indices waits for the mutex, or tells the two words and leaves the mutex as it
was given back. -/
theorem indices_eq (mounted : r.Mounted s) :
    r.indices s =
      if r.units .mutex s = 0 then (s, .blocked)
      else (r.released s, .value (r.headIndex s, r.tailIndex s)) := by
  rcases Nat.eq_zero_or_pos (r.units .mutex s) with hZero | hPos
  · rw [if_pos hZero]
    simp only [indices, Semaphore.take?_of_zero (s := r.semaphores.mutex) hZero]
  · rw [if_neg (Nat.ne_of_gt hPos)]
    simp only [indices, Semaphore.take?_of_pos (s := r.semaphores.mutex) hPos, mounted.memory_held,
      mounted.readWord?_head, mounted.readWord?_tail]
    rfl

/-! ## Whole transfers -/

/-- The mutex is free, and no unit gets lost for want of room. -/
structure Ready (r : Ring) (s : Shared) : Prop where
  mutex_pos : 0 < r.units .mutex s
  mutex_le : r.units .mutex s ≤ Semaphore.maxCount
  room : r.units .free s + r.units .filled s ≤ Semaphore.maxCount

namespace Ready

variable (ready : r.Ready s)
include ready

/-- No count is above the maximum. -/
theorem units_le (role : SemaphoreRole) : r.units role s ≤ Semaphore.maxCount := by
  have hRoom := ready.room
  cases role with
  | free => omega
  | filled => omega
  | mutex => exact ready.mutex_le

theorem value_eq (role : SemaphoreRole) :
    (r.semaphores.playing role).value s = r.units role s :=
  Semaphore.value_of_le (ready.units_le role)

theorem freeSlots_eq : r.freeSlots s = r.units .free s :=
  ready.value_eq .free

theorem filledSlots_eq : r.filledSlots s = r.units .filled s :=
  ready.value_eq .filled

theorem mutexUnits_eq : r.mutexUnits s = r.units .mutex s :=
  ready.value_eq .mutex

end Ready

theorem Mounted.setUnits (mounted : r.Mounted s) (role : SemaphoreRole) (n : Nat) :
    r.Mounted ((r.semaphores.playing role).setUnits n s) :=
  mounted.later (Nat.le_refl _) (Semaphore.size_setUnits _ _ _ _)

/-- Without a unit, an unlimited wait never ends, and any other runs out. -/
theorem request_of_zero (sem : Semaphore) (h : sem.units s = 0) (patience : Patience) :
    request sem patience s = if patience = .forever then .blocked else .unavailable := by
  simp only [request, Semaphore.take?_of_zero h]
  cases patience <;> rfl

/-- A unit that is there is taken at once, however patient the caller. -/
theorem request_of_pos (sem : Semaphore) (h : 0 < sem.units s) (patience : Patience) :
    request sem patience s = .taken (sem.setUnits (sem.units s - 1) s) := by
  simp only [request, Semaphore.take?_of_pos h]

/-- Only a unit that is there is taken. -/
theorem take?_of_request {sem : Semaphore} {after : Shared} :
    request sem patience s = .taken after → sem.take? s = some after := by
  intro hRequest
  unfold request at hRequest
  split at hRequest <;> cases hRequest
  assumption

/-- The files after a unit of one of the semaphores was taken. -/
def taken (r : Ring) (role : SemaphoreRole) (s : Shared) : Shared :=
  (r.semaphores.playing role).setUnits (r.units role s - 1) s

/-- A write that fits and finds a unit of `free` goes on to store. -/
theorem write_of_pos (hSize : payload.size ≤ r.geometry.slotSize.toNat)
    (hPos : 0 < r.units .free s) :
    r.write payload patience s = r.store payload (r.taken .free s) := by
  rw [write, if_neg (Nat.not_lt.mpr hSize), request_of_pos r.semaphores.free hPos]
  rfl

/-- A read that finds a unit of `filled` goes on to load. -/
theorem read_of_pos (hPos : 0 < r.units .filled s) :
    r.read patience s =
      match r.load (r.taken .filled s) with
      | (s, .value payload) => (s, .value (some payload))
      | (s, .failed e) => (s, .failed e)
      | (s, .blocked) => (s, .blocked)
      | (s, .outside) => (s, .outside) := by
  rw [read, request_of_pos r.semaphores.filled hPos]
  rfl

section

variable (mounted : r.Mounted s)
include mounted

theorem Mounted.memory_taken (role : SemaphoreRole) : r.memory (r.taken role s) = r.memory s :=
  mounted.memory_setUnits role _ s

theorem Mounted.units_taken_other {role role' : SemaphoreRole} (h : role ≠ role') :
    r.units role (r.taken role' s) = r.units role s :=
  Semaphore.units_setUnits_other (mounted.playing_ne _ _ h)

/-- Nothing of the mutex is to be seen once a unit of another semaphore was taken. -/
theorem Mounted.released_taken (ready : r.Ready s) {role : SemaphoreRole} (h : role ≠ .mutex) :
    r.released (r.taken role s) = r.taken role s := by
  have hMutex : r.units .mutex (r.taken role s) = r.units .mutex s :=
    mounted.units_taken_other h.symm
  exact released_eq (hMutex ▸ ready.mutex_pos) (hMutex ▸ ready.mutex_le)

/-- A unit that was taken from one semaphore goes to another while bytes are put into the
segment. -/
theorem Mounted.signal_taken (role role' : SemaphoreRole) (m : Memory) (h : role ≠ role')
    (hRoom : r.units role' s < Semaphore.maxCount) :
    (r.semaphores.playing role').signal (r.withMemory (r.taken role s) m) =
      .ok (r.withMemory
        (Semaphore.pass (r.semaphores.playing role) (r.semaphores.playing role') s) m) := by
  have hUnits : (r.semaphores.playing role').units (r.withMemory (r.taken role s) m) =
      r.units role' s :=
    (mounted.units_withMemory role' _ m).trans (mounted.units_taken_other h.symm)
  rw [Semaphore.signal_of_lt (by rw [hUnits]; exact hRoom), hUnits, withMemory,
    Semaphore.setUnits_set _ _ _ (mounted.playing_ne_segment role')]
  rfl

end

/-- A write changes nothing, or it puts the payload into the slot at the tail and passes one unit
from `free` to `filled`. -/
theorem write_eq (mounted : r.Mounted s) (ready : r.Ready s) (payload : ByteArray)
    (patience : Patience) :
    r.write payload patience s =
      if r.geometry.slotSize.toNat < payload.size then
        (s, .failed (.payloadTooLarge payload.size r.geometry.slotSize.toNat))
      else if r.units .free s = 0 then
        (s, if patience = .forever then .blocked else .failed .full)
      else if r.geometry.slotCount ≤ r.tailIndex s then (s, .failed (r.tailCorrupt s))
      else (r.written payload s, .value ()) := by
  by_cases hLarge : r.geometry.slotSize.toNat < payload.size
  · simp only [write, if_pos hLarge]
  rw [if_neg hLarge]
  rcases Nat.eq_zero_or_pos (r.units .free s) with hZero | hPos
  · rw [if_pos hZero, write, if_neg hLarge, request_of_zero r.semaphores.free hZero]
    cases patience <;> rfl
  have hSize := Nat.le_of_not_lt hLarge
  have hRoom := ready.room
  have hMutex : r.units .mutex (r.taken .free s) = r.units .mutex s :=
    mounted.units_taken_other (by decide)
  have hMemory : r.memory (r.taken .free s) = r.memory s := mounted.memory_taken .free
  have hTailIndex : r.tailIndex (r.taken .free s) = r.tailIndex s := by
    rw [tailIndex, hMemory, tailIndex]
  have hReleased : r.released (r.taken .free s) = r.taken .free s :=
    mounted.released_taken ready (by decide)
  rw [if_neg (Nat.ne_of_gt hPos), write_of_pos hSize hPos]
  -- Storing begins where a unit of `free` was taken; seen from there the tail is the same.
  rcases store_cases (mounted.setUnits .free _) hSize with
    ⟨hNone, _⟩ | ⟨_, hTail, hStore⟩ | ⟨_, hTail, hStore⟩
  · exact absurd (hMutex ▸ hNone) (Nat.ne_of_gt ready.mutex_pos)
  · have hBack : r.semaphores.free.giveBack (r.taken .free s) = s :=
      Semaphore.giveBack_taken hPos (ready.units_le .free)
    rw [← taken, hTailIndex] at hTail
    rw [← taken, hReleased, hBack, tailCorrupt, hTailIndex] at hStore
    rw [if_pos hTail, hStore, tailCorrupt]
  · have hSignal := mounted.signal_taken .free .filled
      (deposited r.geometry (r.memory s) (r.tailIndex s) payload) (by decide) (by omega)
    rw [← taken, hTailIndex] at hTail
    rw [← taken, stored, hReleased, hMemory, hTailIndex] at hStore
    rw [if_neg (UInt32.not_le.mpr hTail), hStore]
    change (match r.semaphores.filled.signal _ with | .ok after => _ | .error e => _) = _
    rw [show r.semaphores.filled.signal _ = _ from hSignal]
    rfl

/-- A read changes nothing, or it takes the payload from the slot at the head and passes one unit
from `filled` to `free`. -/
theorem read_eq (mounted : r.Mounted s) (ready : r.Ready s) (patience : Patience) :
    r.read patience s =
      if r.units .filled s = 0 then (s, if patience = .forever then .blocked else .value none)
      else if r.geometry.slotCount ≤ r.headIndex s then (s, .failed (r.headCorrupt s))
      else if r.geometry.slotSize < r.lengthAtHead s then (s, .failed (r.lengthCorrupt s))
      else (r.consumed s, .value (some (r.payloadAtHead s))) := by
  rcases Nat.eq_zero_or_pos (r.units .filled s) with hZero | hPos
  · rw [if_pos hZero, read, request_of_zero r.semaphores.filled hZero]
    cases patience <;> rfl
  have hRoom := ready.room
  have hMutex : r.units .mutex (r.taken .filled s) = r.units .mutex s :=
    mounted.units_taken_other (by decide)
  have hMemory : r.memory (r.taken .filled s) = r.memory s := mounted.memory_taken .filled
  have hHeadIndex : r.headIndex (r.taken .filled s) = r.headIndex s := by
    rw [headIndex, hMemory, headIndex]
  have hLengthAtHead : r.lengthAtHead (r.taken .filled s) = r.lengthAtHead s := by
    rw [lengthAtHead, hMemory, hHeadIndex, lengthAtHead]
  have hReleased : r.released (r.taken .filled s) = r.taken .filled s :=
    mounted.released_taken ready (by decide)
  have hBack : r.semaphores.filled.giveBack (r.taken .filled s) = s :=
    Semaphore.giveBack_taken hPos (ready.units_le .filled)
  rw [if_neg (Nat.ne_of_gt hPos), read_of_pos hPos]
  -- As for writing, with the two semaphores exchanged.
  rcases load_cases (mounted.setUnits .filled _) with
    ⟨hNone, _⟩ | ⟨_, hHead, hLoad⟩ | ⟨_, hHead, hLength, hLoad⟩ | ⟨_, hHead, hLength, hLoad⟩
  · exact absurd (hMutex ▸ hNone) (Nat.ne_of_gt ready.mutex_pos)
  · rw [← taken, hHeadIndex] at hHead
    rw [← taken, hReleased, hBack, headCorrupt, hHeadIndex] at hLoad
    rw [if_pos hHead, hLoad, headCorrupt]
  · rw [← taken, hHeadIndex] at hHead
    rw [← taken, hLengthAtHead] at hLength
    rw [← taken, hReleased, hBack, lengthCorrupt, hHeadIndex, hLengthAtHead] at hLoad
    rw [if_neg (UInt32.not_le.mpr hHead), if_pos hLength, hLoad, lengthCorrupt]
  · have hSignal := mounted.signal_taken .filled .free
      (collected r.geometry (r.memory s) (r.headIndex s)) (by decide) (by omega)
    rw [← taken, hHeadIndex] at hHead
    rw [← taken, hLengthAtHead] at hLength
    rw [← taken, loaded, hReleased, payloadAtHead, hMemory, hHeadIndex, hLengthAtHead] at hLoad
    rw [if_neg (UInt32.not_le.mpr hHead), if_neg (UInt32.not_lt.mpr hLength), hLoad]
    rw [show r.semaphores.free.signal _ = _ from hSignal]
    rfl

/-! ## What a transfer leaves -/

/-- A write deposits the payload at the tail. -/
theorem memory_written : r.memory (r.written payload s) =
    deposited r.geometry (r.memory s) (r.tailIndex s) payload :=
  memory_withMemory _ _ _

/-- A read collects the payload at the head. -/
theorem memory_consumed : r.memory (r.consumed s) =
    collected r.geometry (r.memory s) (r.headIndex s) :=
  memory_withMemory _ _ _

/-- A ring stays open to others after a write. -/
theorem Opened.written {name : RingName} (opened : Opened name s r.visitor) :
    Opened name (r.written payload s) r.visitor := by
  have hMemory : r.visitor.memory (r.written payload s) =
      deposited r.geometry (r.memory s) (r.tailIndex s) payload := memory_written
  refine opened.transfer (fun _ => rfl) ?_ ?_
  · rw [hMemory, size_deposited]
    rfl
  · rw [hMemory]
    exact opened.described.deposited

/-- A ring stays open to others after a read. -/
theorem Opened.consumed {name : RingName} (opened : Opened name s r.visitor) :
    Opened name (r.consumed s) r.visitor := by
  have hMemory : r.visitor.memory (r.consumed s) =
      collected r.geometry (r.memory s) (r.headIndex s) := memory_consumed
  refine opened.transfer (fun _ => rfl) ?_ ?_
  · rw [hMemory, size_collected]
    rfl
  · rw [hMemory]
    exact opened.described.collected

section

variable (mounted : r.Mounted s)
include mounted

theorem Mounted.written : r.Mounted (r.written payload s) :=
  mounted.later (Nat.le_refl _) (by rw [memory_written, size_deposited])

theorem Mounted.consumed : r.Mounted (r.consumed s) :=
  mounted.later (Nat.le_refl _) (by rw [memory_consumed, size_collected])

theorem units_free_written : r.units .free (r.written payload s) = r.units .free s - 1 :=
  (mounted.units_withMemory .free _ _).trans
    (Semaphore.units_pass_donor (mounted.playing_ne .free .filled (by decide)))

theorem units_filled_written (payload : ByteArray)
    (hRoom : r.units .filled s < Semaphore.maxCount) :
    r.units .filled (r.written payload s) = r.units .filled s + 1 :=
  (mounted.units_withMemory .filled _ _).trans (Semaphore.units_pass_receiver hRoom)

theorem units_mutex_written : r.units .mutex (r.written payload s) = r.units .mutex s :=
  (mounted.units_withMemory .mutex _ _).trans
    (Semaphore.units_pass_third (mounted.playing_ne .mutex .free (by decide))
      (mounted.playing_ne .mutex .filled (by decide)))

theorem units_filled_consumed : r.units .filled (r.consumed s) = r.units .filled s - 1 :=
  (mounted.units_withMemory .filled _ _).trans
    (Semaphore.units_pass_donor (mounted.playing_ne .filled .free (by decide)))

theorem units_free_consumed (hRoom : r.units .free s < Semaphore.maxCount) :
    r.units .free (r.consumed s) = r.units .free s + 1 :=
  (mounted.units_withMemory .free _ _).trans (Semaphore.units_pass_receiver hRoom)

theorem units_mutex_consumed : r.units .mutex (r.consumed s) = r.units .mutex s :=
  (mounted.units_withMemory .mutex _ _).trans
    (Semaphore.units_pass_third (mounted.playing_ne .mutex .filled (by decide))
      (mounted.playing_ne .mutex .free (by decide)))

end

/-! ## What an answer tells of any ring -/

section

variable {s' : Shared}

theorem collect?_eq_some {g : Geometry} {m m' : Memory} {index : UInt32} {length : Nat} :
    collect? g m index length = some (m', payload) →
      payload = m.bytesAt (g.slotOffset index.toNat + lengthSize) length ∧
        m'.wordAt headOffset = next g index := by
  intro h
  simp only [collect?, Option.bind_eq_bind, Option.bind_eq_some_iff, Memory.read?,
    Memory.writeWord?, Memory.write?] at h
  obtain ⟨bytes, hBytes, after, hAfter, hPair⟩ := h
  cases hPair
  split at hBytes
  · split at hAfter
    · cases hBytes
      cases hAfter
      exact ⟨rfl, Memory.wordAt_overlay_wordBytes ..⟩
    · cases hAfter
  · cases hBytes

/-- Two worlds that differ in the words in front of files at most tell the same of a message. -/
theorem lengthAtHead_congr (hHead : r.headIndex s' = r.headIndex s)
    (same : ∀ i, 8 ≤ i → (r.memory s').byte i = (r.memory s).byte i) :
    r.lengthAtHead s' = r.lengthAtHead s := by
  have hSlot := r.geometry.headerSize_le_slotOffset (r.headIndex s).toNat
  rw [headerSize] at hSlot
  rw [lengthAtHead, hHead]
  exact Memory.wordAt_congr fun i hi _ => same i (by omega)

theorem payloadAtHead_congr (hHead : r.headIndex s' = r.headIndex s)
    (same : ∀ i, 8 ≤ i → (r.memory s').byte i = (r.memory s).byte i) :
    r.payloadAtHead s' = r.payloadAtHead s := by
  have hSlot := r.geometry.headerSize_le_slotOffset (r.headIndex s).toNat
  rw [headerSize] at hSlot
  rw [payloadAtHead, hHead, lengthAtHead_congr hHead same]
  exact Memory.bytesAt_congr fun i hi _ => same i (by omega)

theorem headIndex_congr (same : ∀ i, 8 ≤ i → (r.memory s').byte i = (r.memory s).byte i) :
    r.headIndex s' = r.headIndex s :=
  Memory.wordAt_congr fun i hi _ => same i (Nat.le_trans (by decide : 8 ≤ headOffset) hi)

/-- A payload that is loaded stood in the slot at the head, which then moves on. This holds also if
a semaphore and the segment are the same file, because counts stand in front of all this. -/
theorem oldest_of_load :
    r.load s = (s', .value payload) →
      payload = r.payloadAtHead s ∧ r.headIndex s' = next r.geometry (r.headIndex s) := by
  intro hLoad
  unfold load at hLoad
  split at hLoad
  · cases hLoad
  next held hTake =>
    -- Taking the mutex changes the count in front of its file, and nothing from byte 8 on.
    have hHeld : ∀ i, 8 ≤ i → (r.memory held).byte i = (r.memory s).byte i :=
      fun _ => Semaphore.byte_of_take? hTake _
    have hHeadHeld := headIndex_congr hHeld
    rw [← payloadAtHead_congr hHeadHeld hHeld, ← hHeadHeld]
    dsimp only at hLoad
    split at hLoad
    · cases hLoad
    next index hIndex =>
      have hHead : r.headIndex held = index := Memory.wordAt_of_readWord? hIndex
      split at hLoad
      · cases hLoad
      split at hLoad
      · cases hLoad
      next length hLength =>
        have hLen : r.lengthAtHead held = length := by
          rw [lengthAtHead, hHead]
          exact Memory.wordAt_of_readWord? hLength
        split at hLoad
        · cases hLoad
        split at hLoad
        · cases hLoad
        next m payload' hCollect =>
          obtain ⟨hPayload, hNext⟩ := collect?_eq_some hCollect
          split at hLoad
          next hSignal =>
            cases hLoad
            -- Giving the mutex back and signalling `free` change counts only.
            have hAfter : ∀ i, 8 ≤ i → (r.memory s').byte i = m.byte i := by
              intro i hi
              rw [Semaphore.eq_of_signal hSignal]
              refine (Semaphore.byte_setUnits _ _ _ _ hi).trans
                ((Semaphore.byte_giveBack _ _ _ hi).trans ?_)
              exact congrArg (Memory.byte · i) (memory_withMemory r held m)
            refine ⟨?_, ?_⟩
            · rw [hPayload, payloadAtHead, hHead, hLen]
            · rw [hHead, ← hNext]
              exact Memory.wordAt_congr fun i hi _ =>
                hAfter i (Nat.le_trans (by decide : 8 ≤ headOffset) hi)
          next => cases hLoad

/-- A read gives the payload at the head, which moves on by one. -/
theorem oldest_of_read :
    r.read patience s = (s', .value (some payload)) →
      payload = r.payloadAtHead s ∧ r.headIndex s' = next r.geometry (r.headIndex s) := by
  intro hRead
  unfold read at hRead
  split at hRead
  · cases hRead
  · cases hRead
  next after hRequest =>
    -- Taking the unit changes a count only, so the head is still the same.
    have hTaken : ∀ i, 8 ≤ i → (r.memory after).byte i = (r.memory s).byte i :=
      fun _ => Semaphore.byte_of_take? (take?_of_request hRequest) _
    have hHead := headIndex_congr hTaken
    split at hRead
    next hLoad =>
      cases hRead
      have hOldest := oldest_of_load hLoad
      rw [payloadAtHead_congr hHead hTaken, hHead] at hOldest
      exact hOldest
    all_goals cases hRead

end

end Ring
end RingBus
