import Mathlib.Algebra.Group.Nat.Defs
import RingBus.Proofs.Ring.Footprint

/-!
# Nothing is touched outside of a segment

Opening checks the geometry against the size of the segment once; from then on a handle goes by the
geometry it adopted. Since a segment never changes its size, every access of every later call lies
inside, whatever the header and the lengths in front of the slots have become.
-/

namespace RingBus
namespace Ring

variable {r : Ring} {s s₀ : Shared} {payload : ByteArray} {patience : Patience}

/-! ## Offsets in 64 bits -/

namespace Geometry

/-- The bytes of one slot with its length, computed in 64 bits. -/
def stride64 (g : Geometry) : UInt64 :=
  UInt64.ofNat lengthSize + g.slotSize.toUInt64

/-- Where slot `index` begins, computed in 64 bits. -/
def slotOffset64 (g : Geometry) (index : UInt32) : UInt64 :=
  UInt64.ofNat headerSize + index.toUInt64 * g.stride64

/-- The bytes of the whole ring, computed in 64 bits. -/
def segmentSize64 (g : Geometry) : UInt64 :=
  UInt64.ofNat headerSize + g.slotCount.toUInt64 * g.stride64

variable (g : Geometry)

/-- The end of a slot is far below the largest 64 bit number, even for an index that no slot
has. -/
theorem slotOffset_add_stride_lt (index : UInt32) :
    g.slotOffset index.toNat + g.stride < 2 ^ 64 := by
  -- The product of two bounded numbers is the one step that is not linear.
  have hIndex : index.toNat ≤ 2 ^ 32 := Nat.le_of_lt index.toNat_lt
  have hProduct : index.toNat * g.stride ≤ 2 ^ 32 * (lengthSize + maxSlotSize) :=
    Nat.mul_le_mul hIndex g.stride_le
  have hStride := g.stride_le
  simp only [lengthSize, maxSlotSize] at hProduct hStride
  simp only [slotOffset, headerSize]
  omega

theorem toNat_stride64 : g.stride64.toNat = g.stride := by
  have hSize := g.slotSize.toNat_lt
  simp only [stride64, stride, lengthSize, UInt64.toNat_add, UInt64.toNat_ofNat',
    UInt32.toNat_toUInt64]
  omega

theorem toNat_slotOffset64 (index : UInt32) :
    (g.slotOffset64 index).toNat = g.slotOffset index.toNat := by
  have hEnd := g.slotOffset_add_stride_lt index
  simp only [slotOffset, headerSize] at hEnd ⊢
  simp only [slotOffset64, headerSize, UInt64.toNat_add, UInt64.toNat_mul, UInt64.toNat_ofNat',
    UInt32.toNat_toUInt64, toNat_stride64]
  rw [Nat.mod_eq_of_lt (a := index.toNat * g.stride) (by omega)]
  omega

/-- The size of a segment does not overflow 64 bits. -/
theorem toNat_segmentSize64 : g.segmentSize64.toNat = g.segmentSize :=
  g.toNat_slotOffset64 g.slotCount

/-- The slots lie apart from each other and from the header and fill the rest of the segment, and
their offsets are computed without overflow. -/
structure WellLaid (g : Geometry) : Prop where
  behind_header : ∀ i, headerSize ≤ g.slotOffset i
  disjoint : ∀ i j, i ≠ j →
    g.slotOffset i + g.stride ≤ g.slotOffset j ∨ g.slotOffset j + g.stride ≤ g.slotOffset i
  inside : ∀ i < g.slotCount.toNat, g.slotOffset i + g.stride ≤ g.segmentSize
  last : g.slotOffset (g.slotCount.toNat - 1) + g.stride = g.segmentSize
  no_overflow : ∀ index : UInt32, g.slotOffset index.toNat + g.stride < 2 ^ 64
  stride64 : g.stride64.toNat = g.stride
  slotOffset64 : ∀ index, (g.slotOffset64 index).toNat = g.slotOffset index.toNat
  segmentSize64 : g.segmentSize64.toNat = g.segmentSize

/-- The slots of every geometry lie apart, behind the header and inside the segment. -/
theorem wellLaid : g.WellLaid where
  behind_header := g.headerSize_le_slotOffset
  disjoint _ _ := g.slots_disjoint
  inside _ := g.slotOffset_add_stride_le
  last := g.slotOffset_last_add_stride
  no_overflow := g.slotOffset_add_stride_lt
  stride64 := g.toNat_stride64
  slotOffset64 := g.toNat_slotOffset64
  segmentSize64 := g.toNat_segmentSize64

end Geometry

/-! ## Creating and opening -/

/-- Creating a ring never reaches outside its segment. -/
theorem create_ne_outside (name : RingName) (g : Geometry) (s : Shared) :
    (create name g s).2 ≠ .outside := by
  by_cases h : g.segmentSize ≤ Segment.maxSize ∧ Vacant name s
  · rw [create_of_vacant h.1 h.2]
    simp
  · obtain ⟨_, e, hRefused, _⟩ := create_of_not_vacant h
    simp [hRefused]

/-- The header is read only if the segment is large enough to hold one. -/
theorem recordedGeometry_ne_outside {segment : Segment}
    (hSize : segment.size = (segment.memory s).size) :
    recordedGeometry segment s ≠ .outside := by
  unfold recordedGeometry
  split
  · simp
  rename_i hHeader
  rw [Header.read?_of_le (hSize ▸ Nat.le_of_not_lt hHeader)]
  dsimp only
  -- Past the header every branch ends in a geometry or in an error.
  repeat' split
  all_goals simp

/-- Opening a ring never reaches outside its segment, whatever bytes it finds. -/
theorem openNamed_ne_outside (name : RingName) (policy : RetryPolicy) (s : Shared) :
    (openNamed name policy s).2 ≠ .outside := by
  rw [openNamed_eq]
  dsimp only
  split
  · simp
  rename_i segment hSegment
  have hSize : segment.size = (segment.memory s).size :=
    congrArg Segment.size (Segment.openNamed_eq_ok_iff.mp hSegment).2.2.2.2
  -- The header is read only where the segment is known to hold one.
  have hGeometry := recordedGeometry_ne_outside hSize
  split
  · simp
  · simp
  · contradiction
  · split <;> simp

/-! ## Transfers -/

/-- A write that came to `outcome` touched the tail and the front of one slot at most. Of other
files it touched the counts of the ring's own semaphores. -/
structure ConfinedWrite (r : Ring) (payload : ByteArray) (s : Shared)
    (outcome : Shared × Reply Unit) : Prop where
  inside : outcome.2 ≠ .outside
  size : (r.memory outcome.1).size = r.segment.size
  others : ∀ id, (∀ p, id ≠ r.part p) → outcome.1.object id = s.object id
  counts : ∀ id, id ≠ r.segment.id → ∀ i, 8 ≤ i →
    (outcome.1.object id).byte i = (s.object id).byte i
  touched : ∀ i, (r.memory outcome.1).byte i ≠ (r.memory s).byte i →
    (tailOffset ≤ i ∧ i < tailOffset + 4) ∨
      (r.tailIndex s < r.geometry.slotCount ∧ payload.size ≤ r.geometry.slotSize.toNat ∧
        r.geometry.slotOffset (r.tailIndex s).toNat ≤ i ∧
        i < r.geometry.slotOffset (r.tailIndex s).toNat + lengthSize + payload.size)

/-- A read that came to `outcome` touched the head at most, and the counts of the ring's own
semaphores. -/
structure ConfinedRead (r : Ring) (s : Shared) (outcome : Shared × Reply (Option ByteArray)) :
    Prop where
  inside : outcome.2 ≠ .outside
  size : (r.memory outcome.1).size = r.segment.size
  others : ∀ id, (∀ p, id ≠ r.part p) → outcome.1.object id = s.object id
  counts : ∀ id, id ≠ r.segment.id → ∀ i, 8 ≤ i →
    (outcome.1.object id).byte i = (s.object id).byte i
  touched : ∀ i, (r.memory outcome.1).byte i ≠ (r.memory s).byte i →
    headOffset ≤ i ∧ i < headOffset + 4

/-- Looking at the indices touched no byte of the segment. -/
structure ConfinedLook (r : Ring) (s : Shared) (outcome : Shared × Reply (UInt32 × UInt32)) :
    Prop where
  inside : outcome.2 ≠ .outside
  memory : r.memory outcome.1 = r.memory s
  others : ∀ id, (∀ p, id ≠ r.part p) → outcome.1.object id = s.object id

/-- Every write stays inside the segment. -/
theorem confinedWrite (mounted : r.Mounted s) :
    r.ConfinedWrite payload s (r.write payload patience s) := by
  have touches := write_touches mounted payload patience
  obtain ⟨hInside, counted, hCounted, hAfter⟩ := boundedWrite mounted payload patience
  refine ⟨hInside, (touches.size _).trans mounted.size, touches.others, touches.counts, ?_⟩
  intro i hChanged
  rcases hAfter with hSame | ⟨hSize, hTail, hWritten⟩
  · rw [hSame, mounted.memory_recounted hCounted] at hChanged
    exact absurd rfl hChanged
  · rw [hWritten, memory_withMemory] at hChanged
    by_contra hOutside
    -- A byte neither in the tail nor in the slot keeps its value, against the assumption.
    rcases not_or.mp hOutside with ⟨hNotTail, hNotSlot⟩
    refine hChanged (byte_deposited (by omega) ?_)
    by_contra hInSlot
    exact hNotSlot ⟨hTail, hSize, by omega, by omega⟩

/-- Every read stays inside the segment. -/
theorem confinedRead (mounted : r.Mounted s) : r.ConfinedRead s (r.read patience s) := by
  have touches := read_touches mounted patience
  obtain ⟨hInside, counted, hCounted, hAfter⟩ := boundedRead mounted patience
  refine ⟨hInside, (touches.size _).trans mounted.size, touches.others, touches.counts, ?_⟩
  intro i hChanged
  rcases hAfter with hSame | ⟨_, hRead⟩
  · rw [hSame, mounted.memory_recounted hCounted] at hChanged
    exact absurd rfl hChanged
  · rw [hRead, memory_withMemory] at hChanged
    by_contra hOutside
    exact hChanged (byte_collected (by omega))

theorem confinedLook (mounted : r.Mounted s) : r.ConfinedLook s (r.indices s) where
  inside := by
    rw [indices_eq mounted]
    split <;> simp
  memory := mounted.memory_recounted (recounted_indices mounted)
  others := (touches_recounted mounted (recounted_indices mounted)).others

/-! ## Any handle, any history -/

/-- Every call through a handle stays in its segment. -/
structure Confined (r : Ring) (s : Shared) : Prop where
  size : (r.memory s).size = r.segment.size
  fits : r.geometry.segmentSize ≤ r.segment.size
  writes : ∀ payload patience, r.ConfinedWrite payload s (r.write payload patience s)
  reads : ∀ patience, r.ConfinedRead s (r.read patience s)
  looks : r.ConfinedLook s (r.indices s)
  /-- Calls are among the changes that a handle has to put up with from others. -/
  write_evolves : ∀ payload patience, s.Evolves (r.write payload patience s).1
  read_evolves : ∀ patience, s.Evolves (r.read patience s).1
  look_evolves : s.Evolves (r.indices s).1

/-- Everything that is done with a ring stays inside its segment. -/
theorem confined (mounted : r.Mounted s) : r.Confined s where
  size := mounted.size
  fits := mounted.fits
  writes _ _ := confinedWrite mounted
  reads _ := confinedRead mounted
  looks := confinedLook mounted
  write_evolves _ _ := (write_touches mounted _ _).evolves
  read_evolves _ := (read_touches mounted _).evolves
  look_evolves := (recounted_indices mounted).evolves

/-- No access of creating, opening, writing, reading or looking ever lies outside of the segment,
through whatever handle, and after whatever happened to the bytes and counts meanwhile. The slots
of every geometry lie apart from each other and from the header. -/
theorem accesses_confined :
    (∀ name g s, (create name g s).2 ≠ .outside) ∧
      (∀ name policy s, (openNamed name policy s).2 ≠ .outside) ∧
      (∀ {r s₀ s}, Obtained r s₀ → s₀.Evolves s → r.Confined s) ∧
      ∀ g : Geometry, g.WellLaid := by
  refine ⟨create_ne_outside, openNamed_ne_outside, ?_, fun g => g.wellLaid⟩
  intro r s₀ s obtained later
  exact confined (obtained.mounted.evolves later)

/-- A ring that was scribbled over still confines its handle. -/
theorem accesses_confined_scribbled :
    Sample.ring.geometry.slotCount ≤ Sample.ring.tailIndex Sample.scribbled ∧
      Sample.ring.Confined Sample.scribbled :=
  ⟨by decide, accesses_confined.2.2.1 Sample.obtained Sample.scribbled_later⟩

end Ring
end RingBus
