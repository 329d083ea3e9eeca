import RingBus.FieldError

/-!
# The geometry of a ring

A ring is a header of 52 bytes followed by slots of equal size; in front of each slot stand four
bytes for the length of its payload.
-/

namespace RingBus

namespace Ring

def maxSlotCount : Nat := 65536

def maxSlotSize : Nat := 16777216

def headerSize : Nat := 52

/-- The bytes that hold the length of a payload. -/
def lengthSize : Nat := 4

/-- How many slots a ring has and how many payload bytes fit in each. -/
structure Geometry where
  slotCount : UInt32
  slotSize : UInt32
  slotCount_pos : 1 ≤ slotCount.toNat
  slotCount_le : slotCount.toNat ≤ maxSlotCount
  slotSize_pos : 1 ≤ slotSize.toNat
  slotSize_le : slotSize.toNat ≤ maxSlotSize
  deriving DecidableEq, Repr

namespace Geometry

/-- Accepts a geometry within bounds, or tells the first number that is out of them. -/
def check (slotCount slotSize : UInt32) : Except FieldError Geometry :=
  if hc : 1 ≤ slotCount.toNat ∧ slotCount.toNat ≤ maxSlotCount then
    if hs : 1 ≤ slotSize.toNat ∧ slotSize.toNat ≤ maxSlotSize then
      .ok ⟨slotCount, slotSize, hc.1, hc.2, hs.1, hs.2⟩
    else
      .error (.outOfBounds "slot_size" slotSize.toNat 1 maxSlotSize)
  else
    .error (.outOfBounds "slot_count" slotCount.toNat 1 maxSlotCount)

/-- The bytes of one slot with its length. -/
def stride (g : Geometry) : Nat :=
  lengthSize + g.slotSize.toNat

/-- Where slot `index` begins. -/
def slotOffset (g : Geometry) (index : Nat) : Nat :=
  headerSize + index * g.stride

def segmentSize (g : Geometry) : Nat :=
  headerSize + g.slotCount.toNat * g.stride

/-- A slot of the ring ends inside the segment. -/
theorem slotOffset_add_stride_le (g : Geometry) {index : Nat} (h : index < g.slotCount.toNat) :
    g.slotOffset index + g.stride ≤ g.segmentSize := by
  have h1 : (index + 1) * g.stride ≤ g.slotCount.toNat * g.stride := Nat.mul_le_mul_right _ h
  rw [Nat.add_mul] at h1
  simp only [slotOffset, segmentSize]
  omega

end Geometry
end Ring
end RingBus
