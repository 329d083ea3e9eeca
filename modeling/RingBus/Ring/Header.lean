import RingBus.Host.Memory
import RingBus.Ring.Geometry

/-!
# The header of a ring

What the first 52 bytes of the segment hold: a mark, the version of the format, the geometry, the
index of the next slot to read and of the next one to write, and reserved bytes.
-/

namespace RingBus
namespace Ring

/-- The mark of a ring segment. -/
def magic : UInt32 := 0xA1B2C3D4

def version : UInt32 := 1

/-- Where each number of the header stands. -/
def magicOffset : Nat := 0
def versionOffset : Nat := 4
def slotCountOffset : Nat := 8
def slotSizeOffset : Nat := 12
def headOffset : Nat := 16
def tailOffset : Nat := 20
def reservedOffset : Nat := 24

structure Header where
  magic : UInt32
  version : UInt32
  slotCount : UInt32
  slotSize : UInt32
  /-- The next slot to read. -/
  head : UInt32
  /-- The next slot to write. -/
  tail : UInt32
  reserved : ByteArray

namespace Header

def fresh (g : Geometry) : Header :=
  ⟨Ring.magic, Ring.version, g.slotCount, g.slotSize, 0, 0,
    ⟨Array.replicate (headerSize - reservedOffset) 0⟩⟩

/-- The geometry that a header records, if it is within bounds. -/
def geometry (h : Header) : Except FieldError Geometry :=
  Geometry.check h.slotCount h.slotSize

def bytes (h : Header) : ByteArray :=
  ⟨(Memory.wordBytes h.magic).data ++ (Memory.wordBytes h.version).data ++
    (Memory.wordBytes h.slotCount).data ++ (Memory.wordBytes h.slotSize).data ++
    (Memory.wordBytes h.head).data ++ (Memory.wordBytes h.tail).data ++ h.reserved.data⟩

/-- Reads the header of a segment that is large enough to hold one. -/
def read? (m : Memory) : Option Header :=
  if m.covers 0 headerSize then
    some ⟨m.wordAt magicOffset, m.wordAt versionOffset, m.wordAt slotCountOffset,
      m.wordAt slotSizeOffset, m.wordAt headOffset, m.wordAt tailOffset,
      m.bytesAt reservedOffset (headerSize - reservedOffset)⟩
  else
    none

end Header
end Ring
end RingBus
