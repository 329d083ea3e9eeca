import RingBus.Segment
import RingBus.Semaphore.Basic

/-!
# What can go wrong with a ring
-/

namespace RingBus

/-- How the numbers in a segment contradict its geometry. -/
inductive RingCorruption
  | head (index slotCount : Nat)
  | tail (index slotCount : Nat)
  | length (index bytes slotSize : Nat)
  deriving DecidableEq, Repr

def RingCorruption.reason : RingCorruption → String
  | .head index slotCount => s!"head {index} >= slot_count {slotCount}"
  | .tail index slotCount => s!"tail {index} >= slot_count {slotCount}"
  | .length index bytes slotSize => s!"slot {index} length {bytes} > slot_size {slotSize}"

inductive RingError
  | segment (e : SegmentError)
  | badMagic (name : RingName) (found : UInt32)
  | unsupportedVersion (name : RingName) (found : UInt32)
  | invalidGeometry (e : FieldError)
  | corrupt (name : RingName) (corruption : RingCorruption)
  | payloadTooLarge (size max : Nat)
  | full
  | semaphore (e : SemaphoreError)
  deriving DecidableEq

namespace RingError

def message : RingError → String
  | .segment e => e.message
  | .badMagic name found => s!"Bad ring magic in {name.text}: found {Text.hexWord found.toNat}"
  | .unsupportedVersion name found =>
    s!"Unsupported ring format version in {name.text}: {found.toNat}"
  | .invalidGeometry e => s!"Invalid ring geometry: {e.message}"
  | .corrupt name corruption => s!"Corrupt ring state in {name.text}: {corruption.reason}"
  | .payloadTooLarge size max => s!"Payload size exceeds slot size: {size} > {max}"
  | .full => "Ring buffer full - no free slot"
  | .semaphore e => e.message

def spelledOut : RingError → String
  | .segment e => e.spelledOut
  | .badMagic name found =>
    Text.record "BadMagic" [("name", Text.quoted name.text), ("found", toString found.toNat)]
  | .unsupportedVersion name found =>
    Text.record "UnsupportedVersion"
      [("name", Text.quoted name.text), ("found", toString found.toNat)]
  | .invalidGeometry e => Text.record "InvalidGeometry" [("reason", Text.quoted e.message)]
  | .corrupt name corruption =>
    Text.record "CorruptState"
      [("name", Text.quoted name.text), ("reason", Text.quoted corruption.reason)]
  | .payloadTooLarge size max =>
    Text.record "PayloadTooLarge" [("size", toString size), ("max", toString max)]
  | .full => "RingBufferFull"
  | .semaphore e => Text.wrapped "Semaphore" e.spelledOut

end RingError

/-- What a call on a ring comes to. -/
inductive Reply (α : Type)
  | value (a : α)
  | failed (e : RingError)
  /-- The caller waits for something that nobody else in this world will do. -/
  | blocked
  /-- The call touched bytes beyond the end of the segment. -/
  | outside
  deriving DecidableEq

end RingBus
