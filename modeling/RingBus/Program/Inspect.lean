import RingBus.Program.Exit
import RingBus.Ring.Transfer

/-!
# Looking at a ring
-/

namespace RingBus
namespace Program

/-- What is known about a ring. -/
def describeRing (r : Ring) (head tail : UInt32) (s : Shared) : String :=
  lines
    [s!"Ring {r.name.text}",
     s!"  Magic:         {Text.hexWord Ring.magic.toNat}",
     s!"  Version:       {Ring.version}",
     s!"  Slot Count:    {r.geometry.slotCount}",
     s!"  Slot Size:     {r.geometry.slotSize} bytes",
     s!"  Segment Size:  {r.geometry.segmentSize} bytes",
     s!"  Head:          {head}",
     s!"  Tail:          {tail}",
     "",
     "Semaphores:",
     s!"  Free:          {r.freeSlots s}",
     s!"  Filled:        {r.filledSlots s}"]

/-- Opens a ring without waiting for anything and tells what is known about it. There is no end if
somebody keeps the ring's mutex. -/
def inspect? (name : String) (s : Shared) : Shared × Option Exit :=
  match RingName.ofString name with
  | .error e => (s, some (.failure "" (.field e)))
  | .ok name =>
    match Ring.openNamed name .once s with
    | (s, .failed e) => (s, some (.failure "" (.ring e)))
    | (s, .value r) =>
      match r.indices s with
      | (s, .value (head, tail)) => (s, some (.success (describeRing r head tail s)))
      | (s, .failed e) => (s, some (.failure "" (.ring e)))
      | (s, _) => (s, none)
    | (s, _) => (s, none)

end Program
end RingBus
