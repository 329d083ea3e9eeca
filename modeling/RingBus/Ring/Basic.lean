import RingBus.Ring.Error
import RingBus.Ring.Header
import RingBus.Semaphore.Triplet

/-!
# Rings

A ring is a segment and three semaphores that share its name. Its creator owns the names: they
appear together, and the creator alone removes them. Everyone else opens the ring, which checks
the header against the segment and changes nothing.
-/

namespace RingBus

structure Ring where
  segment : Segment
  semaphores : Triplet
  geometry : Ring.Geometry
  /-- Whether this handle has removed the names. -/
  unlinked : Bool
  deriving DecidableEq

namespace Ring

def name (r : Ring) : RingName :=
  r.segment.name

/-- Whether this handle created the ring. -/
def owner (r : Ring) : Bool :=
  r.segment.owner

def memory (r : Ring) (s : Shared) : Memory :=
  r.segment.memory s

/-- The shared files with other bytes in the ring's segment. -/
def withMemory (r : Ring) (s : Shared) (m : Memory) : Shared :=
  s.set r.segment.id m

/-! ## Creating -/

/-- Creates a ring: the segment with its header, then the semaphores. If these cannot be created,
the name of the segment is removed again. -/
def create (name : RingName) (g : Geometry) (s : Shared) : Shared × Reply Ring :=
  match Segment.create name g.segmentSize s with
  | .error e => (s, .failed (.segment e))
  | .ok (s, segment) =>
    match (segment.memory s).write? 0 (Header.fresh g).bytes with
    | none => (s, .outside)
    | some m =>
      match Triplet.create name.text g.slotCount (s.set segment.id m) with
      | (s, .error e) => ((segment.unlink s).1, .failed (.semaphore e))
      | (s, .ok triplet) => (s, .value ⟨segment, triplet, g, false⟩)

/-! ## Opening -/

/-- The geometry that the header of a segment records, if it is the header of a ring whose slots
all lie in the segment. -/
def recordedGeometry (segment : Segment) (s : Shared) : Reply Geometry :=
  if segment.size < headerSize then
    .failed (.segment (.tooSmall segment.name segment.size headerSize))
  else
    match Header.read? (segment.memory s) with
    | none => .outside
    | some header =>
      if header.magic ≠ magic then .failed (.badMagic segment.name header.magic)
      else if header.version ≠ version then
        .failed (.unsupportedVersion segment.name header.version)
      else
        match header.geometry with
        | .error e => .failed (.invalidGeometry e)
        | .ok g =>
          if segment.size < g.segmentSize then
            .failed (.segment (.tooSmall segment.name segment.size g.segmentSize))
          else .value g

/-- Opens the ring of a name, waiting for its semaphores as long as the policy allows. What was
opened by then is dropped when something turns out to be amiss. -/
def openNamed (name : RingName) (policy : RetryPolicy) (s : Shared) : Shared × Reply Ring :=
  match Segment.openNamed name s with
  | (s, .error e) => (s, .failed (.segment e))
  | (s, .ok segment) =>
    match recordedGeometry segment s with
    | .failed e => (segment.close s, .failed e)
    | .blocked => (segment.close s, .blocked)
    | .outside => (segment.close s, .outside)
    | .value g =>
      match Triplet.openWith name.text policy s with
      | (s, .error e) => (segment.close s, .failed (.semaphore e))
      | (s, .ok triplet) => (s, .value ⟨segment, triplet, g, false⟩)

/-- Creates a ring, or opens an existing one and goes by the geometry that its header records. -/
def createOrOpen (name : RingName) (slotCount slotSize : UInt32) (toCreate : Bool) (s : Shared) :
    Shared × Reply Ring :=
  if toCreate then
    match Geometry.check slotCount slotSize with
    | .error e => (s, .failed (.invalidGeometry e))
    | .ok g => create name g s
  else openNamed name .standard s

/-! ## Removing the names and dropping handles -/

/-- Removes the four names, if this handle created the ring and has not done so before. Tells
whether it did. -/
def unlink (r : Ring) (s : Shared) : Shared × Ring × Reply Bool :=
  if r.owner && !r.unlinked then
    let (s, result) := r.semaphores.unlink s
    let (s, segment, _) := r.segment.unlink s
    let after := { r with segment := segment, unlinked := true }
    (s, after, match result with
      | .ok () => .value true
      | .error e => .failed (.semaphore e))
  else
    (s, r, .value false)

/-- Drops a handle, which removes nothing. -/
def close (r : Ring) (s : Shared) : Shared :=
  r.semaphores.close (r.segment.close s)

/-! ## Looking -/

def freeSlots (r : Ring) (s : Shared) : Nat :=
  r.semaphores.free.value s

def filledSlots (r : Ring) (s : Shared) : Nat :=
  r.semaphores.filled.value s

end Ring
end RingBus
