import Mathlib.Logic.Function.Basic
import RingBus.Proofs.Kernel
import RingBus.Ring.Transfer

/-!
# A bounded queue

What a ring is to those who use it: messages come out in the order in which they went in, and as
many of them wait as there are slots at most. Others may hold units of `free` and `filled`. As long
as they do, fewer messages can be put in or taken out, but none is lost.
-/

namespace RingBus
namespace Ring

/-- One thing that happens around a ring, with what is answered. -/
inductive Event
  | write (payload : ByteArray) (patience : Patience) (reply : Reply Unit)
  | read (patience : Patience) (reply : Reply (Option ByteArray))
  | indices (reply : Reply (UInt32 × UInt32))
  | freeSlots (units : Nat)
  | filledSlots (units : Nat)
  /-- Somebody gets a handle on the ring. -/
  | openRing
  /-- Somebody gets a handle on one of its semaphores. -/
  | openSemaphore (role : SemaphoreRole)
  /-- A unit is taken through such a handle. -/
  | take (role : SemaphoreRole)
  /-- A unit that was taken is given back. -/
  | giveBack (role : SemaphoreRole)

/-- Messages that wait in a ring. -/
structure Queue where
  /-- The messages, oldest first. -/
  items : List ByteArray
  /-- How many messages were read so far. -/
  taken : Nat
  /-- The units of each semaphore that others hold. -/
  held : SemaphoreRole → Nat

namespace Queue

/-- The queue of a new ring. -/
def empty : Queue :=
  ⟨[], 0, fun _ => 0⟩

variable (g : Geometry) (q : Queue)

/-- How many messages can be written right now. -/
def room : Nat :=
  g.slotCount.toNat - q.items.length - q.held .free

/-- How many messages can be read right now. -/
def ready : Nat :=
  q.items.length - q.held .filled

/-- The slot of the oldest message. -/
def head : Nat :=
  q.taken % g.slotCount.toNat

/-- The slot of the next message. -/
def tail : Nat :=
  (q.taken + q.items.length) % g.slotCount.toNat

/-- Appends a message that fits if there is room. -/
def write (payload : ByteArray) (patience : Patience) : Queue × Reply Unit :=
  if g.slotSize.toNat < payload.size then
    (q, .failed (.payloadTooLarge payload.size g.slotSize.toNat))
  else if q.room g = 0 then (q, if patience = .forever then .blocked else .failed .full)
  else ({ q with items := q.items ++ [payload] }, .value ())

/-- Removes the oldest message if one can be read. -/
def read (patience : Patience) : Queue × Reply (Option ByteArray) :=
  match q.ready, q.items with
  | _ + 1, oldest :: rest =>
    ({ q with items := rest, taken := q.taken + 1 }, .value (some oldest))
  | _, _ => (q, if patience = .forever then .blocked else .value none)

/-- The units that others can take. The mutex is not among them. -/
def units : SemaphoreRole → Nat
  | .free => q.room g
  | .filled => q.ready
  | .mutex => 0

/-- What happens to a queue, and what it answers. -/
inductive Step : Queue → Event → Queue → Prop
  | write {q : Queue} (payload : ByteArray) (patience : Patience) :
      Step q (.write payload patience (q.write g payload patience).2)
        (q.write g payload patience).1
  | read {q : Queue} (patience : Patience) :
      Step q (.read patience (q.read patience).2) (q.read patience).1
  | indices {q : Queue} :
      Step q (.indices (.value (UInt32.ofNat (q.head g), UInt32.ofNat (q.tail g)))) q
  | freeSlots {q : Queue} : Step q (.freeSlots (q.room g)) q
  | filledSlots {q : Queue} : Step q (.filledSlots q.ready) q
  | openRing {q : Queue} : Step q .openRing q
  | openSemaphore {q : Queue} (role : SemaphoreRole) : Step q (.openSemaphore role) q
  | take {q : Queue} (role : SemaphoreRole) :
      0 < q.units g role →
      Step q (.take role) { q with held := Function.update q.held role (q.held role + 1) }
  | giveBack {q : Queue} (role : SemaphoreRole) :
      0 < q.held role →
      Step q (.giveBack role) { q with held := Function.update q.held role (q.held role - 1) }

end Queue

end Ring
end RingBus
