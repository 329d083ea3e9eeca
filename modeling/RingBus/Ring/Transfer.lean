import RingBus.Ring.Basic

/-!
# Writing to and reading from a ring

A writer takes a unit of `free`, copies its payload into the slot at the tail while it holds the
mutex, and gives a unit to `filled`. A reader does the same the other way round. Whoever cannot
finish gives back what it took.
-/

namespace RingBus

/-- How long a caller is willing to wait for a unit. -/
inductive Patience
  | forever
  | none
  | upTo (limit : Duration)
  deriving DecidableEq, Repr

namespace Ring

/-- What asking for a unit comes to. -/
inductive Request
  | taken (after : Shared)
  | unavailable
  | blocked

/-- Asks for a unit. If there is none, nobody in this world adds one while the caller waits: a
limited wait runs out, an unlimited one never ends. -/
def request (sem : Semaphore) (patience : Patience) (all : Shared) : Request :=
  match sem.take? all, patience with
  | some after, _ => .taken after
  | none, .forever => .blocked
  | none, _ => .unavailable

def next (g : Geometry) (index : UInt32) : UInt32 :=
  (index + 1) % g.slotCount

/-! ## Writing -/

/-- The memory with a payload in slot `index` and the tail moved on. -/
def deposit? (g : Geometry) (m : Memory) (index : UInt32) (payload : ByteArray) :
    Option Memory := do
  let offset := g.slotOffset index.toNat
  let m ← m.writeWord? offset (UInt32.ofNat payload.size)
  let m ← m.write? (offset + lengthSize) payload
  m.writeWord? tailOffset (next g index)

/-- Copies a payload into the slot at the tail and publishes it. The caller holds a unit of
`free`, which is given back if nothing can be copied. -/
def store (r : Ring) (payload : ByteArray) (s : Shared) : Shared × Reply Unit :=
  match r.semaphores.mutex.take? s with
  | none => (s, .blocked)
  | some held =>
    let m := r.memory held
    match m.readWord? tailOffset with
    | none => (s, .outside)
    | some index =>
      if r.geometry.slotCount ≤ index then
        (r.semaphores.free.giveBack (r.semaphores.mutex.giveBack held),
          .failed (.corrupt r.name (.tail index.toNat r.geometry.slotCount.toNat)))
      else
        match deposit? r.geometry m index payload with
        | none => (s, .outside)
        | some m =>
          let released := r.semaphores.mutex.giveBack (r.withMemory held m)
          match r.semaphores.filled.signal released with
          | .ok s => (s, .value ())
          | .error e => (released, .failed (.semaphore e))

/-- Writes one message. A payload that does not fit is turned down before anything is touched. -/
def write (r : Ring) (payload : ByteArray) (patience : Patience) (s : Shared) :
    Shared × Reply Unit :=
  if r.geometry.slotSize.toNat < payload.size then
    (s, .failed (.payloadTooLarge payload.size r.geometry.slotSize.toNat))
  else
    match request r.semaphores.free patience s with
    | .blocked => (s, .blocked)
    | .unavailable => (s, .failed .full)
    | .taken s => r.store payload s

/-! ## Reading -/

/-- The payload in slot `index`, and the memory with the head moved on. -/
def collect? (g : Geometry) (m : Memory) (index : UInt32) (length : Nat) :
    Option (Memory × ByteArray) := do
  let payload ← m.read? (g.slotOffset index.toNat + lengthSize) length
  let m ← m.writeWord? headOffset (next g index)
  return (m, payload)

/-- Copies the payload out of the slot at the head and releases the slot. The caller holds a unit
of `filled`, which is given back if nothing can be read. -/
def load (r : Ring) (s : Shared) : Shared × Reply ByteArray :=
  match r.semaphores.mutex.take? s with
  | none => (s, .blocked)
  | some held =>
    let m := r.memory held
    let refuse := fun (corruption : RingCorruption) =>
      (r.semaphores.filled.giveBack (r.semaphores.mutex.giveBack held),
        Reply.failed (.corrupt r.name corruption))
    match m.readWord? headOffset with
    | none => (s, .outside)
    | some index =>
      if r.geometry.slotCount ≤ index then
        refuse (.head index.toNat r.geometry.slotCount.toNat)
      else
        match m.readWord? (r.geometry.slotOffset index.toNat) with
        | none => (s, .outside)
        | some length =>
          if r.geometry.slotSize < length then
            refuse (.length index.toNat length.toNat r.geometry.slotSize.toNat)
          else
            match collect? r.geometry m index length.toNat with
            | none => (s, .outside)
            | some (m, payload) =>
              let released := r.semaphores.mutex.giveBack (r.withMemory held m)
              match r.semaphores.free.signal released with
              | .ok s => (s, .value payload)
              | .error e => (released, .failed (.semaphore e))

/-- Reads the oldest message, or nothing if the wait for one runs out. -/
def read (r : Ring) (patience : Patience) (s : Shared) : Shared × Reply (Option ByteArray) :=
  match request r.semaphores.filled patience s with
  | .blocked => (s, .blocked)
  | .unavailable => (s, .value none)
  | .taken s =>
    match r.load s with
    | (s, .value payload) => (s, .value (some payload))
    | (s, .failed e) => (s, .failed e)
    | (s, .blocked) => (s, .blocked)
    | (s, .outside) => (s, .outside)

/-! ## Looking -/

/-- The indices of the next slot to read and of the next one to write. The mutex is taken, the two
words are read, and the mutex is given back. -/
def indices (r : Ring) (s : Shared) : Shared × Reply (UInt32 × UInt32) :=
  match r.semaphores.mutex.take? s with
  | none => (s, .blocked)
  | some held =>
    let m := r.memory held
    let reply : Reply (UInt32 × UInt32) :=
      match m.readWord? headOffset, m.readWord? tailOffset with
      | some head, some tail => .value (head, tail)
      | _, _ => .outside
    (r.semaphores.mutex.giveBack held, reply)

end Ring
end RingBus
