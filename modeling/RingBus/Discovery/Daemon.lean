import RingBus.Discovery.Datagram
import RingBus.Discovery.Error
import RingBus.Discovery.Registry
import RingBus.Host.Basic

/-!
# The daemon

The daemon receives datagrams one after the other, lets each change its registry, and tells those
concerned. Whoever cannot be reached may be forgotten on the spot; the other notifications are sent
all the same.
-/

namespace RingBus

structure Daemon where
  socket : Nat
  endpoint : Endpoint
  registry : Registry
  /-- Whether it forgets whom it cannot reach. -/
  evicts : Bool

/-- What sending one notification comes to. -/
inductive Outcome
  | sent
  /-- There is nobody at the endpoint. -/
  | unreachable
  | failed
  /-- The queue at the endpoint stayed full. -/
  | timedOut
  deriving DecidableEq, Repr

/-- Nobody is at an endpoint without a file, or with a file that nobody listens at. -/
def Outcome.ofSent : Sent → Outcome
  | .delivered => .sent
  | .failed (.kernel .noEntry) => .unreachable
  | .failed (.kernel .refused) => .unreachable
  | .failed _ => .failed
  | .queueFull => .timedOut

def Host.notify (h : Host) (n : Notification) : Host × Outcome :=
  let (h, sent) := h.send n.recipient.text n.message.encode
  (h, .ofSent sent)

namespace Daemon

/-! ## Starting and stopping -/

/-- Starts a daemon at an endpoint, in place of what is there. -/
def bind (endpoint : Endpoint) (evicts : Bool) (h : Host) : Host × Except DiscoveryError Daemon :=
  match h.takeOver endpoint.text with
  | (h, .ok socket) => (h, .ok ⟨socket, endpoint, Registry.empty, evicts⟩)
  | (h, .error e) => (h, .error (.bind endpoint.text e))

/-- Stops a daemon. Whatever file is at its endpoint is removed. -/
def close (d : Daemon) (h : Host) : Host :=
  (h.removeFile d.endpoint.text).close d.socket

/-! ## Serving -/

/-- Acts on one datagram, and tells what has to be sent. A datagram that is no message changes
nothing. -/
def handle (d : Daemon) (datagram : ByteArray) : Daemon × List Notification :=
  match Datagram.parse datagram with
  | .ok message =>
    let (registry, notifications) := d.registry.handle message
    ({ d with registry }, notifications)
  | .error _ => (d, [])

/-- Sends notifications in order, each of them once, whatever became of those before it. -/
def deliver {σ : Type} (send : σ → Notification → σ × Outcome) (evicts : Bool) :
    List Notification → σ → Registry → σ × Registry
  | [], state, registry => (state, registry)
  | n :: rest, state, registry =>
    let (state, outcome) := send state n
    let registry :=
      if evicts && outcome == .unreachable then registry.evict n.recipient else registry
    deliver send evicts rest state registry

/-- Receives the oldest queued datagram and does what it asks for. -/
def serveNext? (d : Daemon) (h : Host) : Option (Daemon × Host) :=
  match h.receive? d.socket Datagram.bufferSize with
  | none => none
  | some (h, datagram) =>
    let (d, notifications) := d.handle datagram
    let (h, registry) := deliver Host.notify d.evicts notifications h d.registry
    some ({ d with registry }, h)

/-- Serves as many datagrams as are queued, but at most `n`. -/
def serve : Nat → Daemon → Host → Daemon × Host
  | 0, d, h => (d, h)
  | n + 1, d, h =>
    match d.serveNext? h with
    | none => (d, h)
    | some (d, h) => serve n d h

end Daemon
end RingBus
