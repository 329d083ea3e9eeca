import RingBus.Config.File
import RingBus.Discovery.Client
import RingBus.Program.Arguments
import RingBus.Program.Exit
import RingBus.Ring.Transfer

/-!
# Producing messages

A producer creates a ring of its own, registers it under a key and writes numbered messages into
it, with a rest between one and the next. However the run ends, the registration is withdrawn and
the names of the ring are removed.
-/

namespace RingBus
namespace Program

/-! ## Writing -/

def messageText (n : Nat) : String :=
  s!"Message {n}"

/-- How far the writing has come. -/
inductive Writing
  /-- So many messages were written, and the next one is due. -/
  | underway (written : Nat)
  /-- The last message was written, or the writing was stopped. -/
  | finished (written : Nat)
  | failed (e : RingError)
  deriving DecidableEq

namespace Writing

/-- How long one attempt waits for a free slot. -/
def patience : Patience :=
  .upTo (.ofMillis 200)

/-- One attempt to write the next message. A full ring only means that it has to be made again. -/
def attempt (ring : Ring) (count : Nat) (stopped : Bool) (w : Writing) (s : Shared) :
    Writing × Shared :=
  match w with
  | .underway written =>
    if written < count ∧ stopped = false then
      match ring.write (messageText written).toByteArray patience s with
      | (s, .value ()) => (.underway (written + 1), s)
      | (s, .failed .full) => (.underway written, s)
      | (s, .failed e) => (.failed e, s)
      | (s, _) => (.underway written, s)
    else (.finished written, s)
  | w => (w, s)

/-- Whether no attempt is left to make. -/
def isOver : Writing → Bool
  | .underway _ => false
  | _ => true

end Writing

/-! ## The producer -/

structure Producer where
  ring : Ring
  client : Client
  /-- What it registers under. -/
  key : ServiceKey
  count : Nat
  /-- How long it rests after each message but the last, in milliseconds. -/
  interval : Nat
  writing : Writing
  /-- How much of a rest is left. -/
  rest : Nat
  stopped : Bool
  output : String

/-- What starting a job comes to. -/
inductive Start (σ : Type)
  | running (job : σ)
  | ended (exit : Exit)
  /-- It waits for others. -/
  | waiting

namespace Producer

/-- The number that takes the place of a configured one. -/
def override (given : Option Nat) (configured : UInt32) : UInt32 :=
  (given.map UInt32.ofNat).getD configured

/-- Gives up after the ring was created: its names are removed again. -/
def giveUp (ring : Ring) (why : DiscoveryError) (h : Host) : Host × Start Producer :=
  match ring.unlink h.shared with
  | (shared, _, .failed e) => ({ h with shared }, .ended (.failure "" (.ring e)))
  | (shared, _, _) => ({ h with shared }, .ended (.failure "" (.discovery why)))

/-- Creates the ring of a producer and opens its socket. -/
def launch (config : Config) (key : ServiceKey) (name : RingName) (geometry : Ring.Geometry)
    (process : String) (count interval : Nat) (h : Host) : Host × Start Producer :=
  match Ring.create name geometry h.shared with
  | (shared, .value ring) =>
    let h := { h with shared }
    match Client.bind config.socketDir "producer" process 0 config.socketPath h with
    | (h, .error e) => giveUp ring e h
    | (h, .ok client) =>
      (h, .running ⟨ring, client, key, count, interval, .underway 0, 0, false, ""⟩)
  | (shared, .failed e) => ({ h with shared }, .ended (.failure "" (.ring e)))
  | (shared, _) => ({ h with shared }, .waiting)

/-- What a producer says when it is registered. -/
def greeting (p : Producer) : String :=
  line s!"▶ Producing {p.count} messages on {p.key.text} ({p.ring.name.text})"

def enroll (p : Producer) (h : Host) : Host × Start Producer :=
  match p.client.register p.key (some p.ring.name) h with
  | (client, h, .sent) => (h, .running { p with client, output := p.output ++ p.greeting })
  | (client, h, .failed e) =>
    let (h, start) := giveUp p.ring e h
    (client.close h, start)
  | (_, h, .blocked) => (h, .waiting)

/-- Starts a producer, which is going to register. -/
def start (configFile : String) (options : ProduceOptions) (process : String) (h : Host) :
    Host × Start Producer :=
  let prepared : Except Failure (Config × ServiceKey × RingName × Ring.Geometry) := do
    let config ← (Config.loadOrDefault h.files configFile).mapError .config
    let key ← (ServiceKey.ofString options.service).mapError .field
    let geometry ← (Ring.Geometry.check (override options.slots config.geometry.slotCount)
      (override options.slotSize config.geometry.slotSize)).mapError .field
    let name ← (RingName.derived "shmbus" key process).mapError .field
    return (config, key, name, geometry)
  match prepared with
  | .error why => (h, .ended (.failure "" why))
  | .ok (config, key, name, geometry) =>
    launch config key name geometry process options.count options.intervalMillis h

/-- How long a producer rests when its writing has come this far. -/
def restAfter (p : Producer) (writing : Writing) : Nat :=
  match writing with
  | .underway written => if writing ≠ p.writing ∧ written < p.count then p.interval else 0
  | _ => 0

/-- Makes one attempt to write. A rest follows if a message was written and more are to come. -/
def write (p : Producer) (h : Host) : Producer × Host :=
  let (writing, shared) := p.writing.attempt p.ring p.count p.stopped h.shared
  ({ p with writing, rest := p.restAfter writing }, { h with shared })

/-- Says who has joined, if there is word of anybody. -/
def hear? (p : Producer) (h : Host) : Option (Producer × Host) :=
  match p.client.nextPeer? h with
  | (_, none) => none
  | (h, some event) =>
    some ({ p with output := p.output ++ line s!"  ● Peer joined: {event.peer.endpoint.text}" }, h)

def interrupt (p : Producer) : Producer :=
  { p with stopped := true, output := p.output ++ lines ["", "Shutting down..."] }

/-- Withdraws everything after the last attempt. -/
def finish (p : Producer) (h : Host) : Host × Exit :=
  let (client, h) := p.client.deregisterAll h
  let (shared, _, unlinked) := p.ring.unlink h.shared
  let h := client.close { h with shared }
  match unlinked, p.writing with
  | .failed e, _ => (h, .failure p.output (.ring e))
  | _, .failed e => (h, .failure p.output (.ring e))
  | _, .underway written | _, .finished written =>
    let last := s!"✓ Wrote {written} messages, ring {p.ring.name.text} removed"
    (h, .success (p.output ++ line last))

end Producer
end Program
end RingBus
