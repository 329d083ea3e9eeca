import RingBus.Config.File
import RingBus.Discovery.Client
import RingBus.Program.Exit
import RingBus.Program.Produce
import RingBus.Ring.Transfer

/-!
# Consuming messages

A consumer registers under a key and reads from the ring of every peer it hears of, each with a
reader of its own. Before a reader takes a message out of a ring it reserves one unit of a common
budget, and gives it back if there was no message; so no more messages than allowed ever leave the
rings. What was taken out is printed, also after the consumer was asked to stop.
-/

namespace RingBus
namespace Program

/-- A message, and the ring that it came from. -/
structure Received where
  ring : RingName
  payload : ByteArray

/-- A message as it is printed. What is not text shows as a replacement character. -/
def Received.line (r : Received) : String :=
  Program.line s!"  [{r.ring.text}] {Text.lossy r.payload}"

/-! ## Readers -/

/-- Where a reader is in its round. -/
inductive Phase
  /-- It is about to see whether it has to stop. -/
  | idle
  /-- It is about to reserve a unit of the budget. -/
  | eager
  /-- It holds a unit of the budget. -/
  | reserved
  /-- It has taken a message out of its ring, which the unit was for. -/
  | holding (payload : ByteArray)
  /-- It holds a unit that is good for nothing. If reading failed, it stops next. -/
  | emptyHanded (failed : Bool)

inductive ReaderState
  /-- It is going to open the ring of a peer. -/
  | opening (event : PeerEvent)
  | reading (ring : Ring) (phase : Phase)
  | stopped

namespace ReaderState

def isStopped : ReaderState → Bool
  | .stopped => true
  | _ => false

def isOpening : ReaderState → Bool
  | .opening _ => true
  | _ => false

/-- Where a reader is in its round, if it has a ring to read from. -/
def phase? : ReaderState → Option Phase
  | .reading _ phase => some phase
  | _ => none

end ReaderState

/-- A reader of the ring of some name. -/
structure RingReader where
  name : RingName
  state : ReaderState

/-- How long a reader waits for a message. -/
def readPatience : Patience :=
  .upTo (.ofMillis 200)

/-! ## The consumer -/

structure Consumer where
  client : Client
  /-- What it registers under. -/
  key : ServiceKey
  retry : RetryPolicy
  /-- Where it stops by itself. -/
  max : Option Nat
  /-- How many messages may still be taken out of the rings. -/
  budget : UInt64
  opened : List RingName
  readers : List RingReader
  /-- What readers have passed on and was not yet printed. -/
  channel : List Received
  received : Nat
  stopping : Bool
  output : String

namespace Consumer

/-- The budget of a consumer that stops after `max` messages, if ever. -/
def initialBudget (max : Option Nat) : UInt64 :=
  match max with
  | some n => UInt64.ofNat n
  | none => UInt64.ofNat (UInt64.size - 1)

def start (configFile service : String) (max : Option Nat) (process : String) (h : Host) :
    Host × Start Consumer :=
  let prepared : Except Failure (Config × ServiceKey) := do
    let config ← (Config.loadOrDefault h.files configFile).mapError .config
    let key ← (ServiceKey.ofString service).mapError .field
    return (config, key)
  match prepared with
  | .error why => (h, .ended (.failure "" why))
  | .ok (config, key) =>
    match Client.bind config.socketDir "consumer" process 0 config.socketPath h with
    | (h, .error e) => (h, .ended (.failure "" (.discovery e)))
    | (h, .ok client) =>
      (h, .running ⟨client, key, config.retry, max, initialBudget max, [], [], [], 0, false, ""⟩)

def enroll (c : Consumer) (h : Host) : Host × Start Consumer :=
  match c.client.register c.key none h with
  | (client, h, .sent) =>
    let greeting := lines [s!"▶ Waiting for producers of {c.key.text}", "Press Ctrl+C to stop..."]
    (h, .running { c with client, output := c.output ++ greeting })
  | (client, h, .failed e) => (client.close h, .ended (.failure "" (.discovery e)))
  | (_, h, .blocked) => (h, .waiting)

/-! ## Steps of the readers -/

def setReader (c : Consumer) (i : Nat) (state : ReaderState) : Consumer :=
  { c with readers := c.readers.modify i fun r => { r with state } }

/-- A reader opens its ring. If that fails, it stops. -/
def openRing (c : Consumer) (i : Nat) (event : PeerEvent) (s : Shared) : Consumer × Shared :=
  match event.openRing c.retry s with
  | (s, .value (some ring)) => (c.setReader i (.reading ring .idle), s)
  | (s, _) => (c.setReader i .stopped, s)

/-- A reader begins its round, unless it has to stop. -/
def look (c : Consumer) (i : Nat) (ring : Ring) : Consumer :=
  c.setReader i (if c.stopping then .stopped else .reading ring .eager)

/-- A reader reserves a unit. If none is left, its round is over. -/
def reserve (c : Consumer) (i : Nat) (ring : Ring) : Consumer :=
  if c.budget = 0 then c.setReader i (.reading ring .idle)
  else { c.setReader i (.reading ring .reserved) with budget := c.budget - 1 }

/-- A reader with a unit takes a message out of its ring, if there is one. -/
def take (c : Consumer) (i : Nat) (ring : Ring) (s : Shared) : Consumer × Shared :=
  match ring.read readPatience s with
  | (s, .value (some payload)) => (c.setReader i (.reading ring (.holding payload)), s)
  | (s, .value none) => (c.setReader i (.reading ring (.emptyHanded false)), s)
  | (s, .failed _) => (c.setReader i (.reading ring (.emptyHanded true)), s)
  | (s, _) => (c, s)

/-- A reader with a message passes it on. -/
def pass (c : Consumer) (i : Nat) (ring : Ring) (payload : ByteArray) : Consumer :=
  { c.setReader i (.reading ring .idle) with channel := c.channel ++ [⟨ring.name, payload⟩] }

/-- A reader without a message gives its unit back. -/
def giveBack (c : Consumer) (i : Nat) (ring : Ring) (failed : Bool) : Consumer :=
  let state := if failed then .stopped else .reading ring .idle
  { c.setReader i state with budget := c.budget + 1 }

/-- The next step of reader number `i`. -/
def readerStep (c : Consumer) (i : Nat) (s : Shared) : Consumer × Shared :=
  match c.readers[i]?.map RingReader.state with
  | none => (c, s)
  | some state =>
    match state with
    | .opening event => c.openRing i event s
    | .reading ring .idle => (c.look i ring, s)
    | .reading ring .eager => (c.reserve i ring, s)
    | .reading ring .reserved => c.take i ring s
    | .reading ring (.holding payload) => (c.pass i ring payload, s)
    | .reading ring (.emptyHanded failed) => (c.giveBack i ring failed, s)
    | .stopped => (c, s)

/-- So many steps of reader number `i`. -/
def readerSteps (i : Nat) : Nat → Consumer × Shared → Consumer × Shared
  | 0, w => w
  | n + 1, w => readerSteps i n (w.1.readerStep i w.2)

/-! ## Steps of the main loop -/

/-- Whether as many messages as allowed were printed. -/
def isSatisfied (c : Consumer) : Bool :=
  c.max.any fun max => decide (max ≤ c.received)

/-- Begins to read from the ring of a peer, unless it is read from already. -/
def meet (c : Consumer) (event : PeerEvent) : Consumer :=
  match event.peer.ring with
  | none => c
  | some name =>
    if c.opened.contains name then c
    else
      { c with
        opened := name :: c.opened
        readers := c.readers ++ [⟨name, .opening event⟩]
        output := c.output ++
          line s!"  ● Producer found: {event.peer.endpoint.text} ({name.text})" }

/-- Meets the next peer, if there is word of any. -/
def hear? (c : Consumer) (h : Host) : Option (Consumer × Host) :=
  match c.client.nextPeer? h with
  | (_, none) => none
  | (h, some event) => some (c.meet event, h)

def print (c : Consumer) (r : Received) : Consumer :=
  { c with received := c.received + 1, output := c.output ++ r.line }

/-- Prints the message that was passed on first, if there is one. -/
def printNext? (c : Consumer) : Option Consumer :=
  match c.channel with
  | [] => none
  | r :: channel => some ({ c with channel }.print r)

def stop (c : Consumer) : Consumer :=
  { c with stopping := true }

def interrupt (c : Consumer) : Consumer :=
  { c with output := c.output ++ lines ["", "Shutting down..."] }.stop

/-- Whether all readers have stopped. -/
def isQuiet (c : Consumer) : Bool :=
  c.readers.all fun r => r.state.isStopped

/-- Prints what is left when all readers have stopped, and withdraws. -/
def finish (c : Consumer) (h : Host) : Host × Exit :=
  let c := c.channel.foldl print c
  let (client, h) := c.client.deregisterAll h
  (client.close h, .success (c.output ++ line s!"✓ Received {c.received} messages"))

end Consumer
end Program
end RingBus
