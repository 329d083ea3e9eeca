import RingBus.Scenario.World

/-!
# Answers

What the steps of a script come to.
-/

namespace RingBus

/-- Why a step came to nothing. -/
inductive Refusal
  | field (e : FieldError)
  | config (e : Config.LoadError)
  /-- The configuration of a daemon or a client could not be loaded. The place is told. -/
  | setup (e : Config.LoadError)
  | segment (e : SegmentError)
  | semaphore (e : SemaphoreError)
  | ring (e : RingError)
  | discovery (e : DiscoveryError)
  /-- A plain file or socket could not be used. -/
  | request (e : RequestError)
  /-- There is no such object. -/
  | noObject
  /-- The bytes asked for do not all lie in the segment. -/
  | outOfRange

inductive Answer
  | done
  | started
  | nothing
  | flag (b : Bool)
  | count (n : Nat)
  | counts (ns : List Nat)
  | text (s : String)
  | texts (ss : List String)
  | bytes (b : ByteArray)
  | config (c : Config)
  | segment (s : Segment)
  | ring (r : Ring)
  /-- The count while a unit was held, and after. -/
  | held (inside after : Nat)
  /-- What was read, and how each of the messages fared. -/
  | pumped (read : List ByteArray) (written : List (Except RingError Unit))
  | registry (r : Registry) (keys : List ServiceKey)
  | notifications (ns : List Notification)
  | events (es : List PeerEvent)
  | datagrams (ds : List ByteArray)
  | exit (e : Program.Exit)
  /-- It would wait for ever. -/
  | blocked
  | refused (why : Refusal)

namespace Answer

/-- Answers with a value or tells why there is none. -/
def orRefuse {ε α : Type} (why : ε → Refusal) (f : α → Answer) : Except ε α → Answer
  | .ok a => f a
  | .error e => .refused (why e)

/-- Answers with what a call on a ring comes to. -/
def ofReply {α : Type} (f : α → Answer) : Reply α → Answer
  | .value a => f a
  | .failed e => .refused (.ring e)
  | .blocked => .blocked
  | .outside => .refused .outOfRange

/-- Answers with what a request to the daemon comes to. -/
def ofAsked : Asked → Answer
  | .sent => .done
  | .failed e => .refused (.discovery e)
  | .blocked => .blocked

end Answer

/-- How patiently something is looked for that a script opens: once, or as often as it says with
a millisecond after the first attempt. -/
def RetryPolicy.ofAttempts : Option Nat → RetryPolicy
  | none => .once
  | some n => .make (UInt32.ofNat n) (.ofMillis 1)

end RingBus
