import RingBus.Ring.Transfer
import RingBus.Scenario.Answer

/-!
# Steps on rings
-/

namespace RingBus

inductive RingStep
  /-- Creates a ring, if the numbers make a geometry. -/
  | create (id name : String) (slotCount slotSize : UInt32)
  /-- Creates a ring of a geometry that is checked first. -/
  | createWith (id name : String) (slotCount slotSize : UInt32)
  | openNamed (id name : String) (attempts : Option Nat)
  /-- Opens a ring instead of creating it. -/
  | openInstead (id name : String) (slotCount slotSize : UInt32)
  | write (id : String) (payload : ByteArray) (patience : Patience)
  | read (id : String) (patience : Patience)
  /-- Writes messages through one handle while they are read through another. -/
  | pump (id reader : String) (messages : List ByteArray)
  | describe (id : String)
  | unlink (id : String)
  | await (id : String) (filled : Nat)

/-- Messages on their way through a ring. -/
structure Pump where
  writer : Ring
  reader : Ring
  /-- What is still to be written. -/
  messages : List ByteArray
  /-- How many messages are still to be read. -/
  due : Nat
  written : List (Except RingError Unit)
  read : List ByteArray

namespace Pump

/-- Reads one of the messages that are due. -/
def readOne? (p : Pump) (s : Shared) : Option (Pump × Shared) :=
  match p.due with
  | 0 => none
  | due + 1 =>
    match p.reader.read .forever s with
    | (s, .value (some payload)) => some ({ p with due, read := p.read ++ [payload] }, s)
    | (s, .failed _) => some ({ p with due }, s)
    | _ => none

/-- Writes the next message if there is room, and reads one if not. -/
def step? (p : Pump) (s : Shared) : Option (Pump × Shared) :=
  match p.messages with
  | [] => p.readOne? s
  | message :: messages =>
    match p.writer.write message .forever s with
    | (s, .value ()) => some ({ p with messages, written := p.written ++ [.ok ()] }, s)
    | (s, .failed e) => some ({ p with messages, written := p.written ++ [.error e] }, s)
    | _ => p.readOne? s

/-- Takes so many steps at most. -/
def run : Nat → Pump → Shared → Pump × Shared
  | 0, p, s => (p, s)
  | n + 1, p, s =>
    match p.step? s with
    | none => (p, s)
    | some (p, s) => run n p s

end Pump

namespace World

def withRing (w : World) (id : String) (look : Ring → World × Answer) : World × Answer :=
  match w.object? id with
  | some (.ring r) => look r
  | _ => (w, .refused .noObject)

/-- Puts a ring that was made or opened under an identifier. -/
def putRing (w : World) (id : String) : Shared × Reply Ring → World × Answer
  | (shared, .value r) => ((w.withShared shared).put id (.ring r), .ring r)
  | (shared, reply) => (w.withShared shared, .ofReply .ring reply)

/-- Reads the name of a ring before it is used. -/
def withName (w : World) (name : String) (use : RingName → World × Answer) : World × Answer :=
  match RingName.ofString name with
  | .error e => (w, .refused (.field e))
  | .ok name => use name

def ringStep (w : World) : RingStep → World × Answer
  | .create id name slotCount slotSize =>
    w.withName name fun name =>
      w.putRing id (Ring.createOrOpen name slotCount slotSize true w.host.shared)
  | .createWith id name slotCount slotSize =>
    match Ring.Geometry.check slotCount slotSize with
    | .error e => (w, .refused (.field e))
    | .ok g => w.withName name fun name => w.putRing id (Ring.create name g w.host.shared)
  | .openNamed id name attempts =>
    w.withName name fun name =>
      w.putRing id (Ring.openNamed name (.ofAttempts attempts) w.host.shared)
  | .openInstead id name slotCount slotSize =>
    w.withName name fun name =>
      w.putRing id (Ring.createOrOpen name slotCount slotSize false w.host.shared)
  | .write id payload patience =>
    w.withRing id fun r =>
      let (shared, reply) := r.write payload patience w.host.shared
      (w.withShared shared, .ofReply (fun _ => .done) reply)
  | .read id patience =>
    w.withRing id fun r =>
      let (shared, reply) := r.read patience w.host.shared
      let answer (payload : Option ByteArray) : Answer :=
        match payload with
        | some bytes => .bytes bytes
        | none => .nothing
      (w.withShared shared, .ofReply answer reply)
  | .pump id reader messages =>
    w.withRing id fun r =>
      w.withRing reader fun other =>
        let fitting := messages.filter fun m => m.size ≤ r.geometry.slotSize.toNat
        let pump : Pump := ⟨r, other, messages, fitting.length, [], []⟩
        let (pump, shared) := pump.run (2 * messages.length) w.host.shared
        (w.withShared shared, .pumped pump.read pump.written)
  | .describe id => w.withRing id fun r => (w, .ring r)
  | .unlink id =>
    w.withRing id fun r =>
      let (shared, r, reply) := r.unlink w.host.shared
      ((w.withShared shared).set id (.ring r), .ofReply .flag reply)
  | .await id filled =>
    w.withRing id fun r =>
      let arrived (w : World) : Bool := r.filledSlots w.host.shared == filled
      let w := w.waitUntil arrived
      (w, .flag (arrived w))

end World
end RingBus
