import RingBus.Program.Process
import RingBus.Scenario.Labels

/-!
# A world to try things out in

A world is a host together with the objects that a script has made on it, each under an identifier
of the script's choice. Processes go on by themselves until every one of them has to wait. The
script's own daemons do so only between its steps: while a step waits for a process, they rest.
-/

namespace RingBus

/-- Something that a script has made. -/
inductive Object
  | segment (s : Segment)
  | semaphore (s : Semaphore)
  | triplet (t : Triplet)
  | ring (r : Ring)
  | daemon (d : Daemon)
  /-- A client, and the events it has received. -/
  | client (c : Client) (events : List PeerEvent)
  | socket (id : Nat)
  | process (p : Program.Process)

/-- A host and the objects that a script has made on it. -/
structure World where
  host : Host
  /-- The objects in the order of their identifiers. -/
  objects : List (String × Object)
  /-- The process that the present step waits for, which is under no identifier. -/
  foreground : Option Program.Process
  labels : Labels
  /-- How many endpoints were derived for clients. -/
  derived : Nat

namespace World

/-- A world without objects, on a host without anything but a working directory. -/
def fresh (workingDirectory : List String) : World :=
  ⟨Host.fresh workingDirectory, [], none, .initial, 0⟩

/-! ## Objects -/

def object? (w : World) (id : String) : Option Object :=
  w.objects.lookup id

/-- Puts an object in its place among the others. -/
def place (id : String) (o : Object) : List (String × Object) → List (String × Object)
  | [] => [(id, o)]
  | (other, p) :: rest =>
    if id < other then (id, o) :: (other, p) :: rest
    else if id = other then (id, o) :: rest
    else (other, p) :: place id o rest

def set (w : World) (id : String) (o : Object) : World :=
  { w with objects := place id o w.objects }

/-- What dropping an object does to the host. Sockets are closed, and a process is killed. -/
def dropFrom (h : Host) : Object → Host
  | .daemon d => d.close h
  | .client c _ => c.close h
  | .socket id => h.close id
  | .process p => p.kill h
  | .segment s => { h with shared := s.close h.shared }
  | .semaphore s => { h with shared := s.close h.shared }
  | .triplet t => { h with shared := t.close h.shared }
  | .ring r => { h with shared := r.close h.shared }

/-- The world with a new object under an identifier. The object that was there is dropped. -/
def put (w : World) (id : String) (o : Object) : World :=
  let w' := w.set id o
  match w.object? id with
  | none => w'
  | some old => { w' with host := dropFrom w'.host old }

def drop (w : World) (id : String) : World :=
  match w.object? id with
  | none => w
  | some o =>
    { w with objects := w.objects.filter fun o => o.1 != id, host := dropFrom w.host o }

def withHost (w : World) (host : Host) : World :=
  { w with host }

def withShared (w : World) (shared : Shared) : World :=
  { w with host := { w.host with shared } }

/-! ## Going on -/

/-- The next step that a process among the objects takes. -/
def advanceProcess? (o : Object) (h : Host) : Option (Object × Host) :=
  match o with
  | .process p => (p.advance? h).map fun (p, h) => (.process p, h)
  | _ => none

/-- The next step that a daemon among the objects takes. -/
def advanceDaemon? (o : Object) (h : Host) : Option (Object × Host) :=
  match o with
  | .daemon d => (d.serveNext? h).map fun (d, h) => (.daemon d, h)
  | _ => none

/-- The next step that any of the objects takes, the first objects first. -/
def advanceObject? (next? : Object → Host → Option (Object × Host)) (w : World) : Option World :=
  w.objects.findSome? fun (id, o) =>
    (next? o w.host).map fun (o, host) => { w.set id o with host }

/-- The next step that the process in the foreground takes. -/
def advanceForeground? (w : World) : Option World := do
  let (p, host) ← (← w.foreground).advance? w.host
  return { w with foreground := some p, host }

/-- Lets things go on, for at most so many steps. -/
def advance (next? : World → Option World) : Nat → World → World
  | 0, w => w
  | n + 1, w =>
    match next? w with
    | none => w
    | some w => advance next? n w

/-- How much there is to do for a process. -/
def processLoad : Program.Process → Nat
  | .daemon d => d.registry.size + 1
  | p => p.pending + 1

/-- How much there is to do for an object. -/
def load : Object → Nat
  | .daemon d => d.registry.size + 1
  | .process p => processLoad p
  | _ => 1

/-- How many units a file holds, if it is that of a semaphore. -/
def unitsOf (m : Memory) : Nat :=
  if m.size = Semaphore.fileSize then (m.wordAt 0).toNat else 0

/-- How much there is to do in all: what was made, and what lies in queues and rings. -/
def workload (w : World) : Nat :=
  let sockets := w.host.sockets
  let shared := w.host.shared
  let queued :=
    (List.range sockets.count).foldl (fun n i => n + (sockets.object i).queue.length) 0
  let units := (List.range shared.count).foldl (fun n i => n + unitsOf (shared.object i)) 0
  let foreground := (w.foreground.map processLoad).getD 0
  w.objects.foldl (fun n o => n + load o.2) (foreground + queued + units + 1)

/-- Lets things go on until each has to wait. Every step uses up a datagram, a unit or a message,
or it ends something; each datagram leads to two more for each registration at most. -/
def settle (next? : World → Option World) (w : World) : World :=
  advance next? (8 * (w.workload * w.workload)) w

/-- Lets all processes go on until each has to wait. -/
def settleProcesses (w : World) : World :=
  w.settle fun w => w.advanceForeground?.or (w.advanceObject? advanceProcess?)

/-- Lets the script's daemons go on until each has to wait. -/
def settleDaemons (w : World) : World :=
  w.settle (advanceObject? advanceDaemon?)

/-- Lets everything go on between two steps of the script. -/
def settleAll (w : World) : World :=
  w.settleProcesses.settleDaemons.settleProcesses

/-! ## Waiting -/

def processes (w : World) : List Program.Process :=
  w.foreground.toList ++ w.objects.filterMap fun o =>
    match o.2 with
    | .process p => some p
    | _ => none

/-- How many milliseconds pass before one of the resting processes goes on, if any of them rests. -/
def soonest? (w : World) : Option Nat :=
  (w.processes.filterMap Program.Process.rest?).min?

/-- The world after so many milliseconds in which nobody took a step. -/
def elapse (w : World) (millis : Nat) : World :=
  let later : Object → Object
    | .process p => .process (p.elapse millis)
    | o => o
  { w with
    foreground := w.foreground.map (Program.Process.elapse millis)
    objects := w.objects.map fun (id, o) => (id, later o) }

/-- Lets rests pass until `done` or until nobody rests, but at most so many of them. -/
def passRests (done : World → Bool) : Nat → World → World
  | 0, w => w
  | n + 1, w =>
    if done w then w
    else
      match w.soonest? with
      | none => w
      | some millis => passRests done n (w.elapse millis).settleProcesses

def maxRests : Nat :=
  100000

/-- Waits for the processes to bring about that `done`, as long as there is hope: a process rests
at most once for each message that it is still going to write. -/
def waitUntil (done : World → Bool) (w : World) : World :=
  let w := w.settleProcesses
  let hope := w.processes.foldl (fun n p => n + p.pending) 1
  passRests done (Nat.min hope maxRests) w

/-! ## Looking -/

/-- What can be seen of a ring from outside: its indices and its free and filled units. -/
structure View where
  head : Nat
  tail : Nat
  free : Nat
  filled : Nat
  deriving DecidableEq, Repr

/-- What can be seen of the ring under an identifier, if there is one. -/
def view? (w : World) (id : String) : Option View :=
  match w.object? id with
  | some (.ring r) =>
    let s := w.host.shared
    let m := r.memory s
    some ⟨(m.wordAt Ring.headOffset).toNat, (m.wordAt Ring.tailOffset).toNat, r.freeSlots s,
      r.filledSlots s⟩
  | _ => none

end World
end RingBus
