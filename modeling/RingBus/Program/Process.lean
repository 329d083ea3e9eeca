import RingBus.Discovery.Daemon
import RingBus.Program.Consume
import RingBus.Program.Inspect
import RingBus.Program.Produce
import RingBus.Program.Validate

/-!
# Processes

A run of the program as something that goes on: it starts, takes one step after the other as long
as it need not wait, can be asked to stop, and ends. What it has written and how it ended stays
known. Time passes for it only while it rests.
-/

namespace RingBus
namespace Program

/-- A run of the program. -/
inductive Process
  | daemon (d : Daemon)
  /-- A producer that is about to register. -/
  | newProducer (p : Producer)
  | producer (p : Producer)
  /-- A consumer that is about to register. -/
  | newConsumer (c : Consumer)
  | consumer (c : Consumer)
  /-- It waits for what does not come. -/
  | waiting
  | ended (exit : Exit)

namespace Process

/-! ## Starting -/

/-- The process that the start of a job leads to. -/
def ofStart {σ : Type} (wrap : σ → Process) : Start σ → Process
  | .running job => wrap job
  | .ended exit => .ended exit
  | .waiting => .waiting

def daemonGreeting (d : Daemon) : String :=
  lines [s!"Discovery daemon listening on {d.endpoint.text}", "Press Ctrl+C to stop..."]

def startDaemon (configFile : String) (socket : Option String) (h : Host) : Host × Process :=
  let prepared : Except Failure (Endpoint × Bool) := do
    let config ← (Config.loadOrDefault h.files configFile).mapError .config
    let endpoint ← match socket with
      | none => .ok config.socketPath
      | some socket => (Endpoint.ofString socket).mapError .field
    return (endpoint, config.evictUnreachable)
  match prepared with
  | .error why => (h, .ended (.failure "" why))
  | .ok (endpoint, evicts) =>
    match Daemon.bind endpoint evicts h with
    | (h, .ok d) => (h, .daemon d)
    | (h, .error e) => (h, .ended (.failure "" (.discovery e)))

def start (invocation : Invocation) (name : String) (h : Host) : Host × Process :=
  match invocation.job with
  | .daemon socket => startDaemon invocation.config socket h
  | .produce options =>
    let (h, start) := Producer.start invocation.config options name h
    (h, ofStart .newProducer start)
  | .consume service max =>
    let (h, start) := Consumer.start invocation.config service max name h
    (h, ofStart .newConsumer start)
  | .inspect ring =>
    let (shared, exit?) := inspect? ring h.shared
    ({ h with shared }, (exit?.map .ended).getD .waiting)
  | .validate file => (h, .ended (validate file h.files))

def version : String :=
  "shmbus 1.0.0"

/-- Starts the program with the arguments of a command line. -/
def launch (args : List String) (name : String) (h : Host) : Host × Process :=
  match Request.ofArguments args with
  | .run invocation => start invocation name h
  | .version => (h, .ended (.success (line version)))
  | .help => (h, .ended (.success ""))
  | .misuse => (h, .ended .misuse)

/-! ## Going on -/

/-- Registers, unless the daemon's queue is full. -/
def register? {σ : Type} (wrap : σ → Process) : Host × Start σ → Option (Process × Host)
  | (_, .waiting) => none
  | (h, start) => some (ofStart wrap start, h)

/-- The next step of a producer: it listens, writes, and ends after the last attempt. A full ring
makes it wait, and in the end so does a daemon with a full queue. While it rests it only listens. -/
def advanceProducer? (p : Producer) (h : Host) : Option (Process × Host) :=
  if p.writing.isOver then
    if p.client.isHeldUp h then none
    else
      let (h, exit) := p.finish h
      some (.ended exit, h)
  else
    match p.hear? h with
    | some (p, h) => some (.producer p, h)
    | none =>
      if 0 < p.rest then none
      else
        let (after, h) := p.write h
        if after.writing = p.writing then none else some (.producer after, h)

/-- Lets the readers that are new open their rings. -/
def openNew (c : Consumer) (s : Shared) : Consumer × Shared :=
  (List.range c.readers.length).foldl
    (fun (c, s) i =>
      if (c.readers[i]?.map RingReader.state).any ReaderState.isOpening then c.readerStep i s
      else (c, s))
    (c, s)

/-- A round of one reader: it sees that it may go on, reserves, takes and passes on. Nothing, if
that leads nowhere. -/
def advanceReader? (c : Consumer) (i : Nat) (s : Shared) : Option (Consumer × Shared) :=
  let (c, s) := Consumer.readerSteps i 3 (c, s)
  match (c.readers[i]?.map RingReader.state).bind ReaderState.phase? with
  | some (.holding _) | some (.emptyHanded true) => some (c.readerStep i s)
  | _ => none

/-- The next step of a consumer: it listens, prints, lets a reader go on, and ends when it was
satisfied or asked to stop. -/
def advanceConsumer? (c : Consumer) (h : Host) : Option (Process × Host) :=
  if c.stopping then
    let indices := List.range c.readers.length
    let (c, shared) := indices.foldl (fun (c, s) i => c.readerStep i s) (c, h.shared)
    let h := { h with shared }
    if c.isQuiet then
      if c.client.isHeldUp h then none
      else
        let (h, exit) := c.finish h
        some (.ended exit, h)
    else some (.consumer c, h)
  else if c.isSatisfied then some (.consumer c.stop, h)
  else
    match c.hear? h with
    | some (c, h) =>
      let (c, shared) := openNew c h.shared
      some (.consumer c, { h with shared })
    | none =>
      match c.printNext? with
      | some c => some (.consumer c, h)
      | none =>
        ((List.range c.readers.length).findSome? fun i => advanceReader? c i h.shared).map
          fun (c, shared) => (.consumer c, { h with shared })

/-- The next step that a process takes without waiting. -/
def advance? (p : Process) (h : Host) : Option (Process × Host) :=
  match p with
  | .daemon d => (d.serveNext? h).map fun (d, h) => (.daemon d, h)
  | .newProducer p => register? .producer (p.enroll h)
  | .producer p => advanceProducer? p h
  | .newConsumer c => register? .consumer (c.enroll h)
  | .consumer c => advanceConsumer? c h
  | .waiting => none
  | .ended _ => none

/-! ## Resting -/

/-- How many milliseconds a process is going to rest, if it rests. -/
def rest? : Process → Option Nat
  | .producer p => if p.rest = 0 then none else some p.rest
  | _ => none

/-- The process after so many milliseconds in which it took no step. -/
def elapse (millis : Nat) : Process → Process
  | .producer p => .producer { p with rest := p.rest - millis }
  | p => p

/-! ## Ending -/

/-- Asks a process to stop. A daemon does so at once, a producer not before its rest is over.
Whoever is not registered yet does not listen. -/
def interrupt (p : Process) (h : Host) : Host × Process :=
  match p with
  | .daemon d =>
    (d.close h, .ended (.success (daemonGreeting d ++ line "Discovery daemon stopped.")))
  | .producer p => (h, .producer p.interrupt)
  | .consumer c => (h, .consumer c.interrupt)
  | p => (h, p)

/-- Ends a process without asking it. Its socket is closed, and whatever else it has made stays. -/
def kill (p : Process) (h : Host) : Host :=
  match p with
  | .daemon d => h.close d.socket
  | .newProducer p | .producer p => h.close p.client.socket
  | .newConsumer c | .consumer c => h.close c.client.socket
  | .waiting => h
  | .ended _ => h

def output : Process → String
  | .daemon d => daemonGreeting d
  | .newProducer p | .producer p => p.output
  | .newConsumer c | .consumer c => c.output
  | .waiting => ""
  | .ended exit => exit.output

def exit? : Process → Option Exit
  | .ended exit => some exit
  | _ => none

theorem exit?_eq_some_iff {p : Process} {exit : Exit} :
    p.exit? = some exit ↔ p = .ended exit := by
  cases p <;> simp [exit?]

/-- How many messages a process is still going to write. -/
def pending : Process → Nat
  | .newProducer p | .producer p =>
    match p.writing with
    | .underway written => p.count - written
    | _ => 0
  | _ => 0

end Process
end Program
end RingBus
