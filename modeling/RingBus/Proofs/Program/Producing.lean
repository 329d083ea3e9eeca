import RingBus.Program.Process
import RingBus.Proofs.Discovery.Presence
import RingBus.Proofs.Ring.Creation
import RingBus.Proofs.Ring.Surroundings

/-!
# Producers among others

A producer has the host to itself at no moment: others work on it, and the daemon serves.

* `Producing.Step`: the producer takes its next step, or the daemon serves, or the rest of the host
  changes in whatever way.
* `Producing.Setup`: what a producer finds out before it makes anything.
* `Producing.opening_cases`, `Setup.enroll_cases`, `Setup.finish_cases`: what the beginning and the
  ends of a run come to.
-/

namespace RingBus
namespace Program
namespace Producing

/-- What a producer is started with, and the daemon whose registry is looked at. -/
structure Setting where
  configFile : String
  options : ProduceOptions
  process : String
  host : Host
  daemon : Daemon

/-- A process, and the host and the daemon that it works with. -/
structure Scene where
  host : Host
  daemon : Daemon
  process : Process

/-- What a producer does. -/
inductive Act
  | registers
  | hears
  | writes
  | rests
  | isInterrupted
  | finishes

/-- Who brings something about. -/
inductive Actor
  | producer (act : Act)
  | daemon
  /-- Others, who send these datagrams to the daemon. -/
  | others (sent : List ByteArray)

/-- Whether the producer itself acts. -/
def Actor.isProducer : Actor → Bool
  | .producer _ => true
  | _ => false

/-- Something that happened to the host. -/
structure Event where
  actor : Actor
  before : Host
  after : Host

/-- What may happen next, until the run has ended. -/
inductive Step : Scene → Event → Scene → Prop
  | register {h h' : Host} {d : Daemon} {p : Producer} {process : Process} :
    Process.register? .producer (p.enroll h) = some (process, h') →
      Step ⟨h, d, .newProducer p⟩ ⟨.producer .registers, h, h'⟩ ⟨h', d, process⟩
  | hear {h h' : Host} {d : Daemon} {p p' : Producer} :
    p.writing.isOver = false → p.hear? h = some (p', h') →
      Step ⟨h, d, .producer p⟩ ⟨.producer .hears, h, h'⟩ ⟨h', d, .producer p'⟩
  | write {h : Host} {d : Daemon} {p : Producer} :
    p.writing.isOver = false → p.rest = 0 →
      Step ⟨h, d, .producer p⟩ ⟨.producer .writes, h, (p.write h).2⟩
        ⟨(p.write h).2, d, .producer (p.write h).1⟩
  | elapse {h : Host} {d : Daemon} {p : Producer} (millis : Nat) :
    Step ⟨h, d, .producer p⟩ ⟨.producer .rests, h, h⟩
      ⟨h, d, (Process.producer p).elapse millis⟩
  | interrupt {h : Host} {d : Daemon} {p : Producer} :
    Step ⟨h, d, .producer p⟩ ⟨.producer .isInterrupted, h, h⟩ ⟨h, d, .producer p.interrupt⟩
  | finish {h : Host} {d : Daemon} {p : Producer} :
    p.writing.isOver = true → p.client.isHeldUp h = false →
      Step ⟨h, d, .producer p⟩ ⟨.producer .finishes, h, (p.finish h).1⟩
        ⟨(p.finish h).1, d, .ended (p.finish h).2⟩
  | serve {h h' : Host} {d d' : Daemon} {process : Process} :
    process.exit? = none → d.serveNext? h = some (d', h') →
      Step ⟨h, d, process⟩ ⟨.daemon, h, h'⟩ ⟨h', d', process⟩
  /-- The rest of the host may change in any way. -/
  | elsewhere {h h' : Host} {d : Daemon} {process : Process} (sent : List ByteArray) :
    process.exit? = none →
      (h'.sockets.object d.socket).queue = (h.sockets.object d.socket).queue ++ sent →
        Step ⟨h, d, process⟩ ⟨.others sent, h, h'⟩ ⟨h', d, process⟩

/-- The producer is started. -/
def Setting.opening (X : Setting) : Scene :=
  let (host, process) := Process.start ⟨X.configFile, .produce X.options⟩ X.process X.host
  ⟨host, X.daemon, process⟩

/-! ## The program goes its way by such steps -/

section

variable {h h' : Host} {d : Daemon} {p : Producer} {process : Process}

/-- A producer goes on for so many steps, as long as it need not wait. -/
def Scene.onward : Nat → Scene → Scene
  | n + 1, ⟨h, d, .newProducer p⟩ =>
    match Process.register? .producer (p.enroll h) with
    | some (process, h') => onward n ⟨h', d, process⟩
    | none => ⟨h, d, .newProducer p⟩
  | n + 1, ⟨h, d, .producer p⟩ =>
    match Process.advanceProducer? p h with
    | some (process, h') => onward n ⟨h', d, process⟩
    | none => ⟨h, d, .producer p⟩
  | _, S => S

end

/-! ## The beginning -/

/-- What a producer finds out before it makes anything. -/
structure Setup (X : Setting) where
  config : Config
  key : ServiceKey
  name : RingName
  geometry : Ring.Geometry
  endpoint : Endpoint
  config_loaded : Config.loadOrDefault X.host.files X.configFile = .ok config
  key_read : ServiceKey.ofString X.options.service = .ok key
  geometry_checked :
    Ring.Geometry.check (Producer.override X.options.slots config.geometry.slotCount)
      (Producer.override X.options.slotSize config.geometry.slotSize) = .ok geometry
  name_derived : RingName.derived "shmbus" key X.process = .ok name
  endpoint_derived : Client.endpointFor config.socketDir "producer" X.process 0 = .ok endpoint
  vacant : Ring.Vacant name X.host.shared

namespace Setup

variable {X : Setting}

instance : Subsingleton (Setup X) where
  allEq U U' := by
    rcases U with ⟨config, key, name, geometry, endpoint, hConfig, hKey, hGeometry, hName,
      hEndpoint, _⟩
    rcases U' with ⟨config', key', name', geometry', endpoint', hConfig', hKey', hGeometry', hName',
      hEndpoint', _⟩
    obtain rfl := Except.ok.inj (hConfig.symm.trans hConfig')
    obtain rfl := Except.ok.inj (hKey.symm.trans hKey')
    obtain rfl := Except.ok.inj (hGeometry.symm.trans hGeometry')
    obtain rfl := Except.ok.inj (hName.symm.trans hName')
    obtain rfl := Except.ok.inj (hEndpoint.symm.trans hEndpoint')
    rfl

variable (U : Setup X)

/-- The ring that the producer creates. -/
def ring : Ring :=
  Ring.founder U.name U.geometry X.host.shared

/-- The client that it starts. -/
def client : Client :=
  ⟨X.host.sockets.count, U.endpoint, U.config.socketPath, []⟩

/-- The client once it is registered. -/
def enrolled : Client :=
  U.client.enrolled U.key (some U.name)

/-- The producer before it registers. -/
def producer : Producer :=
  ⟨U.ring, U.client, U.key, X.options.count, X.options.intervalMillis, .underway 0, 0, false, ""⟩

/-- The producer once it is registered. -/
def worker : Producer :=
  { U.producer with client := U.enrolled, output := U.producer.output ++ U.producer.greeting }

/-- The host without the names of the ring and the file of the client. -/
def cleared (h : Host) : Host :=
  U.client.close { h with shared := Ring.withdrawn U.name h.shared }

end Setup

namespace Setup

variable {X : Setting} (U : Setup X) {h : Host} {p : Producer} {path : String} {id : Nat}

/-- Everything else among the shared files is as it was. -/
theorem sameAround_cleared : U.ring.SameAround h.shared (U.cleared h).shared :=
  U.ring.sameAround_withdrawn h.shared

/-- No path leads anywhere new. -/
theorem reach_of_cleared (hReach : (U.cleared h).reach path = .ok id) : h.reach path = .ok id :=
  Host.reach_of_close (h := { h with shared := Ring.withdrawn U.name h.shared }) hReach

/-- No other socket's queue has changed. -/
theorem queue_cleared (hOther : id ≠ U.client.socket) :
    ((U.cleared h).sockets.object id).queue = (h.sockets.object id).queue :=
  congrArg Socket.queue (Host.object_withSocket_other hOther)

/-- What the client asks the daemon for. -/
def request (command : Command) (ring : Option RingName) : Message :=
  ⟨command, U.key, ⟨U.endpoint, ring⟩⟩

/-- A producer that cannot register clears up what it has made. -/
theorem enroll_cases (h : Host) :
    (∃ id, h.reach U.config.socketPath.text = .ok id ∧
        U.producer.enroll h =
          (h.arrived id (U.request .register (some U.name)).encode, .running U.worker)) ∨
      (∃ exit, U.producer.enroll h = (U.cleared h, .ended exit)) ∨
        ∃ h', U.producer.enroll h = (h', .waiting) := by
  rcases U.client.register_cases U.key (some U.name) h with ⟨id, hReach, hRegister⟩ |
    ⟨other, hOther, hRegister⟩
  · refine .inl ⟨id, hReach, ?_⟩
    change U.producer.client.register U.producer.key (some U.producer.ring.name) h = _ at hRegister
    rw [Producer.enroll, hRegister]
    rfl
  · change U.producer.client.register U.producer.key (some U.producer.ring.name) h = _ at hRegister
    cases other with
    | sent => exact absurd rfl hOther
    | failed e =>
      refine .inr (.inl ⟨.failure "" (.discovery e), ?_⟩)
      rw [Producer.enroll, hRegister]
      simp only [Producer.giveUp, producer, ring, Ring.unlink_founder]
      rfl
    | blocked =>
      refine .inr (.inr ⟨h, ?_⟩)
      rw [Producer.enroll, hRegister]

/-- A producer that ends withdraws from the daemon, if it can be reached, and clears up. -/
theorem finish_cases (hRing : p.ring = U.ring) (hClient : p.client = U.enrolled)
    (hRoom : p.client.isHeldUp h = false) :
    (∃ id ring, h.reach U.config.socketPath.text = .ok id ∧
        (p.finish h).1 = U.cleared (h.arrived id (U.request .deregister ring).encode)) ∨
      ∃ cause, h.reach U.config.socketPath.text = .error cause ∧
        (p.finish h).1 = U.cleared h := by
  -- Whatever came of the withdrawal, the names and the file are removed after it.
  have hHost : ∀ (c : Client) (h' : Host) (asked : Asked),
      U.enrolled.deregister U.key h = (c, h', asked) → c.socket = U.client.socket →
        c.endpoint = U.client.endpoint → (p.finish h).1 = U.cleared h' := by
    intro c h' asked hDeregister hSocket hEndpoint
    have hAll : p.client.deregisterAll h = (c, h') := by
      rw [hClient]
      change Client.deregisterEach [U.key] U.enrolled h = _
      rw [Client.deregisterEach, hDeregister]
      rfl
    have hUnlink : p.ring.unlink h'.shared =
        (Ring.withdrawn U.name h'.shared, U.ring.retired, .value true) := by
      rw [hRing]
      exact Ring.unlink_founder _ _ _ _
    rw [Producer.finish, hAll]
    dsimp only
    rw [hUnlink]
    dsimp only
    rw [cleared, Client.close, Client.close, hSocket, hEndpoint]
    -- How the writing went decides only what the run says in the end.
    split <;> rfl
  rcases U.enrolled.deregister_cases U.key h with ⟨id, ring, hReach, hDeregister⟩ |
    ⟨cause, e, hReach, hDeregister⟩ | ⟨id, hReach, hFull, -⟩
  · exact .inl ⟨id, ring, hReach, hHost _ _ _ hDeregister rfl rfl⟩
  · exact .inr ⟨cause, hReach, hHost _ _ _ hDeregister rfl rfl⟩
  · -- It has waited for room in the daemon's queue.
    rw [hClient, Client.isHeldUp, hReach] at hRoom
    exact absurd (hFull.symm.trans hRoom) Bool.noConfusion

end Setup

end Producing
end Program
end RingBus
