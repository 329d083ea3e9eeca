import RingBus.Scenario.Answer

/-!
# Steps on daemons and clients
-/

namespace RingBus

inductive DiscoveryStep
  | daemon (id path : String) (evicts : Bool)
  | daemonOfConfig (id yaml : String)
  /-- Lets a daemon act on a datagram without sending anything. -/
  | handle (id : String) (datagram : ByteArray)
  | registry (id : String) (keys : List String)
  | client (id path daemon : String)
  | clientOfConfig (id yaml role : String)
  | endpointFor (dir role : String)
  | register (id key : String) (ring : Option String)
  | deregister (id key : String)
  | deregisterAll (id : String)
  | receive (id : String)
  /-- Opens the ring of event number `event` of a client. -/
  | openRing (client : String) (event : Nat) (id : String) (attempts : Option Nat)

namespace World

def withDaemon (w : World) (id : String) (look : Daemon → World × Answer) : World × Answer :=
  match w.object? id with
  | some (.daemon d) => look d
  | _ => (w, .refused .noObject)

/-- Uses the client under an identifier, with its events. -/
def withClient (w : World) (id : String) (look : Client → List PeerEvent → World × Answer) :
    World × Answer :=
  match w.object? id with
  | some (.client c events) => look c events
  | _ => (w, .refused .noObject)

/-- Goes on with a value, unless there is a reason not to. -/
def andThen {ε α : Type} (w : World) (why : ε → Refusal) (e : Except ε α)
    (use : α → World × Answer) : World × Answer :=
  match e with
  | .ok a => use a
  | .error e => (w, .refused (why e))

def startDaemon (w : World) (id : String) (endpoint : Endpoint) (evicts : Bool) :
    World × Answer :=
  match Daemon.bind endpoint evicts w.host with
  | (h, .ok d) => ((w.withHost h).put id (.daemon d), .text d.endpoint.text)
  | (h, .error e) => (w.withHost h, .refused (.discovery e))

/-- Puts a client that was started under an identifier. -/
def putClient (w : World) (id : String) : Host × Except DiscoveryError Client → World × Answer
  | (h, .ok c) => ((w.withHost h).put id (.client c []), .text c.endpoint.text)
  | (h, .error e) => (w.withHost h, .refused (.discovery e))

def discoveryStep (w : World) : DiscoveryStep → World × Answer
  | .daemon id path evicts =>
    w.andThen .field (Endpoint.ofString path) fun endpoint => w.startDaemon id endpoint evicts
  | .daemonOfConfig id yaml =>
    w.andThen .setup (Config.ofText yaml) fun config =>
      w.startDaemon id config.socketPath config.evictUnreachable
  | .handle id datagram =>
    w.withDaemon id fun d =>
      let (d, notifications) := d.handle datagram
      (w.set id (.daemon d), .notifications notifications)
  | .registry id keys =>
    w.andThen .field (keys.mapM ServiceKey.ofString) fun keys =>
      w.withDaemon id fun d => (w, .registry d.registry keys)
  | .client id path daemon =>
    w.andThen .field (Endpoint.ofString path) fun endpoint =>
      w.andThen .field (Endpoint.ofString daemon) fun daemon =>
        w.putClient id (Client.bindAt endpoint daemon w.host)
  | .clientOfConfig id yaml role =>
    w.andThen .setup (Config.ofText yaml) fun config =>
      let started :=
        Client.bind config.socketDir role Labels.own w.derived config.socketPath w.host
      { w with derived := w.derived + 1 }.putClient id started
  | .endpointFor dir role =>
    ({ w with derived := w.derived + 1 },
      .orRefuse .field (fun e => .text e.text) (Client.endpointFor dir role Labels.own w.derived))
  | .register id key ring =>
    w.withClient id fun c events =>
      w.andThen .field (ServiceKey.ofString key) fun key =>
        w.andThen .field (ring.mapM RingName.ofString) fun ring =>
          let (c, h, asked) := c.register key ring w.host
          ((w.withHost h).set id (.client c events), .ofAsked asked)
  | .deregister id key =>
    w.andThen .field (ServiceKey.ofString key) fun key =>
      w.withClient id fun c events =>
        let (c, h, asked) := c.deregister key w.host
        ((w.withHost h).set id (.client c events), .ofAsked asked)
  | .deregisterAll id =>
    w.withClient id fun c events =>
      let (c, h) := c.deregisterAll w.host
      ((w.withHost h).set id (.client c events), .done)
  | .receive id =>
    w.withClient id fun c events =>
      let (h, new) := c.allPeers w.host
      ((w.withHost h).set id (.client c (events ++ new)), .events new)
  | .openRing client event id attempts =>
    w.withClient client fun _ events =>
      match events[event]? with
      | none => (w, .refused .noObject)
      | some event =>
        match event.openRing (.ofAttempts attempts) w.host.shared with
        | (shared, .value none) => (w.withShared shared, .nothing)
        | (shared, .value (some r)) => ((w.withShared shared).put id (.ring r), .ring r)
        | (shared, .failed e) => (w.withShared shared, .refused (.ring e))
        | (shared, .blocked) => (w.withShared shared, .blocked)
        | (shared, .outside) => (w.withShared shared, .refused .outOfRange)

end World
end RingBus
