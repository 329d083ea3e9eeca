import RingBus.Discovery.Datagram
import RingBus.Discovery.Error
import RingBus.Host.Basic

/-!
# Clients

A client has a socket of its own. It registers with the daemon, remembers under which keys, and
receives word of its peers. What is no such word is skipped.
-/

namespace RingBus

structure PeerEvent where
  key : ServiceKey
  peer : Participant

namespace PeerEvent

/-- The event that a datagram tells of, if it tells of a peer. -/
def ofDatagram? (datagram : ByteArray) : Option PeerEvent :=
  match Datagram.parse datagram with
  | .ok ⟨.peer, key, peer⟩ => some ⟨key, peer⟩
  | _ => none

/-- Opens the ring of the peer, if it offers one. -/
def openRing (e : PeerEvent) (policy : RetryPolicy) (s : Shared) :
    Shared × Reply (Option Ring) :=
  match e.peer.ring with
  | none => (s, .value none)
  | some name =>
    match Ring.openNamed name policy s with
    | (s, .value ring) => (s, .value (some ring))
    | (s, .failed e) => (s, .failed e)
    | (s, .blocked) => (s, .blocked)
    | (s, .outside) => (s, .outside)

end PeerEvent

structure Client where
  socket : Nat
  endpoint : Endpoint
  /-- Where its daemon is. -/
  daemon : Endpoint
  /-- The keys it is registered under, each with the ring it offers there. -/
  registrations : List (ServiceKey × Option RingName)

namespace Client

/-! ## Starting and stopping -/

/-- The endpoint of the client that a process opened after `n` others, for a role. -/
def endpointFor (dir role process : String) (n : Nat) : Except FieldError Endpoint :=
  Endpoint.ofString (Path.join dir s!"shmbus_{role}_{process}_{n}.sock")

/-- Starts a client at an endpoint, in place of what is there. -/
def bindAt (endpoint daemon : Endpoint) (h : Host) : Host × Except DiscoveryError Client :=
  match h.takeOver endpoint.text with
  | (h, .ok socket) => (h, .ok ⟨socket, endpoint, daemon, []⟩)
  | (h, .error e) => (h, .error (.bind endpoint.text e))

/-- Starts the client that a process opened after `n` others, for a role, in a directory. -/
def bind (dir role process : String) (n : Nat) (daemon : Endpoint) (h : Host) :
    Host × Except DiscoveryError Client :=
  match endpointFor dir role process n with
  | .error e => (h, .error (.bind dir (.custom "InvalidInput" e.message)))
  | .ok endpoint => bindAt endpoint daemon h

/-- Stops a client. Whatever file is at its endpoint is removed. -/
def close (c : Client) (h : Host) : Host :=
  (h.removeFile c.endpoint.text).close c.socket

/-! ## Registrations -/

/-- Sends a message about this client to the daemon. -/
def ask (c : Client) (command : Command) (key : ServiceKey) (ring : Option RingName) (h : Host) :
    Host × Asked :=
  let message : Message := ⟨command, key, ⟨c.endpoint, ring⟩⟩
  match h.send c.daemon.text message.encode with
  | (h, .delivered) => (h, .sent)
  | (h, .failed e) => (h, .failed (.send c.daemon.text e))
  | (h, .queueFull) => (h, .blocked)

/-- Whether the daemon's queue takes nothing more, so that this client has to wait before it sends.
-/
def isHeldUp (c : Client) (h : Host) : Bool :=
  match h.reach c.daemon.text with
  | .ok id => (h.sockets.object id).full
  | .error _ => false

/-- The client without a registration under a key. -/
def forget (c : Client) (key : ServiceKey) : Client :=
  { c with registrations := c.registrations.filter fun r => r.1 ≠ key }

def register (c : Client) (key : ServiceKey) (ring : Option RingName) (h : Host) :
    Client × Host × Asked :=
  match c.ask .register key ring h with
  | (h, .sent) =>
    let kept := (c.forget key).registrations
    ({ c with registrations := kept ++ [(key, ring)] }, h, .sent)
  | (h, other) => (c, h, other)

def deregister (c : Client) (key : ServiceKey) (h : Host) : Client × Host × Asked :=
  let ring := (c.registrations.lookup key).getD none
  match c.ask .deregister key ring h with
  | (h, .sent) => (c.forget key, h, .sent)
  | (h, other) => (c, h, other)

/-- Withdraws from keys one after the other, whether or not the daemon can be reached. -/
def deregisterEach : List ServiceKey → Client → Host → Client × Host
  | [], c, h => (c, h)
  | key :: keys, c, h =>
    let (c, h, _) := c.deregister key h
    deregisterEach keys c h

def deregisterAll (c : Client) (h : Host) : Client × Host :=
  deregisterEach (c.registrations.map Prod.fst) c h

/-! ## Events -/

/-- Receives datagrams up to the first that tells of a peer, but at most `n` of them. -/
def receivePeer? (c : Client) : Nat → Host → Host × Option PeerEvent
  | 0, h => (h, none)
  | n + 1, h =>
    match h.receive? c.socket Datagram.bufferSize with
    | none => (h, none)
    | some (h, datagram) =>
      match PeerEvent.ofDatagram? datagram with
      | some event => (h, some event)
      | none => receivePeer? c n h

/-- The next event among the datagrams that are queued, if there is one. -/
def nextPeer? (c : Client) (h : Host) : Host × Option PeerEvent :=
  c.receivePeer? (h.sockets.object c.socket).queue.length h

def takePeers (c : Client) : Nat → Host → Host × List PeerEvent
  | 0, h => (h, [])
  | n + 1, h =>
    match c.nextPeer? h with
    | (h, none) => (h, [])
    | (h, some event) =>
      let (h, events) := takePeers c n h
      (h, event :: events)

/-- All events among the datagrams that are queued. -/
def allPeers (c : Client) (h : Host) : Host × List PeerEvent :=
  c.takePeers (h.sockets.object c.socket).queue.length h

end Client
end RingBus
