import RingBus.Scenario.Answer

/-!
# Steps on plain sockets
-/

namespace RingBus

inductive SocketStep
  | bind (id path : String)
  | send (id path : String) (datagram : ByteArray)
  | receiveAll (id : String)
  /-- Fills the queue, so that nothing more is accepted. -/
  | fill (id : String)
  /-- Closes the socket and leaves its file. -/
  | abandon (id : String)

namespace World

def withPlain (w : World) (id : String) (look : Nat → World × Answer) : World × Answer :=
  match w.object? id with
  | some (.socket socket) => look socket
  | _ => (w, .refused .noObject)

def socketStep (w : World) : SocketStep → World × Answer
  | .bind id path =>
    match w.host.bind path with
    | .ok (h, socket) => ((w.withHost h).put id (.socket socket), .done)
    | .error e => (w, .refused (.request e))
  | .send id path datagram =>
    w.withPlain id fun _ =>
      match w.host.send path datagram with
      | (h, .delivered) => (w.withHost h, .count datagram.size)
      | (h, .failed e) => (w.withHost h, .refused (.request e))
      | (h, .queueFull) => (w.withHost h, .refused (.request (.kernel .tryAgain)))
  | .receiveAll id =>
    w.withPlain id fun socket =>
      let (h, datagrams) := w.host.drain socket
      (w.withHost h, .datagrams datagrams)
  | .fill id => w.withPlain id fun socket => (w.withHost (w.host.fill socket), .done)
  | .abandon id => w.withPlain id fun _ => (w.drop id, .done)

end World
end RingBus
