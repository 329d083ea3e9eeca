import RingBus.Host.Files
import RingBus.Ring.Basic

/-!
# The host

Everything that processes share: shared memory, the file tree, and the sockets behind its entries. A datagram that is sent to a path waits, in order, at the socket that the path leads
to; whoever removes a socket's file makes the socket unreachable without closing it.
-/

namespace RingBus

structure Socket where
  /-- What has arrived and was not yet received, oldest first. -/
  queue : List ByteArray
  /-- Whether somebody still holds the socket. -/
  live : Bool
  /-- Whether the queue takes nothing more. -/
  full : Bool

instance : Inhabited Socket := ⟨⟨[], false, false⟩⟩

/-- The shared state of all processes. -/
structure Host where
  shared : Shared
  files : Files
  sockets : Numbered Socket

/-- What sending a datagram comes to. -/
inductive Sent
  | delivered
  | failed (e : RequestError)
  /-- The queue at the other end takes nothing more. -/
  | queueFull
  deriving DecidableEq

namespace Host

/-- A host without objects, whose only files are a working directory and what is above it. -/
def fresh (workingDirectory : List String) : Host :=
  ⟨Catalog.empty, Files.withDirectory workingDirectory,
    ⟨0, fun _ => default⟩⟩

/-! ## Sockets -/

/-- The longest path in bytes that a socket address holds. -/
def maxAddress : Nat := 107

/-- Checks that a path can stand in a socket address. -/
def checkAddress (path : String) : Except RequestError Unit :=
  if path.toList.contains (Char.ofNat 0) then
    .error (.unusable "InvalidInput" "paths must not contain interior null bytes")
  else if maxAddress < path.utf8ByteSize then
    .error (.unusable "InvalidInput" "path must be shorter than SUN_LEN")
  else .ok ()

def removeFile (h : Host) (path : String) : Host :=
  { h with files := h.files.remove path }

/-- Opens a socket at a path where there is nothing yet. The empty path stands for none: such a
socket has no file. -/
def bind (h : Host) (path : String) : Except RequestError (Host × Nat) := do
  checkAddress path
  let id := h.sockets.count
  let sockets := h.sockets.add ⟨[], true, false⟩
  if path.isEmpty then .ok ({ h with sockets }, id)
  else
    match h.files.vacant path with
    | .error .exists => .error (.kernel .addressInUse)
    | .error e => .error (.kernel e)
    | .ok at_ =>
      if at_.slashed then .error (.kernel .noEntry)
      else .ok ({ h with files := h.files.put at_.place (.socket id), sockets }, id)

/-- Opens a socket at a path after removing the file that is there, if any. -/
def takeOver (h : Host) (path : String) : Host × Except RequestError Nat :=
  let h := h.removeFile path
  match h.bind path with
  | .ok (h, id) => (h, .ok id)
  | .error e => (h, .error e)

/-- The live socket that a path leads to. -/
def reach (h : Host) (path : String) : Except RequestError Nat := do
  checkAddress path
  if path.isEmpty then .error (.kernel .invalid)
  else
    match h.files.find path with
    | .error e => .error (.kernel e)
    | .ok (_, .socket id) =>
      if (h.sockets.object id).live then .ok id else .error (.kernel .refused)
    | .ok _ => .error (.kernel .refused)

def withSocket (h : Host) (id : Nat) (change : Socket → Socket) : Host :=
  { h with sockets := h.sockets.set id (change (h.sockets.object id)) }

def send (h : Host) (path : String) (datagram : ByteArray) : Host × Sent :=
  match h.reach path with
  | .error e => (h, .failed e)
  | .ok id =>
    if (h.sockets.object id).full then (h, .queueFull)
    else (h.withSocket id fun s => { s with queue := s.queue ++ [datagram] }, .delivered)

/-- Receives the oldest datagram into a buffer of `room` bytes; what does not fit is lost. -/
def receive? (h : Host) (id : Nat) (room : Nat) : Option (Host × ByteArray) :=
  match (h.sockets.object id).queue with
  | [] => none
  | datagram :: rest =>
    some (h.withSocket id fun s => { s with queue := rest }, datagram.extract 0 room)

def drain (h : Host) (id : Nat) : Host × List ByteArray :=
  (h.withSocket id fun s => { s with queue := [], full := false }, (h.sockets.object id).queue)

/-- Fills a queue to the brim with datagrams that nobody is going to look at. -/
def fill (h : Host) (id : Nat) : Host :=
  h.withSocket id fun s => { s with full := true }

/-- Closes a socket; its file stays. -/
def close (h : Host) (id : Nat) : Host :=
  h.withSocket id fun _ => ⟨[], false, false⟩

end Host
end RingBus
