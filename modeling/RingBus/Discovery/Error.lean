import RingBus.Host.Errno

/-!
# What can go wrong between participants
-/

namespace RingBus

/-- Why a participant could not open its socket or send from it. -/
inductive DiscoveryError
  | bind (path : String) (cause : RequestError)
  | send (path : String) (cause : RequestError)
  deriving DecidableEq, Repr

namespace DiscoveryError

def message : DiscoveryError → String
  | .bind path cause => s!"Failed to bind endpoint {path}: {cause.message}"
  | .send path cause => s!"Failed to send to {path}: {cause.message}"

def spelledOut : DiscoveryError → String
  | .bind path cause =>
    Text.record "Bind" [("path", Text.quotedPath path), ("source", cause.spelledOut)]
  | .send path cause =>
    Text.record "Send" [("path", Text.quotedPath path), ("source", cause.spelledOut)]

end DiscoveryError

/-- What a request to the daemon comes to. -/
inductive Asked
  | sent
  | failed (e : DiscoveryError)
  /-- The daemon's queue is full, and nobody empties it. -/
  | blocked
  deriving DecidableEq, Repr

end RingBus
