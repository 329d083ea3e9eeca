import RingBus.Endpoint
import RingBus.RingName

/-!
# Messages

A participant registers under a key, withdraws, or is told about a peer. In writing a message is
four words with single spaces between them; a hyphen stands for a missing ring.
-/

namespace RingBus

/-- Who takes part: where it can be reached, and the ring that it offers, if any. -/
structure Participant where
  endpoint : Endpoint
  ring : Option RingName

/-- What a message is for. -/
inductive Command
  /-- To the daemon: list me under the key. -/
  | register
  /-- To the daemon: take me off the key. -/
  | deregister
  /-- From the daemon: this participant is listed under the key. -/
  | peer
  deriving DecidableEq, Repr

namespace Command

def word : Command → String
  | .register => "REGISTER"
  | .deregister => "DEREGISTER"
  | .peer => "PEER"

def ofWord? (word : String) : Option Command :=
  [register, deregister, peer].find? fun c => c.word == word

theorem ofWord?_word (c : Command) : ofWord? c.word = some c := by
  cases c <;> rfl

end Command

/-- One message of the discovery protocol. -/
structure Message where
  command : Command
  key : ServiceKey
  participant : Participant

namespace Message

/-- Stands for a missing ring. -/
def noRing : String := "-"

def ringWord : Option RingName → String
  | some ring => ring.text
  | none => noRing

def render (m : Message) : String :=
  s!"{m.command.word} {m.key.text} {m.participant.endpoint.text} {ringWord m.participant.ring}"

def encode (m : Message) : ByteArray :=
  m.render.toByteArray

end Message
end RingBus
