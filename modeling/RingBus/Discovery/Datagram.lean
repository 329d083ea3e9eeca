import RingBus.Discovery.Message

/-!
# Reading datagrams

A datagram is a message if it is text of at most 1024 bytes that holds four words: a command, a
key, an endpoint, and a ring name or a word for none. Any amount of ASCII white space may stand
between and around the words, and NULs at the end do not count. Of several faults the first is
reported, in the order of the constructors of `DatagramFault`.
-/

namespace RingBus

inductive DatagramFault
  | oversized (bytes : Nat)
  | notText
  | empty
  | unknownCommand (word : String)
  | wrongWordCount (command : Command) (found : Nat)
  | invalidField (field reason : String)
  deriving DecidableEq, Repr

namespace Datagram

/-- The most bytes of a datagram that either side reads. -/
def maxSize : Nat := 1024

/-- The room that either side receives into. The byte too many shows that a datagram is longer
than it may be. -/
def bufferSize : Nat := maxSize + 1

def wordCount : Nat := 4

end Datagram

namespace DatagramFault

def message : DatagramFault → String
  | .oversized bytes => s!"Datagram of {bytes} bytes exceeds the {Datagram.maxSize} byte limit"
  | .notText => "Message is not valid UTF-8"
  | .empty => "Empty message"
  | .unknownCommand word => s!"Unknown command: {word}"
  | .wrongWordCount command found =>
    s!"{command.word} expects {Datagram.wordCount} tokens, got {found}"
  | .invalidField field reason => s!"Invalid {field}: {reason}"

/-- An unusable value makes its word an invalid field; the value itself is not repeated. -/
def ofFieldError : FieldError → DatagramFault
  | .invalid field _ reason => .invalidField field reason
  | .outOfBounds field value _ _ => .invalidField field s!"value {value} out of bounds"

end DatagramFault

namespace Datagram

/-! ## Words -/

/-- The longest runs of characters without white space. A character joins the word that begins
right after it, if one does. -/
def words : List Char → List (List Char)
  | [] => []
  | c :: rest =>
    if Text.isSpace c then words rest
    else if rest.head?.all Text.isSpace then [c] :: words rest
    else (words rest).modifyHead (c :: ·)

/-- A text without the NULs at its end. -/
def trimNuls (cs : List Char) : List Char :=
  (cs.reverse.dropWhile (· == Char.ofNat 0)).reverse

/-! ## Fields -/

/-- Another word for a missing ring, understood but never written. -/
def noRingToo : String := "none"

def readRing (word : String) : Except FieldError (Option RingName) :=
  if word = Message.noRing ∨ word = noRingToo then .ok none
  else (RingName.ofString word).map some

/-- Reads the three words after the command. -/
def readFields (command : Command) (key endpoint ring : String) : Except FieldError Message := do
  let key ← ServiceKey.ofString key
  let endpoint ← Endpoint.ofString endpoint
  let ring ← readRing ring
  return ⟨command, key, ⟨endpoint, ring⟩⟩

def readWords : List String → Except DatagramFault Message
  | [] => .error .empty
  | first :: rest =>
    match Command.ofWord? first with
    | none => .error (.unknownCommand first)
    | some command =>
      match rest with
      | [key, endpoint, ring] =>
        (readFields command key endpoint ring).mapError DatagramFault.ofFieldError
      | _ => .error (.wrongWordCount command (rest.length + 1))

def parse (datagram : ByteArray) : Except DatagramFault Message :=
  if maxSize < datagram.size then .error (.oversized datagram.size)
  else
    match Text.ofBytes? datagram with
    | none => .error .notText
    | some text => readWords ((words (trimNuls text.toList)).map String.ofList)

end Datagram
end RingBus
