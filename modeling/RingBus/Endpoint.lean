import RingBus.FieldError
import RingBus.Path
import RingBus.Text.Blank
import RingBus.Text.Lossy

/-!
# Endpoints

Where a participant can be reached: the absolute path of its socket, at most 107 bytes of text
without blanks and control characters. Two endpoints are the same if their paths agree word by
word, however they are spelled; the spelling itself is kept.
-/

namespace RingBus

def Endpoint.maxLength : Nat := 107

/-- The path of a datagram socket. -/
structure Endpoint where
  text : String
  absolute : Path.isAbsolute text = true
  short : text.utf8ByteSize ≤ Endpoint.maxLength
  plain : text.toList.any Text.isBlankOrControl = false

namespace Endpoint

/-- Why a path is no endpoint. -/
inductive Fault
  | relative
  | notText
  | tooLong (bytes : Nat)
  | blankOrControl
  deriving DecidableEq, Repr

def Fault.reason : Fault → String
  | .relative => "Endpoint path must be absolute"
  | .notText => "Endpoint path must be valid UTF-8"
  | .tooLong bytes => s!"Endpoint path too long: {bytes} bytes (max {maxLength})"
  | .blankOrControl => "Endpoint path cannot contain whitespace or control characters"

/-- Reads an endpoint, or tells the first rule that the path breaks. -/
def check (text : String) : Except Fault Endpoint :=
  if absolute : Path.isAbsolute text = true then
    if short : text.utf8ByteSize ≤ maxLength then
      if plain : text.toList.any Text.isBlankOrControl = false then
        .ok ⟨text, absolute, short, plain⟩
      else .error .blankOrControl
    else .error (.tooLong text.utf8ByteSize)
  else .error .relative

/-- Reads an endpoint given as the value of a field. -/
def ofString (text : String) : Except FieldError Endpoint :=
  (check text).mapError fun fault => .invalid "endpoint" text fault.reason

/-- Reads an endpoint from the bytes of a path, which need not be text. -/
def ofBytes (bytes : ByteArray) : Except FieldError Endpoint :=
  match Text.ofBytes? bytes with
  | some text => ofString text
  | none =>
    let fault := if bytes.data[0]? = some 0x2F then Fault.notText else Fault.relative
    .error (.invalid "endpoint" (Text.lossy bytes) fault.reason)

theorem check_text (e : Endpoint) : check e.text = .ok e := by
  simp [check, e.absolute, e.short, e.plain]

theorem text_of_check {text : String} {e : Endpoint} (h : check text = .ok e) :
    e.text = text := by
  unfold check at h
  repeat' split at h
  all_goals first
    | cases h; rfl
    | cases h

/-- What all spellings of an endpoint share. -/
def key (e : Endpoint) : Path.Key :=
  Path.key e.text

/-- Endpoints are the same if their paths are. -/
instance : BEq Endpoint := ⟨fun a b => a.key == b.key⟩

theorem beq_iff {a b : Endpoint} : (a == b) = true ↔ a.key = b.key := by
  change (a.key == b.key) = true ↔ _
  simp

instance : ToString Endpoint := ⟨text⟩

end Endpoint
end RingBus
