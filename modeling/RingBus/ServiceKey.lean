import RingBus.FieldError

/-!
# Service keys

A service key groups the participants that want to find each other: one to 64 letters, digits,
hyphens, underscores and dots.
-/

namespace RingBus

/-- A character that may stand in a service key. -/
def isKeyChar (c : Char) : Bool :=
  c.isAlphanum || c == '-' || c == '_' || c == '.'

def ServiceKey.maxLength : Nat := 64

/-- The name under which participants register. -/
structure ServiceKey where
  text : String
  nonempty : text ≠ ""
  short : text.utf8ByteSize ≤ ServiceKey.maxLength
  plain : text.toList.all isKeyChar = true
  deriving DecidableEq, Repr

namespace ServiceKey

inductive Fault
  | empty
  | tooLong (bytes : Nat)
  | foreignCharacter
  deriving DecidableEq, Repr

def Fault.reason : Fault → String
  | .empty => "Service key cannot be empty"
  | .tooLong bytes => s!"Service key too long: {bytes} chars (max {maxLength})"
  | .foreignCharacter =>
    "Service key must contain only alphanumeric characters, '-', '_' and '.'"

/-- Reads a key, or tells the first rule that the text breaks. -/
def check (text : String) : Except Fault ServiceKey :=
  if nonempty : text = "" then .error .empty
  else if short : text.utf8ByteSize ≤ maxLength then
    if plain : text.toList.all isKeyChar = true then .ok ⟨text, nonempty, short, plain⟩
    else .error .foreignCharacter
  else .error (.tooLong text.utf8ByteSize)

/-- Reads a key given as the value of a field. -/
def ofString (text : String) : Except FieldError ServiceKey :=
  (check text).mapError fun fault => .invalid "service_key" text fault.reason

theorem check_text (key : ServiceKey) : check key.text = .ok key := by
  simp [check, key.nonempty, key.short, key.plain]

theorem text_of_check {text : String} {key : ServiceKey} (h : check text = .ok key) :
    key.text = text := by
  unfold check at h
  split at h
  · cases h
  · split at h
    · split at h
      · cases h
        rfl
      · cases h
    · cases h

instance : ToString ServiceKey := ⟨text⟩

/-- Keys are ordered by their bytes. -/
def le (a b : ServiceKey) : Bool :=
  decide (a.text ≤ b.text)

end ServiceKey
end RingBus
