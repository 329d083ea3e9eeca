import RingBus.ServiceKey
import RingBus.Text.Blank

/-!
# Ring names

The name of a ring in shared memory: a slash and then one word without further slashes, blanks or
control characters, 200 bytes in all, which leaves room for what the names of its semaphores add.
-/

namespace RingBus

def RingName.maxLength : Nat := 200

/-- The rules of a ring name. -/
structure RingName.WellFormed (text : String) : Prop where
  slash : text.toList.head? = some '/'
  word : text.toList.tail ≠ []
  single : '/' ∉ text.toList.tail
  short : text.utf8ByteSize ≤ RingName.maxLength
  plain : text.toList.any Text.isBlankOrControl = false

/-- The name of a ring in shared memory. -/
structure RingName where
  text : String
  wellFormed : RingName.WellFormed text
  deriving DecidableEq

namespace RingName

inductive Fault
  | noSlash
  | onlySlash
  | innerSlash
  | tooLong
  | blankOrControl
  deriving DecidableEq, Repr

def Fault.reason : Fault → String
  | .noSlash => "Shared memory name must start with '/'"
  | .onlySlash => "Shared memory name cannot be just '/'"
  | .innerSlash => "Shared memory name cannot contain '/' after the leading one"
  | .tooLong => "Shared memory name too long"
  | .blankOrControl => "Shared memory name cannot contain whitespace or control characters"

/-- Reads a ring name, or tells the first rule that the text breaks. -/
def check (text : String) : Except Fault RingName :=
  if slash : text.toList.head? = some '/' then
    if word : text.toList.tail = [] then .error .onlySlash
    else if single : '/' ∈ text.toList.tail then .error .innerSlash
    else if short : text.utf8ByteSize ≤ maxLength then
      if plain : text.toList.any Text.isBlankOrControl = false then
        .ok ⟨text, ⟨slash, word, single, short, plain⟩⟩
      else .error .blankOrControl
    else .error .tooLong
  else .error .noSlash

/-- Reads a ring name given as the value of a field. -/
def ofString (text : String) : Except FieldError RingName :=
  (check text).mapError fun fault => .invalid "shm_name" text fault.reason

theorem check_text (name : RingName) : check name.text = .ok name := by
  obtain ⟨text, slash, word, single, short, plain⟩ := name
  simp only [check, dif_pos slash, dif_neg word, dif_neg single, dif_pos short, dif_pos plain]

theorem text_of_check {text : String} {name : RingName} (h : check text = .ok name) :
    name.text = text := by
  unfold check at h
  repeat' split at h
  all_goals first
    | cases h; rfl
    | cases h

/-- The customary name for the ring of a participant: who made it, the key that it serves, and
what tells its maker apart from others. -/
def derived (family : String) (key : ServiceKey) (identity : String) :
    Except FieldError RingName :=
  ofString s!"/{family}_{key.text}_{identity}"

instance : ToString RingName := ⟨text⟩

end RingName
end RingBus
