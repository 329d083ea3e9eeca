import RingBus.Host.Errno
import RingBus.Host.Shared
import RingBus.RingName

/-!
# Shared memory segments

A segment is created under a free name and opened by name. Only the handle that created it may
remove the name, and only once; dropping a handle removes nothing. What is opened may also be the
file of a semaphore.
-/

namespace RingBus

/-- A handle on a segment, mapped as a whole. -/
structure Segment where
  name : RingName
  id : Nat
  size : Nat
  /-- Whether this handle created the segment. -/
  owner : Bool
  /-- Whether this handle has removed the name. -/
  unlinked : Bool
  deriving DecidableEq

/-- Why a segment could not be created or opened. -/
inductive SegmentError
  | sizeOutside (name : RingName) (size : Nat)
  | alreadyExists (name : RingName)
  | refused (name : RingName) (cause : Errno)
  | oversized (name : RingName) (size : Nat)
  | tooSmall (name : RingName) (size required : Nat)
  deriving DecidableEq

namespace Segment

def maxSize : Nat := 1073741824

end Segment

namespace SegmentError

/-- The reason inside the sentence, for the errors that have one. -/
def reason : SegmentError → String
  | .sizeOutside _ size => s!"Size {size} outside 1..={Segment.maxSize}"
  | .refused _ cause => s!"shm_open failed: {cause.withNumber}"
  | .oversized _ size => s!"Segment size {size} exceeds {Segment.maxSize}"
  | .alreadyExists _ => ""
  | .tooSmall _ _ _ => ""

def message (e : SegmentError) : String :=
  match e with
  | .sizeOutside name _ => s!"Failed to create shared memory segment: {name.text} - {e.reason}"
  | .alreadyExists name => s!"Shared memory segment already exists: {name.text}"
  | .refused name _ => s!"Failed to open shared memory segment: {name.text} - {e.reason}"
  | .oversized name _ => s!"Failed to open shared memory segment: {name.text} - {e.reason}"
  | .tooSmall name size required =>
    s!"Shared memory segment {name.text} too small: {size} bytes, need {required}"

def spelledOut (e : SegmentError) : String :=
  let named := fun (kind : String) (name : RingName) =>
    Text.record kind [("name", Text.quoted name.text), ("reason", Text.quoted e.reason)]
  match e with
  | .sizeOutside name _ => named "CreateFailed" name
  | .alreadyExists name => Text.record "AlreadyExists" [("name", Text.quoted name.text)]
  | .refused name _ => named "OpenFailed" name
  | .oversized name _ => named "OpenFailed" name
  | .tooSmall name size required =>
    Text.record "TooSmall"
      [("name", Text.quoted name.text), ("size", toString size), ("required", toString required)]

end SegmentError

namespace Segment

def file (name : String) : String :=
  Shared.word name

def memory (segment : Segment) (s : Shared) : Memory :=
  s.object segment.id

/-- Creates a segment of zeros, unless there is a file of its name, whatever it is. -/
def create (name : RingName) (size : Nat) (s : Shared) :
    Except SegmentError (Shared × Segment) :=
  if size = 0 ∨ size > maxSize then .error (.sizeOutside name size)
  else if Shared.isTaken (file name.text) s then .error (.alreadyExists name)
  else .ok (s.insert (file name.text) (Memory.zeroed size), ⟨name, s.count, size, true, false⟩)

/-- Drops a handle. The file and its name stay. -/
def close (_ : Segment) (s : Shared) : Shared :=
  s

/-- Maps the whole file of a name, which need not be that of a segment. -/
def openNamed (name : RingName) (s : Shared) : Shared × Except SegmentError Segment :=
  if Shared.isDirectory (file name.text) then (s, .error (.refused name .invalid))
  else
    match s.named (file name.text) with
    | none => (s, .error (.refused name .noEntry))
    | some id =>
      let size := (s.object id).size
      if size = 0 then (s, .error (.tooSmall name size 1))
      else if size > maxSize then (s, .error (.oversized name size))
      else (s, .ok ⟨name, id, size, false, false⟩)

/-- Removes the name, if this handle created the segment and has not done so before. Tells whether
it did. -/
def unlink (segment : Segment) (s : Shared) : Shared × Segment × Bool :=
  if segment.owner && !segment.unlinked then
    (s.unlink (file segment.name.text), { segment with unlinked := true }, true)
  else
    (s, segment, false)

end Segment
end RingBus
