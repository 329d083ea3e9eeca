import RingBus.Host.Errno
import RingBus.Host.Shared
import RingBus.RetryPolicy

/-!
# Named semaphores

Counters that processes share by name. A semaphore is a file of 32 bytes that begins with its count.
Waiting takes one unit, and signalling gives one back unless the count is 2147483647. Handles keep
the file, so removing the name does not disturb them.
-/

namespace RingBus

/-- A handle on a semaphore. -/
structure Semaphore where
  name : String
  id : Nat
  deriving DecidableEq, Repr

/-- What makes a name or a request unacceptable. -/
inductive SemaphoreFault
  | nul (position : Nat)
  | kernel (e : Errno)
  deriving DecidableEq, Repr

def SemaphoreFault.reason : SemaphoreFault → String
  | .nul position => s!"Invalid name: nul byte found in provided data at position: {position}"
  | .kernel e => e.withSymbol

inductive SemaphoreError
  | createFailed (name : String) (fault : SemaphoreFault)
  | alreadyExists (name : String)
  | openFailed (name : String) (attempts : Nat) (fault : SemaphoreFault)
  | postFailed (name : String) (fault : SemaphoreFault)
  | unlinkFailed (name : String) (fault : SemaphoreFault)
  deriving DecidableEq, Repr

namespace SemaphoreError

def message : SemaphoreError → String
  | .createFailed name fault => s!"Failed to create semaphore {name}: {fault.reason}"
  | .alreadyExists name => s!"Semaphore already exists: {name}"
  | .openFailed name attempts fault =>
    s!"Failed to open semaphore {name} after {attempts} attempts: {fault.reason}"
  | .postFailed name fault => s!"Post on semaphore {name} failed: {fault.reason}"
  | .unlinkFailed name fault => s!"Failed to unlink semaphore {name}: {fault.reason}"

def spelledOut : SemaphoreError → String
  | .createFailed name fault =>
    Text.record "CreateFailed" [("name", Text.quoted name), ("reason", Text.quoted fault.reason)]
  | .alreadyExists name => Text.record "AlreadyExists" [("name", Text.quoted name)]
  | .openFailed name attempts fault =>
    Text.record "OpenFailed"
      [("name", Text.quoted name), ("attempts", toString attempts),
       ("reason", Text.quoted fault.reason)]
  | .postFailed name fault =>
    Text.record "PostFailed" [("name", Text.quoted name), ("reason", Text.quoted fault.reason)]
  | .unlinkFailed name fault =>
    Text.record "Unlink" [("name", Text.quoted name), ("reason", Text.quoted fault.reason)]

end SemaphoreError

namespace Semaphore

/-! ## Names -/

/-- The byte position of the first NUL in a text. -/
def nulPosition? (text : String) : Option Nat :=
  let before := text.toList.takeWhile (· != Char.ofNat 0)
  if before.length < text.toList.length then some (String.ofList before).utf8ByteSize else none

def key (name : String) : String :=
  Shared.word name

def file (name : String) : String :=
  "sem." ++ key name

/-- The longest word in bytes that the kernel can file; a longer one up to `longestWord` is too
long for a file name, and beyond that it is no name at all. -/
def longestKey : Nat := 251

def longestWord : Nat := 255

/-- A name that leads to no word the kernel would consider. -/
def isMalformed (name : String) : Bool :=
  key name == "" || (key name).toList.contains '/' || (key name).utf8ByteSize > longestWord

/-- A name that leads to a word that the kernel considers and cannot file. -/
def isOverlong (name : String) : Bool :=
  !isMalformed name && (key name).utf8ByteSize > longestKey

/-- Checks a name as far as looking it up needs it. -/
def checkName (name : String) : Except SemaphoreFault Unit :=
  match nulPosition? name with
  | some position => .error (.nul position)
  | none =>
    if isMalformed name then .error (.kernel .invalid)
    else if isOverlong name then .error (.kernel .nameTooLong)
    else .ok ()

/-! ## Counts -/

def maxCount : Nat := 2147483647

def fileSize : Nat := 32

/-- Where the file tells that its semaphore is for all processes, and how. -/
def sharingOffset : Nat := 8
def sharingMark : UInt32 := 0x80

/-- The file of a new semaphore. -/
def image (initial : Nat) : Memory :=
  ((Memory.zeroed fileSize).overlay 0 (Memory.wordBytes (UInt32.ofNat initial))).overlay
    sharingOffset (Memory.wordBytes sharingMark)

/-- The number in front of the file. -/
def units (s : Semaphore) (all : Shared) : Nat :=
  ((all.object s.id).wordAt 0).toNat

/-- The count as it is told. A number that is none, which only foreign bytes can be, is told as
zero. -/
def value (s : Semaphore) (all : Shared) : Nat :=
  if s.units all ≤ maxCount then s.units all else 0

/-- Puts another number in front of the file. What its four bytes do not hold goes to the next
four. -/
def setUnits (s : Semaphore) (units : Nat) (all : Shared) : Shared :=
  let m := all.object s.id
  let m := if units < UInt32.size then m else m.overlay 4 (Memory.wordBytes (m.wordAt 4 + 1))
  all.set s.id (m.overlay 0 (Memory.wordBytes (UInt32.ofNat units)))

/-- Takes one unit, unless there is none. -/
def take? (s : Semaphore) (all : Shared) : Option Shared :=
  if s.units all = 0 then none else some (s.setUnits (s.units all - 1) all)

/-- Gives one unit back, unless the count is at its maximum. -/
def give? (s : Semaphore) (all : Shared) : Option Shared :=
  if s.units all = maxCount then none else some (s.setUnits (s.units all + 1) all)

/-- Gives one unit back if there is room for it. -/
def giveBack (s : Semaphore) (all : Shared) : Shared :=
  (s.give? all).getD all

def signal (s : Semaphore) (all : Shared) : Except SemaphoreError Shared :=
  match s.give? all with
  | some after => .ok after
  | none => .error (.postFailed s.name (.kernel .overflow))

/-! ## Handles -/

/-- Creates a semaphore, unless there is a file of its name, whatever it is. What is wrong with the
request is found before what is in the way of it. -/
def create (name : String) (initial : Nat) (all : Shared) :
    Except SemaphoreError (Shared × Semaphore) :=
  match nulPosition? name with
  | some position => .error (.createFailed name (.nul position))
  | none =>
    if isMalformed name ∨ initial > maxCount then .error (.createFailed name (.kernel .invalid))
    else if isOverlong name then .error (.createFailed name (.kernel .nameTooLong))
    else
      match all.named (file name) with
      | some _ => .error (.alreadyExists name)
      | none => .ok (all.insert (file name) (image initial), ⟨name, all.count⟩)

/-- Drops a handle. The file and its name stay. -/
def close (_ : Semaphore) (all : Shared) : Shared :=
  all

/-- Looks a name up once. The file need not be that of a semaphore. -/
def find (name : String) (all : Shared) : Except SemaphoreFault Semaphore :=
  match checkName name with
  | .error fault => .error fault
  | .ok () =>
    match all.named (file name) with
    | some id => .ok ⟨name, id⟩
    | none => .error (.kernel .noEntry)

/-- Whether a name may yet come to exist. -/
def mayAppear : SemaphoreFault → Bool
  | .kernel .noEntry => true
  | _ => false

/-- Looks a name up as often as the policy allows, where `all n` is what attempt number `n`
meets, and keeps account of the attempts and the pauses. -/
def findPatiently (name : String) (policy : RetryPolicy) (all : Nat → Shared) :
    RetryPolicy.Run SemaphoreFault Semaphore :=
  policy.run (fun n => find name (all n)) mayAppear

/-- Opens an existing semaphore, waiting for its name as long as the policy allows, where `all n`
is what attempt number `n` meets. A name with a NUL is never looked up. -/
def openPatiently (name : String) (policy : RetryPolicy) (all : Nat → Shared) :
    RetryPolicy.Run SemaphoreError Semaphore :=
  match nulPosition? name with
  | some position => ⟨.error (.openFailed name 0 (.nul position)), [], 0⟩
  | none =>
    (findPatiently name policy all).mapError fun fault =>
      .openFailed name policy.attempts.toNat fault

/-- What opening an existing semaphore comes to as long as nothing else happens on the host. -/
def openWith (name : String) (policy : RetryPolicy) (all : Shared) :
    Shared × Except SemaphoreError Semaphore :=
  (all, (openPatiently name policy fun _ => all).answer)

/-- Removes a name. A name that is not there, or that leads to no word, is no error. -/
def unlink (name : String) (all : Shared) : Except SemaphoreError Shared :=
  match nulPosition? name with
  | some position => .error (.unlinkFailed name (.nul position))
  | none =>
    if isOverlong name then .error (.unlinkFailed name (.kernel .nameTooLong))
    else .ok (all.unlink (file name))

end Semaphore
end RingBus
