import RingBus.Semaphore.Basic
import RingBus.Semaphore.Name

/-!
# The three semaphores of a ring

They are created together or not at all, and opened in a fixed order.
-/

namespace RingBus

/-- Handles on the semaphores that guard one ring. -/
structure Triplet where
  free : Semaphore
  filled : Semaphore
  mutex : Semaphore
  deriving DecidableEq, Repr

namespace Triplet

/-- Removes a name on the way back from a failed creation. -/
def withdraw (s : Semaphore) (all : Shared) : Shared :=
  match Semaphore.unlink s.name all with
  | .ok after => after
  | .error _ => all

/-- Creates the three semaphores of a ring. If one cannot be created, the names of those before
it are removed again. -/
def create (ring : String) (slots : UInt32) (all : Shared) :
    Shared × Except SemaphoreError Triplet :=
  match Semaphore.create (SemaphoreName.ofRing ring .free) slots.toNat all with
  | .error e => (all, .error e)
  | .ok (all, free) =>
    match Semaphore.create (SemaphoreName.ofRing ring .filled) 0 all with
    | .error e => (withdraw free all, .error e)
    | .ok (all, filled) =>
      match Semaphore.create (SemaphoreName.ofRing ring .mutex) 1 all with
      | .error e => (withdraw filled (withdraw free all), .error e)
      | .ok (all, mutex) => (all, .ok ⟨free, filled, mutex⟩)

/-- Opens the three semaphores of a ring, waiting for each as long as the policy allows. If one
cannot be opened, the handles on those before it are dropped. -/
def openWith (ring : String) (policy : RetryPolicy) (all : Shared) :
    Shared × Except SemaphoreError Triplet :=
  match Semaphore.openWith (SemaphoreName.ofRing ring .free) policy all with
  | (all, .error e) => (all, .error e)
  | (all, .ok free) =>
    match Semaphore.openWith (SemaphoreName.ofRing ring .filled) policy all with
    | (all, .error e) => (free.close all, .error e)
    | (all, .ok filled) =>
      match Semaphore.openWith (SemaphoreName.ofRing ring .mutex) policy all with
      | (all, .error e) => (filled.close (free.close all), .error e)
      | (all, .ok mutex) => (all, .ok ⟨free, filled, mutex⟩)

/-- The semaphores in the order in which they are handled. -/
def toList (t : Triplet) : List Semaphore :=
  [t.free, t.filled, t.mutex]

def close (t : Triplet) (all : Shared) : Shared :=
  t.toList.foldl (fun all s => s.close all) all

/-- Removes the three names. Each is attempted; the first error is reported. -/
def unlink (t : Triplet) (all : Shared) : Shared × Except SemaphoreError Unit :=
  t.toList.foldl
    (fun (all, result) s =>
      match Semaphore.unlink s.name all with
      | .ok after => (after, result)
      | .error e => (all, match result with
        | .ok () => .error e
        | .error first => .error first))
    (all, .ok ())

end Triplet
end RingBus
