/-!
# Semaphore names

Each ring is guarded by three semaphores whose names are made from the name of the ring and from
the part they play. A semaphore name is one slash and a word without slashes.
-/

namespace RingBus

/-- The part a semaphore plays for its ring. -/
inductive SemaphoreRole
  /-- Counts empty slots. -/
  | free
  /-- Counts slots that hold unread data. -/
  | filled
  /-- Guards the indices. -/
  | mutex
  deriving DecidableEq, Repr

namespace SemaphoreRole

/-- What a role adds to the name of the ring. -/
def suffix : SemaphoreRole → String
  | .free => "_free"
  | .filled => "_filled"
  | .mutex => "_mutex"

end SemaphoreRole

namespace SemaphoreName

/-- The word that is left of a text without the slashes in front, with an underscore for each
slash inside. -/
def word (base : List Char) : List Char :=
  (base.dropWhile (· == '/')).map fun c => if c = '/' then '_' else c

/-- Makes a semaphore name of any text. -/
def sanitize (base : String) : String :=
  String.ofList ('/' :: word base.toList)

/-- The name of the semaphore that plays `role` for a ring. -/
def ofRing (ring : String) (role : SemaphoreRole) : String :=
  sanitize (ring ++ role.suffix)

end SemaphoreName
end RingBus
