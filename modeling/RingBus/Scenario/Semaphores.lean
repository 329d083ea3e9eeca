import RingBus.Scenario.Answer

/-!
# Steps on semaphores
-/

namespace RingBus

/-- A step on a semaphore, or on the three semaphores of a ring. -/
inductive SemaphoreStep
  | create (id name : String) (initial : Nat)
  | openNamed (id name : String) (attempts : Option Nat)
  | unlink (name : String)
  | name (id : String)
  | value (id : String)
  | signal (id : String)
  | tryWait (id : String)
  | wait (id : String)
  | waitFor (id : String) (limit : Duration)
  /-- Takes a unit, and gives it back at the end of a block. -/
  | hold (id : String)
  | createTriplet (id name : String) (slots : UInt32)
  | openTriplet (id name : String) (attempts : Option Nat)
  | tripletValues (id : String)
  | unlinkTriplet (id : String)

namespace World

/-- The longest wait that a script really makes. -/
def maxWait : Duration :=
  .ofMillis 100

def withSemaphore (w : World) (id : String) (look : Semaphore → World × Answer) :
    World × Answer :=
  match w.object? id with
  | some (.semaphore s) => look s
  | _ => (w, .refused .noObject)

def withTriplet (w : World) (id : String) (look : Triplet → World × Answer) : World × Answer :=
  match w.object? id with
  | some (.triplet t) => look t
  | _ => (w, .refused .noObject)

/-- Takes a unit, or answers otherwise if there is none. -/
def takeUnit (w : World) (id : String) (taken otherwise : Answer) : World × Answer :=
  w.withSemaphore id fun s =>
    match s.take? w.host.shared with
    | some shared => (w.withShared shared, taken)
    | none => (w, otherwise)

def namesOf (t : Triplet) : Answer :=
  .texts (t.toList.map Semaphore.name)

def semaphoreStep (w : World) : SemaphoreStep → World × Answer
  | .create id name initial =>
    match Semaphore.create name initial w.host.shared with
    | .ok (shared, s) => ((w.withShared shared).put id (.semaphore s), .done)
    | .error e => (w, .refused (.semaphore e))
  | .openNamed id name attempts =>
    match Semaphore.openWith name (.ofAttempts attempts) w.host.shared with
    | (shared, .ok s) => ((w.withShared shared).put id (.semaphore s), .done)
    | (shared, .error e) => (w.withShared shared, .refused (.semaphore e))
  | .unlink name =>
    match Semaphore.unlink name w.host.shared with
    | .ok shared => (w.withShared shared, .done)
    | .error e => (w, .refused (.semaphore e))
  | .name id => w.withSemaphore id fun s => (w, .text s.name)
  | .value id => w.withSemaphore id fun s => (w, .count (s.value w.host.shared))
  | .signal id =>
    w.withSemaphore id fun s =>
      match s.signal w.host.shared with
      | .ok shared => (w.withShared shared, .done)
      | .error e => (w, .refused (.semaphore e))
  | .tryWait id => w.takeUnit id (.flag true) (.flag false)
  | .wait id => w.takeUnit id .done .blocked
  | .waitFor id limit =>
    let late := if maxWait.toNanos < limit.toNanos then .blocked else .flag false
    w.takeUnit id (.flag true) late
  | .hold id =>
    w.withSemaphore id fun s =>
      match s.take? w.host.shared with
      | some taken =>
        let after := s.giveBack taken
        (w.withShared after, .held (s.value taken) (s.value after))
      | none => (w, .blocked)
  | .createTriplet id name slots =>
    match Triplet.create name slots w.host.shared with
    | (shared, .ok t) => ((w.withShared shared).put id (.triplet t), namesOf t)
    | (shared, .error e) => (w.withShared shared, .refused (.semaphore e))
  | .openTriplet id name attempts =>
    match Triplet.openWith name (.ofAttempts attempts) w.host.shared with
    | (shared, .ok t) => ((w.withShared shared).put id (.triplet t), namesOf t)
    | (shared, .error e) => (w.withShared shared, .refused (.semaphore e))
  | .tripletValues id =>
    w.withTriplet id fun t =>
      (w, .counts (t.toList.map fun s => s.value w.host.shared))
  | .unlinkTriplet id =>
    w.withTriplet id fun t =>
      match t.unlink w.host.shared with
      | (shared, .ok ()) => (w.withShared shared, .done)
      | (shared, .error e) => (w.withShared shared, .refused (.semaphore e))

end World
end RingBus
