import RingBus.Proofs.Ring.Queue

/-!
# The life of one ring

Whoever knows the name of a ring can open it, and then write, read and look as often as it likes.
Others open one of the two counting semaphores for themselves, take units and give back what they
took, like a process that was suspended between its wait and its signal. All this happens in any
order; a session is the state in between.
-/

namespace RingBus
namespace Ring

/-- The shared files, and who can do what with a ring. -/
structure Session where
  shared : Shared
  /-- The handles on the ring. -/
  handles : List Ring
  /-- The handles on single semaphores, with the roles under which they were opened. -/
  peers : List (SemaphoreRole × Semaphore)
  /-- The units that were taken through them and not given back. -/
  held : SemaphoreRole → Nat

namespace Session

/-- A ring in the hands of its creator. -/
def start (r : Ring) (s : Shared) : Session :=
  ⟨s, [r], [], fun _ => 0⟩

/-- What can happen to the ring called `name`. -/
inductive Step (name : RingName) : Session → Event → Session → Prop
  | write {σ : Session} (r : Ring) (payload : ByteArray) (patience : Patience) :
      r ∈ σ.handles →
      Step name σ (.write payload patience (r.write payload patience σ.shared).2)
        { σ with shared := (r.write payload patience σ.shared).1 }
  | read {σ : Session} (r : Ring) (patience : Patience) :
      r ∈ σ.handles →
      Step name σ (.read patience (r.read patience σ.shared).2)
        { σ with shared := (r.read patience σ.shared).1 }
  | indices {σ : Session} (r : Ring) :
      r ∈ σ.handles →
      Step name σ (.indices (r.indices σ.shared).2) { σ with shared := (r.indices σ.shared).1 }
  | freeSlots {σ : Session} (r : Ring) :
      r ∈ σ.handles → Step name σ (.freeSlots (r.freeSlots σ.shared)) σ
  | filledSlots {σ : Session} (r : Ring) :
      r ∈ σ.handles → Step name σ (.filledSlots (r.filledSlots σ.shared)) σ
  | openRing {σ : Session} {after : Shared} (r : Ring) (policy : RetryPolicy) :
      openNamed name policy σ.shared = (after, .value r) →
      Step name σ .openRing { σ with shared := after, handles := r :: σ.handles }
  | openSemaphore {σ : Session} {after : Shared} (sem : Semaphore) (role : SemaphoreRole)
      (policy : RetryPolicy) :
      Semaphore.openWith (SemaphoreName.ofRing name.text role) policy σ.shared =
        (after, .ok sem) →
      Step name σ (.openSemaphore role) { σ with shared := after, peers := (role, sem) :: σ.peers }
  | take {σ : Session} (sem : Semaphore) {role : SemaphoreRole} {after : Shared} :
      (role, sem) ∈ σ.peers → role ≠ .mutex → sem.take? σ.shared = some after →
      Step name σ (.take role)
        { σ with
          shared := after
          held := Function.update σ.held role (σ.held role + 1) }
  | giveBack {σ : Session} (sem : Semaphore) {role : SemaphoreRole} :
      (role, sem) ∈ σ.peers → 0 < σ.held role →
      Step name σ (.giveBack role)
        { σ with
          shared := sem.giveBack σ.shared
          held := Function.update σ.held role (σ.held role - 1) }

end Session

end Ring
end RingBus
