import RingBus.Proofs.Ring.Session
import RingBus.Proofs.Ring.Transfer

/-!
# A ring is a bounded queue

Whatever its users do in whatever order, a ring answers like a queue: head and tail run around the
slots, the slots between them hold the messages that wait, and the two counting semaphores together
with the units that others hold account for every slot.
-/

namespace RingBus
namespace Ring

variable {name : RingName} {b r : Ring} {σ σ' : Session} {q : Queue} {event : Event}

/-- A session of the ring that `b` created is what a queue stands for. -/
structure Tracks (name : RingName) (b : Ring) (σ : Session) (q : Queue) : Prop where
  mounted : b.Mounted σ.shared
  opened : Opened name σ.shared b.visitor
  creator : b ∈ σ.handles
  handles : ∀ r ∈ σ.handles, r.visitor = b.visitor
  peers : ∀ {role sem}, (role, sem) ∈ σ.peers → sem.id = (b.semaphores.playing role).id
  held : q.held = σ.held
  mutex_held : q.held .mutex = 0
  mutex : b.units .mutex σ.shared = 1
  head : (b.headIndex σ.shared).toNat = q.head b.geometry
  tail : (b.tailIndex σ.shared).toNat = q.tail b.geometry
  free : b.units .free σ.shared + q.held .free + q.items.length = b.geometry.slotCount.toNat
  filled : b.units .filled σ.shared + q.held .filled = q.items.length
  fits : ∀ p ∈ q.items, p.size ≤ b.geometry.slotSize.toNat
  /-- The messages stand in the slots from the head on. -/
  holds : ∀ {k p}, q.items[k]? = some p →
    Holds b.geometry (b.memory σ.shared) ((q.taken + k) % b.geometry.slotCount.toNat) p

/-- Positions closer together than the slots are many lie in different slots. -/
theorem mod_ne_mod {n a k l : Nat} (hLess : k < l) (hNear : l < k + n) :
    (a + k) % n ≠ (a + l) % n := by
  intro h
  have hZero : (a + l - (a + k)) % n = 0 := Nat.sub_mod_eq_zero_of_mod_eq h.symm
  rw [Nat.mod_eq_of_lt (by omega)] at hZero
  omega

namespace Tracks

variable (tracks : Tracks name b σ q)
include tracks

/-! ## What the counts say -/

/-- The queue has as much room as there are free units. -/
theorem room_eq : q.room b.geometry = b.units .free σ.shared := by
  have hFree := tracks.free
  rw [Queue.room]
  omega

/-- The queue has as much ready as there are filled units. -/
theorem ready_eq : q.ready = b.units .filled σ.shared := by
  have hFilled := tracks.filled
  rw [Queue.ready]
  omega

theorem ready : b.Ready σ.shared where
  mutex_pos := Nat.le_of_eq tracks.mutex.symm
  mutex_le := by
    rw [tracks.mutex]
    decide
  room := by
    have hFree := tracks.free
    have hFilled := tracks.filled
    have hCount := b.geometry.slotCount_le_maxCount
    omega

theorem tail_lt : b.tailIndex σ.shared < b.geometry.slotCount := by
  rw [UInt32.lt_iff_toNat_lt, tracks.tail]
  exact Nat.mod_lt _ b.geometry.slotCount_pos

theorem head_lt : b.headIndex σ.shared < b.geometry.slotCount := by
  rw [UInt32.lt_iff_toNat_lt, tracks.head]
  exact Nat.mod_lt _ b.geometry.slotCount_pos

/-! ## Writing -/

/-- The queue after a message went in. -/
theorem written {payload : ByteArray} (hSize : payload.size ≤ b.geometry.slotSize.toNat)
    (hPos : 0 < b.units .free σ.shared) :
    Tracks name b { σ with shared := b.written payload σ.shared }
      { q with items := q.items ++ [payload] } := by
  have hFree := tracks.free
  have hFilled := tracks.filled
  have hCount := b.geometry.slotCount_le_maxCount
  have hTailIndex : (b.tailIndex σ.shared).toNat < b.geometry.slotCount.toNat :=
    UInt32.lt_iff_toNat_lt.mp tracks.tail_lt
  refine
    { mounted := tracks.mounted.written
      opened := tracks.opened.written
      creator := tracks.creator
      handles := tracks.handles
      peers := tracks.peers
      held := tracks.held
      mutex_held := tracks.mutex_held
      mutex := (units_mutex_written tracks.mounted).trans tracks.mutex
      head := ?_
      tail := ?_
      free := ?_
      filled := ?_
      fits := ?_
      holds := ?_ }
  · rw [headIndex, memory_written, wordAt_deposited (by decide) (.inl (by decide))]
    exact tracks.head
  · rw [tailIndex, memory_written, wordAt_tail_deposited, toNat_next _ hTailIndex, tracks.tail]
    simp only [Queue.tail, List.length_append, List.length_singleton, Nat.mod_add_mod,
      Nat.add_assoc]
  · rw [units_free_written tracks.mounted]
    simp only [List.length_append, List.length_singleton]
    omega
  · rw [units_filled_written tracks.mounted _ (by omega)]
    simp only [List.length_append, List.length_singleton]
    omega
  · intro p hp
    rcases List.mem_append.mp hp with hOld | hNew
    · exact tracks.fits p hOld
    · rw [List.mem_singleton.mp hNew]
      exact hSize
  · intro k p hk
    rw [memory_written]
    -- An older message stands in another slot, because fewer than all slots are in use.
    rcases Nat.lt_or_ge k q.items.length with hOld | hNew
    · rw [List.getElem?_append_left hOld] at hk
      have hOther : (q.taken + k) % b.geometry.slotCount.toNat ≠
          (b.tailIndex σ.shared).toNat := by
        rw [tracks.tail]
        exact mod_ne_mod hOld (by omega)
      exact holds_deposited_other (tracks.holds hk) (tracks.fits p (List.mem_of_getElem? hk)) hSize
        hOther
    · -- The new message stands where the tail was.
      rw [List.getElem?_append_right hNew] at hk
      have hLast : k - q.items.length = 0 := by
        have hSome := List.getElem?_eq_some_iff.mp hk
        have hLength := hSome.1
        rw [List.length_singleton] at hLength
        omega
      rw [hLast, List.getElem?_cons_zero, Option.some.injEq] at hk
      have hHere : (q.taken + k) % b.geometry.slotCount.toNat = (b.tailIndex σ.shared).toNat := by
        rw [tracks.tail, Queue.tail, show k = q.items.length by omega]
      rw [← hk, hHere]
      exact holds_deposited

/-- A write is answered like by the queue. -/
theorem write (payload : ByteArray) (patience : Patience) :
    (b.write payload patience σ.shared).2 = (q.write b.geometry payload patience).2 ∧
      Tracks name b { σ with shared := (b.write payload patience σ.shared).1 }
        (q.write b.geometry payload patience).1 := by
  rw [write_eq tracks.mounted tracks.ready, Queue.write, tracks.room_eq]
  by_cases hLarge : b.geometry.slotSize.toNat < payload.size
  · rw [if_pos hLarge, if_pos hLarge]
    exact ⟨rfl, tracks⟩
  rw [if_neg hLarge, if_neg hLarge]
  by_cases hZero : b.units .free σ.shared = 0
  · rw [if_pos hZero, if_pos hZero]
    exact ⟨rfl, tracks⟩
  rw [if_neg hZero, if_neg hZero, if_neg (UInt32.not_le.mpr tracks.tail_lt)]
  exact ⟨rfl, tracks.written (Nat.le_of_not_lt hLarge) (Nat.pos_of_ne_zero hZero)⟩

/-! ## Reading -/

section

variable {p : ByteArray} {rest : List ByteArray} (hItems : q.items = p :: rest)
include hItems

/-- The slot at the head holds the oldest message. -/
theorem holds_oldest :
    Holds b.geometry (b.memory σ.shared) (b.headIndex σ.shared).toNat p := by
  have hFirst : q.items[0]? = some p := by
    rw [hItems]
    rfl
  rw [tracks.head]
  exact tracks.holds hFirst

theorem toNat_lengthAtHead : (b.lengthAtHead σ.shared).toNat = p.size := by
  have hFits := tracks.fits p (by rw [hItems]; exact List.mem_cons_self)
  have hSmall := b.geometry.slotSize.toNat_lt
  rw [lengthAtHead, (tracks.holds_oldest hItems).length, UInt32.toNat_ofNat']
  exact Nat.mod_eq_of_lt (by omega)

/-- The payload at the head is the oldest message. -/
theorem payloadAtHead_eq : b.payloadAtHead σ.shared = p := by
  rw [payloadAtHead, tracks.toNat_lengthAtHead hItems]
  exact (tracks.holds_oldest hItems).bytes

theorem lengthAtHead_le : b.lengthAtHead σ.shared ≤ b.geometry.slotSize := by
  rw [UInt32.le_iff_toNat_le, tracks.toNat_lengthAtHead hItems]
  exact tracks.fits p (by rw [hItems]; exact List.mem_cons_self)

/-- The queue after the oldest message came out. -/
theorem consumed (hPos : 0 < b.units .filled σ.shared) :
    Tracks name b { σ with shared := b.consumed σ.shared }
      { q with items := rest, taken := q.taken + 1 } := by
  have hFree := tracks.free
  have hFilled := tracks.filled
  have hTail := tracks.tail
  have hCount := b.geometry.slotCount_le_maxCount
  have hHeadIndex : (b.headIndex σ.shared).toNat < b.geometry.slotCount.toNat :=
    UInt32.lt_iff_toNat_lt.mp tracks.head_lt
  -- Positions are counted from the messages that were read, so each moves up by one.
  have hNext : ∀ k, q.taken + 1 + k = q.taken + (k + 1) := by
    intro k
    omega
  rw [hItems, List.length_cons] at hFree hFilled
  rw [Queue.tail, hItems, List.length_cons] at hTail
  refine
    { mounted := tracks.mounted.consumed
      opened := tracks.opened.consumed
      creator := tracks.creator
      handles := tracks.handles
      peers := tracks.peers
      held := tracks.held
      mutex_held := tracks.mutex_held
      mutex := (units_mutex_consumed tracks.mounted).trans tracks.mutex
      head := ?_
      tail := ?_
      free := ?_
      filled := ?_
      fits := ?_
      holds := ?_ }
  · rw [headIndex, memory_consumed, wordAt_head_collected, toNat_next _ hHeadIndex, tracks.head]
    simp only [Queue.head, Nat.mod_add_mod]
  · rw [tailIndex, memory_consumed, wordAt_collected (.inr (by decide))]
    rw [Queue.tail, hNext]
    exact hTail
  · rw [units_free_consumed tracks.mounted (by omega)]
    simp only
    omega
  · rw [units_filled_consumed tracks.mounted]
    simp only
    omega
  · intro p' hp
    exact tracks.fits p' (by rw [hItems]; exact List.mem_cons_of_mem _ hp)
  · intro k p' hk
    rw [memory_consumed, hNext]
    exact holds_collected (tracks.holds (by rw [hItems]; exact hk))

end

/-- A read is answered like by the queue. -/
theorem read (patience : Patience) :
    (b.read patience σ.shared).2 = (q.read patience).2 ∧
      Tracks name b { σ with shared := (b.read patience σ.shared).1 } (q.read patience).1 := by
  have hFilled := tracks.filled
  rw [read_eq tracks.mounted tracks.ready, Queue.read, tracks.ready_eq]
  cases hUnits : b.units .filled σ.shared with
  | zero =>
    rw [if_pos rfl]
    exact ⟨rfl, tracks⟩
  | succ units =>
    cases hItems : q.items with
    | nil =>
      -- A unit of `filled` stands for a message that waits.
      rw [hItems, List.length_nil] at hFilled
      omega
    | cons p rest =>
      rw [if_neg (Nat.succ_ne_zero _), if_neg (UInt32.not_le.mpr tracks.head_lt),
        if_neg (UInt32.not_lt.mpr (tracks.lengthAtHead_le hItems)),
        tracks.payloadAtHead_eq hItems]
      exact ⟨rfl, tracks.consumed hItems (by omega)⟩

/-! ## Looking -/

/-- The free slots that are told are the room of the queue. -/
theorem freeSlots_eq : b.freeSlots σ.shared = q.room b.geometry :=
  tracks.ready.freeSlots_eq.trans tracks.room_eq.symm

/-- The filled slots that are told are the messages that are ready. -/
theorem filledSlots_eq : b.filledSlots σ.shared = q.ready :=
  tracks.ready.filledSlots_eq.trans tracks.ready_eq.symm

/-- Looking at the indices takes the mutex and gives it back. -/
theorem indices :
    b.indices σ.shared =
      (σ.shared, .value (UInt32.ofNat (q.head b.geometry), UInt32.ofNat (q.tail b.geometry))) := by
  have hMutex : ¬ b.units .mutex σ.shared = 0 := Nat.ne_of_gt tracks.ready.mutex_pos
  rw [indices_eq tracks.mounted, if_neg hMutex,
    released_eq tracks.ready.mutex_pos tracks.ready.mutex_le, ← tracks.head, ← tracks.tail,
    UInt32.ofNat_toNat, UInt32.ofNat_toNat]

/-! ## Units in other hands -/

/-- Units of a counting semaphore may go to others and come back. -/
theorem recount {role : SemaphoreRole} (hRole : role ≠ .mutex) {units held : Nat}
    (hSmall : units < UInt32.size)
    (hSum : units + held = b.units role σ.shared + q.held role) :
    Tracks name b
      { σ with
        shared := (b.semaphores.playing role).setUnits units σ.shared
        held := Function.update q.held role held }
      { q with held := Function.update q.held role held } := by
  let after := (b.semaphores.playing role).setUnits units σ.shared
  have hUnits : ∀ role', role' ≠ role → b.units role' after = b.units role' σ.shared :=
    fun role' h => Semaphore.units_setUnits_other (tracks.mounted.playing_ne _ _ h)
  -- Units change hands, but for each semaphore their number stays.
  have hTotal : ∀ role', b.units role' after + Function.update q.held role held role' =
      b.units role' σ.shared + q.held role' := by
    intro role'
    by_cases h : role' = role
    · rw [h, Function.update_self, ← hSum]
      exact congrArg (· + held) (Semaphore.units_setUnits hSmall)
    · rw [Function.update_of_ne h, hUnits role' h]
  have hMemory : b.memory after = b.memory σ.shared := tracks.mounted.memory_setUnits role _ _
  have hVisitor : b.visitor.memory after = b.visitor.memory σ.shared := hMemory
  exact
    { mounted := tracks.mounted.setUnits role units
      opened := tracks.opened.transfer (fun _ => rfl) (congrArg Memory.size hVisitor)
        (hVisitor ▸ tracks.opened.described)
      creator := tracks.creator
      handles := tracks.handles
      peers := tracks.peers
      held := rfl
      mutex_held := (Function.update_of_ne hRole.symm _ _).trans tracks.mutex_held
      mutex := (hUnits .mutex hRole.symm).trans tracks.mutex
      head := (congrArg (fun m => (m.wordAt headOffset).toNat) hMemory).trans tracks.head
      tail := (congrArg (fun m => (m.wordAt tailOffset).toNat) hMemory).trans tracks.tail
      free := (congrArg (· + q.items.length) (hTotal .free)).trans tracks.free
      filled := (hTotal .filled).trans tracks.filled
      fits := tracks.fits
      holds := fun hk => by rw [hMemory]; exact tracks.holds hk }

/-- The units of a counting semaphore are those that the queue allows to take. -/
theorem units_eq {role : SemaphoreRole} (hRole : role ≠ .mutex) :
    b.units role σ.shared = q.units b.geometry role := by
  cases role with
  | free => exact tracks.room_eq.symm
  | filled => exact tracks.ready_eq.symm
  | mutex => exact absurd rfl hRole

theorem units_add_held_le {role : SemaphoreRole} (hRole : role ≠ .mutex) :
    b.units role σ.shared + q.held role ≤ Semaphore.maxCount := by
  have hFree := tracks.free
  have hFilled := tracks.filled
  have hCount := b.geometry.slotCount_le_maxCount
  cases role with
  | free => exact Nat.le_trans (Nat.le_trans (Nat.le_add_right _ _) (Nat.le_of_eq hFree)) hCount
  | filled => exact Nat.le_trans (Nat.le_of_eq hFilled) (by omega)
  | mutex => exact absurd rfl hRole

/-! ## Whole sessions -/

/-- Whatever happens next is a step of the queue, with the same answer. -/
theorem step (step : Session.Step name σ event σ') :
    ∃ q', Queue.Step b.geometry q event q' ∧ Tracks name b σ' q' := by
  cases step with
  | write r payload patience hr =>
    have hSame : r.write payload patience σ.shared = b.write payload patience σ.shared :=
      eq_of_visitor (fun r => r.write payload patience σ.shared) (fun _ => rfl)
        (tracks.handles r hr)
    rcases tracks.write payload patience with ⟨hReply, hTracks⟩
    rw [hSame, hReply]
    exact ⟨_, .write payload patience, hTracks⟩
  | read r patience hr =>
    have hSame : r.read patience σ.shared = b.read patience σ.shared :=
      eq_of_visitor (fun r => r.read patience σ.shared) (fun _ => rfl) (tracks.handles r hr)
    rcases tracks.read patience with ⟨hReply, hTracks⟩
    rw [hSame, hReply]
    exact ⟨_, .read patience, hTracks⟩
  | indices r hr =>
    have hSame : r.indices σ.shared = b.indices σ.shared :=
      eq_of_visitor (fun r => r.indices σ.shared) (fun _ => rfl) (tracks.handles r hr)
    rw [hSame, tracks.indices]
    exact ⟨q, .indices, tracks⟩
  | freeSlots r hr =>
    have hSame : r.freeSlots σ.shared = b.freeSlots σ.shared :=
      eq_of_visitor (fun r => r.freeSlots σ.shared) (fun _ => rfl) (tracks.handles r hr)
    rw [hSame, tracks.freeSlots_eq]
    exact ⟨q, .freeSlots, tracks⟩
  | filledSlots r hr =>
    have hSame : r.filledSlots σ.shared = b.filledSlots σ.shared :=
      eq_of_visitor (fun r => r.filledSlots σ.shared) (fun _ => rfl) (tracks.handles r hr)
    rw [hSame, tracks.filledSlots_eq]
    exact ⟨q, .filledSlots, tracks⟩
  | openRing r policy hOpen =>
    obtain ⟨rfl, hVisitor⟩ := tracks.opened.eq_of_openNamed hOpen
    refine ⟨q, .openRing, { tracks with creator := ?_, handles := ?_ }⟩
    · exact List.mem_cons_of_mem _ tracks.creator
    · intro r' hr'
      rcases List.mem_cons.mp hr' with hNew | hOld
      · rw [hNew, hVisitor]
        rfl
      · exact tracks.handles r' hOld
  | openSemaphore sem role policy hOpen =>
    obtain ⟨rfl, hId⟩ := Triplet.id_of_openWith (tracks.opened.named (.semaphore role)) hOpen
    refine ⟨q, .openSemaphore role, { tracks with peers := ?_ }⟩
    intro role' sem' hPeer
    rcases List.mem_cons.mp hPeer with hNew | hOld
    · cases hNew
      exact hId
    · exact tracks.peers hOld
  | @take sem role after hPeer hRole hTake =>
    obtain ⟨hPos, hAfter⟩ := Semaphore.eq_of_take? hTake
    have hId := tracks.peers hPeer
    have hUnits : sem.units σ.shared = b.units role σ.shared := Semaphore.units_of_id hId
    have hMost := tracks.units_add_held_le hRole
    rw [hAfter, Semaphore.setUnits_of_id hId, hUnits, ← tracks.held]
    rw [hUnits] at hPos
    refine ⟨_, .take role ?_, ?_⟩
    · rw [← tracks.units_eq hRole]
      exact hPos
    · have hSmall : b.units role σ.shared - 1 < UInt32.size :=
        Nat.lt_of_le_of_lt (Nat.sub_le _ _) (Semaphore.units_lt _ _)
      exact tracks.recount hRole hSmall (by omega)
  | @giveBack sem role hPeer hHeld =>
    -- The unit that comes back is counted already, so there is room for it.
    rw [← tracks.held] at hHeld
    have hRole : role ≠ .mutex := fun h => Nat.ne_of_gt hHeld (h ▸ tracks.mutex_held)
    have hId := tracks.peers hPeer
    have hUnits : sem.units σ.shared = b.units role σ.shared := Semaphore.units_of_id hId
    have hMost := tracks.units_add_held_le hRole
    have hSmall : b.units role σ.shared + 1 < UInt32.size :=
      Nat.lt_of_le_of_lt (by omega : _ ≤ Semaphore.maxCount) (by decide)
    rw [Semaphore.giveBack_of_ne (by omega), Semaphore.setUnits_of_id hId, hUnits, ← tracks.held]
    exact ⟨_, .giveBack role hHeld, tracks.recount hRole hSmall (by omega)⟩

end Tracks

/-- Whatever happens in a session happens to the queue. -/
theorem Tracks.run {trace : List Event} (tracks : Tracks name b σ q)
    (run : Run (Session.Step name) σ trace σ') :
    ∃ q', Run (Queue.Step b.geometry) q trace q' ∧ Tracks name b σ' q' := by
  -- The queue is advanced along with the session, by induction on its steps.
  induction run with
  | nil => exact ⟨q, .nil, tracks⟩
  | snoc _ step ih =>
    rcases ih with ⟨q', hRun, hTracks⟩
    rcases hTracks.step step with ⟨q'', hStep, hTracks'⟩
    exact ⟨q'', .snoc hRun hStep, hTracks'⟩

/-- A new ring is an empty queue. -/
theorem tracks_start {g : Geometry} {s s' : Shared} (hCreate : create name g s = (s', .value r)) :
    Tracks name r (.start r s') .empty := by
  obtain ⟨hLarge, hVacant, rfl, rfl⟩ := create_eq_value_iff.mp hCreate
  have hHead : (founder name g s).headIndex (founded name g s) = 0 := by
    rw [headIndex, memory_founder]
    exact wordAt_head_freshMemory
  have hTail : (founder name g s).tailIndex (founded name g s) = 0 := by
    rw [tailIndex, memory_founder]
    exact wordAt_tail_freshMemory
  refine
    { mounted := mounted_founder name g s
      opened := opened_founder hLarge hVacant
      creator := List.mem_singleton_self _
      handles := fun r hr => by rw [List.mem_singleton.mp hr]
      peers := fun h => absurd h List.not_mem_nil
      held := rfl
      mutex_held := rfl
      mutex := ?_
      head := ?_
      tail := ?_
      free := ?_
      filled := ?_
      fits := fun p hp => absurd hp List.not_mem_nil
      holds := fun h => by cases h }
  · exact units_founder .mutex
  · exact (congrArg UInt32.toNat hHead).trans (Nat.zero_mod _).symm
  · exact (congrArg UInt32.toNat hTail).trans (Nat.zero_mod _).symm
  · exact units_founder .free
  · exact units_founder .filled

/-- The counts of a ring with the units that others hold, and its indices, tell how many messages
wait in a queue. -/
structure Accounts (g : Geometry) (σ : Session) (q : Queue) : Prop where
  held : q.held = σ.held
  length_le : q.items.length ≤ g.slotCount.toNat
  free : ∀ r ∈ σ.handles,
    r.freeSlots σ.shared + σ.held .free = g.slotCount.toNat - q.items.length
  filled : ∀ r ∈ σ.handles, r.filledSlots σ.shared + σ.held .filled = q.items.length
  indices : ∀ r ∈ σ.handles, ∃ head tail, (r.indices σ.shared).2 = .value (head, tail) ∧
    head < g.slotCount ∧ tail < g.slotCount ∧
      tail.toNat = (head.toNat + q.items.length) % g.slotCount.toNat

/-- Tracking the queue settles all counts, units and indices. -/
theorem Tracks.accounts (tracks : Tracks name b σ q) : Accounts b.geometry σ q := by
  have hFree := tracks.free
  have hFilled := tracks.filled
  -- The tail is as many slots behind the head as there are messages.
  have hTail : (b.tailIndex σ.shared).toNat =
      ((b.headIndex σ.shared).toNat + q.items.length) % b.geometry.slotCount.toNat := by
    rw [tracks.head, tracks.tail, Queue.head, Nat.mod_add_mod]
    rfl
  refine
    { held := tracks.held
      length_le := by omega
      free := fun r hr => ?_
      filled := fun r hr => ?_
      indices := fun r hr => ⟨b.headIndex σ.shared, b.tailIndex σ.shared, ?_, tracks.head_lt,
        tracks.tail_lt, hTail⟩ }
  · rw [eq_of_visitor (fun r => r.freeSlots σ.shared) (fun _ => rfl) (tracks.handles r hr),
      tracks.ready.freeSlots_eq, ← tracks.held]
    omega
  · rw [eq_of_visitor (fun r => r.filledSlots σ.shared) (fun _ => rfl) (tracks.handles r hr),
      tracks.ready.filledSlots_eq, ← tracks.held]
    exact hFilled
  · rw [eq_of_visitor (fun r => r.indices σ.shared) (fun _ => rfl) (tracks.handles r hr),
      tracks.indices, ← tracks.head, ← tracks.tail, UInt32.ofNat_toNat, UInt32.ofNat_toNat]

/-- Every session of a ring, from its creation on, is a run of a bounded queue that gives the same
answers and accounts for all units and indices. -/
theorem session_refines_queue {g : Geometry} {s s' : Shared} {trace : List Event}
    (hCreate : create name g s = (s', .value r))
    (run : Run (Session.Step name) (.start r s') trace σ) :
    r ∈ σ.handles ∧ ∃ q, Run (Queue.Step g) .empty trace q ∧ Accounts g σ q := by
  obtain ⟨q, hRun, hTracks⟩ := (tracks_start hCreate).run run
  have hGeometry : r.geometry = g := by
    obtain ⟨_, _, _, rfl⟩ := create_eq_value_iff.mp hCreate
    rfl
  rw [hGeometry] at hRun
  exact ⟨hTracks.creator, q, hRun, hGeometry ▸ hTracks.accounts⟩

/-- A message of two bytes. -/
def Sample.greeting : ByteArray :=
  ⟨#[104, 105]⟩

/-- A message is written, and cannot be read as long as somebody else holds its unit. -/
def Sample.suspension : List Event :=
  [.write greeting .none (.value ()), .openSemaphore .filled, .take .filled,
    .read .none (.value none), .giveBack .filled, .read .none (.value (some greeting))]

theorem Sample.run_suspension :
    ∃ σ, Run (Session.Step Sample.name) (.start ring world) suspension σ := by
  -- The sessions after each step: written, opened, taken and given back.
  let sem := ring.semaphores.filled
  let written := (ring.write greeting .none world).1
  let emptied := sem.setUnits 0 written
  let σ₁ : Session := ⟨written, [ring], [], fun _ => 0⟩
  let σ₂ : Session := { σ₁ with peers := [(.filled, sem)] }
  let σ₃ : Session :=
    { σ₂ with
      shared := emptied
      held := Function.update σ₂.held .filled 1 }
  let σ₄ : Session :=
    { σ₃ with
      shared := sem.giveBack emptied
      held := Function.update σ₃.held .filled 0 }
  have hOwn : ring ∈ [ring] := List.mem_singleton_self _
  have hPeer : (SemaphoreRole.filled, sem) ∈ σ₂.peers := List.mem_singleton_self _
  have hReply : (ring.read .none σ₄.shared).2 = .value (some greeting) := by decide
  have write : Session.Step Sample.name (.start ring world)
      (.write greeting .none (.value ())) σ₁ := .write ring greeting .none hOwn
  have openSemaphore : Session.Step Sample.name σ₁ (.openSemaphore .filled) σ₂ :=
    .openSemaphore sem .filled .once (by rfl)
  have take : Session.Step Sample.name σ₂ (.take .filled) σ₃ := .take sem hPeer (by decide) rfl
  have readNothing : Session.Step Sample.name σ₃ (.read .none (.value none)) σ₃ :=
    .read ring .none hOwn
  have giveBack : Session.Step Sample.name σ₃ (.giveBack .filled) σ₄ :=
    .giveBack sem hPeer (by decide)
  have read : Session.Step Sample.name σ₄ (.read .none (ring.read .none σ₄.shared).2) _ :=
    .read ring .none hOwn
  rw [hReply] at read
  exact ⟨_, .snoc (.snoc (.snoc (.snoc (.snoc (.snoc .nil write) openSemaphore) take) readNothing)
    giveBack) read⟩

/-- The queue of the small ring after somebody was suspended with its only message in hand. -/
theorem session_refines_queue_suspension :
    ∃ σ, Run (Session.Step Sample.name) (.start Sample.ring Sample.world) Sample.suspension σ ∧
      Sample.ring ∈ σ.handles ∧
      ∃ q, Run (Queue.Step Sample.geometry) .empty Sample.suspension q ∧
        Accounts Sample.geometry σ q := by
  rcases Sample.run_suspension with ⟨σ, run⟩
  exact ⟨σ, run, session_refines_queue Sample.create_eq_value run⟩

end Ring
end RingBus
