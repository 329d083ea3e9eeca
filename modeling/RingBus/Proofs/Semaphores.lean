import RingBus.Proofs.Memory
import RingBus.Proofs.Names
import RingBus.Proofs.Schedules
import RingBus.Semaphore.Triplet

/-!
# Semaphores of a ring

A semaphore is a number in front of a file. What taking and giving units does to that number is
said here for all numbers that four bytes can hold, since anybody may write to the file. Under names
that are made from the name of a ring the kernel finds nothing wrong with a semaphore, and the names
alone decide whether it is found.
-/

namespace RingBus

namespace Semaphore

/-! ## The number in front of a file -/

section

variable {s other : Semaphore} {all after : Shared} {id n k : Nat} {m : Memory}

theorem units_lt (s : Semaphore) (all : Shared) : s.units all < UInt32.size :=
  UInt32.toNat_lt _

/-- Only the file of a semaphore tells its number. -/
theorem units_congr (h : after.object s.id = all.object s.id) : s.units after = s.units all := by
  rw [units, h, units]

theorem units_of_id (h : s.id = other.id) : s.units all = other.units all := by
  rw [units, h, units]

theorem units_set_other (h : s.id ≠ id) : s.units (all.set id m) = s.units all :=
  units_congr (Catalog.object_set_other _ _ h)

theorem object_setUnits_other (n : Nat) (all : Shared) (h : id ≠ s.id) :
    (s.setUnits n all).object id = all.object id :=
  Catalog.object_set_other _ _ h

/-- A file keeps its size, whatever number is put in front of it. -/
theorem size_setUnits (s : Semaphore) (n : Nat) (all : Shared) (id : Nat) :
    ((s.setUnits n all).object id).size = (all.object id).size := by
  by_cases h : id = s.id
  · subst h
    simp only [setUnits, Catalog.object_set_same]
    split <;> rfl
  · rw [object_setUnits_other n all h]

/-- Behind the number and the word that it may run over into, nothing of any file is touched. -/
theorem byte_setUnits (s : Semaphore) (n : Nat) (all : Shared) (id : Nat) {i : Nat} (h : 8 ≤ i) :
    ((s.setUnits n all).object id).byte i = (all.object id).byte i := by
  by_cases hId : id = s.id
  · subst hId
    simp only [setUnits, Catalog.object_set_same]
    rw [Memory.byte_overlay_outside _ _ _
      (.inr (Nat.le_trans (by rw [Memory.size_wordBytes]; decide) h))]
    split
    · rfl
    · exact Memory.byte_overlay_outside _ _ _ (.inr h)
  · rw [object_setUnits_other n all hId]

theorem setUnits_of_lt (h : n < UInt32.size) :
    s.setUnits n all =
      all.set s.id ((all.object s.id).overlay 0 (Memory.wordBytes (UInt32.ofNat n))) := by
  simp only [setUnits, if_pos h]

/-- A count that was set is read back. -/
theorem units_setUnits (h : n < UInt32.size) : s.units (s.setUnits n all) = n := by
  rw [setUnits_of_lt h, units, Catalog.object_set_same, Memory.wordAt_overlay_wordBytes]
  exact UInt32.toNat_ofNat_of_lt' h

/-- Setting one count leaves the others alone. -/
theorem units_setUnits_other (h : s.id ≠ other.id) :
    s.units (other.setUnits n all) = s.units all :=
  units_set_other h

theorem setUnits_setUnits (hn : n < UInt32.size) (hk : k < UInt32.size) :
    s.setUnits k (s.setUnits n all) = s.setUnits k all := by
  rw [setUnits_of_lt hk, setUnits_of_lt hk, setUnits_of_lt hn, Catalog.object_set_same,
    Memory.overlay_overlay _ _ (by rfl), Catalog.set_set]

theorem setUnits_of_id (h : s.id = other.id) : s.setUnits n all = other.setUnits n all := by
  simp only [setUnits, h]

/-- Putting the number that stands there changes nothing. -/
theorem setUnits_units (s : Semaphore) (all : Shared) : s.setUnits (s.units all) all = all := by
  rw [setUnits_of_lt (s.units_lt all), units, UInt32.ofNat_toNat, Memory.overlay_wordAt]
  exact Catalog.set_of_object _ rfl

theorem setUnits_set (n : Nat) (all : Shared) (m : Memory) (h : s.id ≠ id) :
    s.setUnits n (all.set id m) = (s.setUnits n all).set id m := by
  rw [setUnits, Catalog.object_set_other _ _ h, Catalog.set_comm _ _ _ h.symm]
  rfl

end

/-! ## Taking and giving -/

section

variable {s other : Semaphore} {all after : Shared} {id : Nat}

theorem take?_of_zero (h : s.units all = 0) : s.take? all = none := by
  simp [take?, h]

/-- A unit that is there can be taken. -/
theorem take?_of_pos (h : 0 < s.units all) :
    s.take? all = some (s.setUnits (s.units all - 1) all) := by
  simp [take?, Nat.ne_of_gt h]

/-- Taking a unit lowers the count by one. -/
theorem eq_of_take? (h : s.take? all = some after) :
    0 < s.units all ∧ after = s.setUnits (s.units all - 1) all := by
  rcases Nat.eq_zero_or_pos (s.units all) with hZero | hPos
  · rw [take?_of_zero hZero] at h
    cases h
  · rw [take?_of_pos hPos] at h
    cases h
    exact ⟨hPos, rfl⟩

/-- Taking a unit changes nothing but the number in front. -/
theorem byte_of_take? (h : s.take? all = some after) (id : Nat) {i : Nat} (hi : 8 ≤ i) :
    (after.object id).byte i = (all.object id).byte i := by
  rw [(eq_of_take? h).2]
  exact byte_setUnits _ _ _ _ hi

theorem give?_of_max (h : s.units all = maxCount) : s.give? all = none :=
  if_pos h

theorem give?_of_ne (h : s.units all ≠ maxCount) :
    s.give? all = some (s.setUnits (s.units all + 1) all) :=
  if_neg h

/-- Giving a unit raises the count by one. -/
theorem eq_of_give? (h : s.give? all = some after) :
    after = s.setUnits (s.units all + 1) all := by
  by_cases hFull : s.units all = maxCount
  · rw [give?_of_max hFull] at h
    cases h
  · rw [give?_of_ne hFull] at h
    exact (Option.some.inj h).symm

theorem eq_of_signal (h : s.signal all = .ok after) :
    after = s.setUnits (s.units all + 1) all := by
  unfold signal at h
  split at h
  next hGive =>
    cases h
    exact eq_of_give? hGive
  next => cases h

/-- A count at its maximum stays there. -/
theorem giveBack_of_max (h : s.units all = maxCount) : s.giveBack all = all := by
  rw [giveBack, give?_of_max h, Option.getD_none]

theorem giveBack_of_ne (h : s.units all ≠ maxCount) :
    s.giveBack all = s.setUnits (s.units all + 1) all := by
  rw [giveBack, give?_of_ne h, Option.getD_some]

theorem byte_giveBack (s : Semaphore) (all : Shared) (id : Nat) {i : Nat} (h : 8 ≤ i) :
    ((s.giveBack all).object id).byte i = (all.object id).byte i := by
  by_cases hFull : s.units all = maxCount
  · rw [giveBack_of_max hFull]
  · rw [giveBack_of_ne hFull]
    exact s.byte_setUnits _ all id h

theorem signal_of_lt (h : s.units all < maxCount) :
    s.signal all = .ok (s.setUnits (s.units all + 1) all) := by
  rw [signal, give?_of_ne (Nat.ne_of_lt h)]

/-- Giving back a unit restores what was before it was taken. -/
theorem giveBack_taken (hPos : 0 < s.units all) (hMax : s.units all ≤ maxCount) :
    s.giveBack (s.setUnits (s.units all - 1) all) = all := by
  have hLt := s.units_lt all
  have hTaken : s.units all - 1 < UInt32.size := Nat.lt_of_le_of_lt (Nat.sub_le _ _) hLt
  have hUnits : s.units (s.setUnits (s.units all - 1) all) = s.units all - 1 :=
    units_setUnits hTaken
  have hRoom : s.units (s.setUnits (s.units all - 1) all) < maxCount := by omega
  rw [giveBack_of_ne (Nat.ne_of_lt hRoom), hUnits, Nat.sub_add_cancel hPos, setUnits_setUnits hTaken hLt,
    setUnits_units]

/-- Giving back does not care for other files. -/
theorem giveBack_set (all : Shared) (m : Memory) (h : s.id ≠ id) :
    s.giveBack (all.set id m) = (s.giveBack all).set id m := by
  have hUnits : s.units (all.set id m) = s.units all := units_set_other h
  by_cases hFull : s.units all = maxCount
  · rw [giveBack_of_max hFull, giveBack_of_max (hUnits.trans hFull)]
  · rw [giveBack_of_ne hFull, giveBack_of_ne (fun h => hFull (hUnits.symm.trans h)), hUnits,
      setUnits_set _ _ _ h]

/-- The files after one unit went from `donor` to `receiver`. -/
def pass (donor receiver : Semaphore) (all : Shared) : Shared :=
  receiver.setUnits (receiver.units all + 1) (donor.setUnits (donor.units all - 1) all)

/-- The donor of a unit has one less. -/
theorem units_pass_donor (h : s.id ≠ other.id) : s.units (pass s other all) = s.units all - 1 := by
  rw [pass, units_setUnits_other h]
  exact units_setUnits (Nat.lt_of_le_of_lt (Nat.sub_le _ _) (s.units_lt all))

/-- The receiver of a unit has one more, if there is room for it. -/
theorem units_pass_receiver (hRoom : other.units all < maxCount) :
    other.units (pass s other all) = other.units all + 1 :=
  units_setUnits (Nat.lt_of_le_of_lt hRoom (by decide))

/-- A third semaphore is left alone. -/
theorem units_pass_third {third : Semaphore} (hDonor : third.id ≠ s.id)
    (hReceiver : third.id ≠ other.id) : third.units (pass s other all) = third.units all := by
  rw [pass, units_setUnits_other hReceiver, units_setUnits_other hDonor]

end

/-! ## Counts that are told -/

section

variable {s : Semaphore} {all : Shared}

theorem value_of_le (h : s.units all ≤ maxCount) : s.value all = s.units all :=
  if_pos h

/-- A count that is told to be some is the number that stands there. -/
theorem units_of_value_pos (h : 0 < s.value all) :
    s.units all = s.value all ∧ s.units all ≤ maxCount := by
  unfold value at h ⊢
  split at h
  next hMost => exact ⟨(if_pos hMost).symm, hMost⟩
  next => exact absurd h (Nat.lt_irrefl 0)

theorem units_image {n : Nat} (h : all.object s.id = image n) (hMost : n ≤ maxCount) :
    s.units all = n := by
  have hLt : n < UInt32.size := Nat.lt_of_le_of_lt hMost (by decide)
  rw [units, h, image, Memory.wordAt_overlay_outside _ (.inl (by decide)),
    Memory.wordAt_overlay_wordBytes]
  exact UInt32.toNat_ofNat_of_lt' hLt

end

/-! ## Names of rings -/

variable (n : RingName) (role : SemaphoreRole)

/-- A ring's semaphore is found exactly if its file is there, however patient the policy. -/
theorem openWith_ofRing (policy : RetryPolicy) (all : Shared) :
    openWith (SemaphoreName.ofRing n.text role) policy all =
      (all, match all.named (file (SemaphoreName.ofRing n.text role)) with
        | some id => .ok ⟨SemaphoreName.ofRing n.text role, id⟩
        | none => .error (.openFailed (SemaphoreName.ofRing n.text role) policy.attempts.toNat
            (.kernel .noEntry))) := by
  simp only [openWith, openPatiently, nulPosition?_ofRing, RetryPolicy.Run.mapError, findPatiently,
    RetryPolicy.answer_run_const, find, checkName_ofRing]
  cases all.named (file (SemaphoreName.ofRing n.text role)) <;> rfl

theorem unlink_ofRing (all : Shared) :
    unlink (SemaphoreName.ofRing n.text role) all =
      .ok (all.unlink (file (SemaphoreName.ofRing n.text role))) := by
  simp only [unlink, nulPosition?_ofRing, isOverlong_ofRing, Bool.false_eq_true, if_false]

end Semaphore

namespace Triplet

/-- The semaphore that plays a role. -/
def playing (t : Triplet) : SemaphoreRole → Semaphore
  | .free => t.free
  | .filled => t.filled
  | .mutex => t.mutex

section

variable {n : RingName} {all : Shared}

/-- Looking for the semaphores of a ring changes nothing, and finds them exactly where their names
lead. -/
theorem fst_openWith (policy : RetryPolicy) (all : Shared) :
    (openWith n.text policy all).1 = all := by
  simp only [openWith, Semaphore.openWith_ofRing]
  cases all.named (Semaphore.file (SemaphoreName.ofRing n.text .free)) with
  | none => rfl
  | some _ =>
    dsimp only
    cases all.named (Semaphore.file (SemaphoreName.ofRing n.text .filled)) with
    | none => rfl
    | some _ =>
      dsimp only
      cases all.named (Semaphore.file (SemaphoreName.ofRing n.text .mutex)) <;> rfl

/-- The three semaphores are opened exactly if all their files are there. -/
theorem openWith_eq_ok_iff {policy : RetryPolicy} {t : Triplet} :
    (openWith n.text policy all).2 = .ok t ↔
      ∀ role, all.named (Semaphore.file (SemaphoreName.ofRing n.text role)) =
          some (t.playing role).id ∧
        (t.playing role).name = SemaphoreName.ofRing n.text role := by
  constructor
  · intro h
    simp only [openWith, Semaphore.openWith_ofRing] at h
    -- The first of the three that is missing would have ended the opening.
    cases hFree : all.named (Semaphore.file (SemaphoreName.ofRing n.text .free)) with
    | none => simp [hFree] at h
    | some free =>
      cases hFilled : all.named (Semaphore.file (SemaphoreName.ofRing n.text .filled)) with
      | none => simp [hFree, hFilled] at h
      | some filled =>
        cases hMutex : all.named (Semaphore.file (SemaphoreName.ofRing n.text .mutex)) with
        | none => simp [hFree, hFilled, hMutex] at h
        | some mutex =>
          simp only [hFree, hFilled, hMutex, Except.ok.injEq] at h
          subst h
          intro role
          cases role with
          | free => exact ⟨hFree, rfl⟩
          | filled => exact ⟨hFilled, rfl⟩
          | mutex => exact ⟨hMutex, rfl⟩
  · intro h
    obtain ⟨⟨freeName, free⟩, ⟨filledName, filled⟩, ⟨mutexName, mutex⟩⟩ := t
    obtain ⟨hFree, rfl⟩ := h .free
    obtain ⟨hFilled, rfl⟩ := h .filled
    obtain ⟨hMutex, rfl⟩ := h .mutex
    simp only [playing] at hFree hFilled hMutex
    simp only [openWith, Semaphore.openWith_ofRing, hFree, hFilled, hMutex]

/-- Whoever opens one of the semaphores of a ring gets the one that its name leads to. -/
theorem id_of_openWith {policy : RetryPolicy} {role : SemaphoreRole} {sem : Semaphore} {id : Nat}
    {after : Shared}
    (named : all.named (Semaphore.file (SemaphoreName.ofRing n.text role)) = some id)
    (h : Semaphore.openWith (SemaphoreName.ofRing n.text role) policy all = (after, .ok sem)) :
    after = all ∧ sem.id = id := by
  rw [Semaphore.openWith_ofRing, named] at h
  cases h
  exact ⟨rfl, rfl⟩

/-- The files after the three names of a ring were removed. -/
def removed (n : RingName) (all : Shared) : Shared :=
  ((all.unlink (Semaphore.file (SemaphoreName.ofRing n.text .free))).unlink
    (Semaphore.file (SemaphoreName.ofRing n.text .filled))).unlink
    (Semaphore.file (SemaphoreName.ofRing n.text .mutex))

/-- Handles on the semaphores of a ring remove the three names and nothing else. -/
theorem unlink_of_names {t : Triplet}
    (names : ∀ role, (t.playing role).name = SemaphoreName.ofRing n.text role) :
    t.unlink all = (removed n all, .ok ()) := by
  have hFree : t.free.name = _ := names .free
  have hFilled : t.filled.name = _ := names .filled
  have hMutex : t.mutex.name = _ := names .mutex
  simp only [unlink, toList, List.foldl_cons, List.foldl_nil, hFree, hFilled, hMutex,
    Semaphore.unlink_ofRing]
  rfl

end

end Triplet
end RingBus
