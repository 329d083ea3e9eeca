import RingBus.Proofs.Ring.Handle

/-!
# Creating a ring is all or nothing

A ring has four files, and its creation passes through worlds in which only some of them exist.
Whoever looks before and after sees none of these worlds: either the four files are new and the
ring is empty, or nothing has changed, whichever of the files was in the way.

It is files that are in the way, not names. A semaphore is where a segment of another name would be,
so no account of creations can be given by saying which names of segments and of semaphores are in
use.

* `Blank`: the bytes of a ring that nobody has used yet.
* `Founding`: the four files were added, and nothing else happened.
* `AccountsForNames`: what would have to hold if names were used up one by one.
* `creation_allOrNothing`: what the creation of rings, and that of three semaphores under names
  made of any text, come to.
-/

namespace RingBus
namespace Ring

variable {name : RingName} {g : Geometry} {s : Shared}

/-- The bytes of a ring that nobody has used yet: six numbers, low byte first, and then zeros. -/
structure Blank (g : Geometry) (m : Memory) : Prop where
  size : m.size = g.segmentSize
  magic : m.wordAt 0 = 0xA1B2C3D4
  version : m.wordAt 4 = 1
  slotCount : m.wordAt 8 = g.slotCount
  slotSize : m.wordAt 12 = g.slotSize
  head : m.wordAt 16 = 0
  tail : m.wordAt 20 = 0
  rest : ∀ i, 24 ≤ i → m.byte i = 0

/-- From `s` to `s'` the four files of a ring were added. They are a blank ring, whose owner is `r`.
No other file and no other name is touched. -/
structure Founding (name : RingName) (g : Geometry) (r : Ring) (s s' : Shared) : Prop where
  named : ∀ p : Part, s'.named (p.file name) = some (r.part p)
  named_other : ∀ file, (∀ p : Part, file ≠ p.file name) → s'.named file = s.named file
  /-- The files were not there before, and they are four. -/
  new : ∀ p, s.count ≤ r.part p
  apart : ∀ p q, r.part p = r.part q → p = q
  object : ∀ id, id < s.count → s'.object id = s.object id
  blank : Blank g (r.memory s')
  content : ∀ role, s'.object (r.part (.semaphore role)) =
    Semaphore.image (Triplet.initially g.slotCount.toNat role)
  /-- As many units of `free` as there are slots, none of `filled`, and the mutex. -/
  counts : r.freeSlots s' = g.slotCount.toNat ∧ r.filledSlots s' = 0 ∧
    r.semaphores.mutex.value s' = 1
  name_eq : r.name = name
  owner : r.owner = true
  geometry : r.geometry = g

/-- What a caller can rely on when the creation of a ring came to `outcome`. A file that is in the
way may have been made as a segment or as a semaphore, and the two directories always are. -/
structure AllOrNothing (name : RingName) (g : Geometry) (s : Shared)
    (outcome : Shared × Reply Ring) : Prop where
  succeeds_iff : (∃ r, outcome.2 = .value r) ↔
    g.segmentSize ≤ Segment.maxSize ∧ Shared.isDirectory (Segment.file name.text) = false ∧
      ∀ p : Part, s.named (p.file name) = none
  founds : ∀ r, outcome.2 = .value r → Founding name g r s outcome.1
  spares : (∀ r, outcome.2 ≠ .value r) → (∃ e, outcome.2 = .failed e) ∧ s.Intact outcome.1

/-! ## Success -/

theorem blank_freshMemory (g : Geometry) : Blank g (freshMemory g) where
  size := rfl
  magic := described_freshMemory.magic
  version := described_freshMemory.version
  slotCount := described_freshMemory.slotCount
  slotSize := described_freshMemory.slotSize
  head := wordAt_head_freshMemory
  tail := wordAt_tail_freshMemory
  rest := by
    intro i hi
    by_cases hHeader : i < headerSize
    · -- The reserved bytes are the last ones that were laid down.
      have hReserved : i - reservedOffset < (Header.fresh g).reserved.size := by
        simp only [Header.fresh, ByteArray.size, Array.size_replicate, headerSize,
          reservedOffset] at hHeader ⊢
        omega
      have hSplit : reservedOffset + (i - reservedOffset) = i := by
        rw [reservedOffset]
        omega
      calc
        (freshMemory g).byte i = (freshMemory g).byte (reservedOffset + (i - reservedOffset)) := by
          rw [hSplit]
        _ = (Header.fresh g).reserved[i - reservedOffset] := by
          rw [freshMemory_eq]
          exact Memory.byte_overlay_inside _ _ _ hReserved
        _ = 0 := by
          simp [Header.fresh, ByteArray.getElem_eq_getElem_data]
    · -- Behind the header nothing was laid down.
      have hBehind : 0 + (Header.fresh g).bytes.size ≤ i := by
        rw [size_bytes_fresh]
        omega
      exact Memory.byte_overlay_outside _ _ _ (.inr hBehind)

/-- What a semaphore of a new ring tells is what it was created with. -/
theorem value_founder (role : SemaphoreRole) :
    ((founder name g s).semaphores.playing role).value (founded name g s) =
      Triplet.initially g.slotCount.toNat role := by
  have hUnits : ((founder name g s).semaphores.playing role).units (founded name g s) = _ :=
    units_founder role
  have hMost := Triplet.initially_le g.slotCount_le_maxCount role
  rw [Semaphore.value_of_le (hUnits.symm ▸ hMost), hUnits]

/-- A vacant name gets a whole ring: four new files with their first content. -/
theorem founding_founder (name : RingName) (g : Geometry) (s : Shared) :
    Founding name g (founder name g s) s (founded name g s) where
  named := named_founded
  named_other _ h := named_founded_other h
  new p := (part_founder p).1
  apart _ _ := part_founder_injective
  object _ h := object_founded h
  blank := by
    rw [memory_founder]
    exact blank_freshMemory g
  content role := Triplet.object_minted role g.slotCount.toNat
  counts := ⟨value_founder .free, value_founder .filled, value_founder .mutex⟩
  name_eq := rfl
  owner := rfl
  geometry := rfl

/-! ## Every creation -/

/-- Creation either makes a whole ring or changes no name. -/
theorem allOrNothing (name : RingName) (g : Geometry) (s : Shared) :
    AllOrNothing name g s (create name g s) := by
  by_cases h : g.segmentSize ≤ Segment.maxSize ∧ Vacant name s
  -- A vacant name gets a whole ring, and every other request leaves the names alone.
  · obtain ⟨hLarge, vacant⟩ := h
    rw [create_of_vacant hLarge vacant]
    refine ⟨iff_of_true ⟨_, rfl⟩ ⟨hLarge, vacant.plain, vacant.unused⟩, ?_, ?_⟩
    · intro r h
      cases h
      exact founding_founder name g s
    · intro h
      exact absurd rfl (h _)
  · obtain ⟨after, e, hCreate, hIntact⟩ := create_of_not_vacant h
    rw [hCreate]
    refine ⟨iff_of_false ?_ ?_, ?_, fun _ => ⟨⟨e, rfl⟩, hIntact⟩⟩
    · rintro ⟨r, h⟩
      cases h
    · rintro ⟨hLarge, hPlain, hUnused⟩
      exact h ⟨hLarge, hPlain, hUnused⟩
    · intro r h
      cases h

/-! ## Names in use -/

/-- What would have to hold if a creation needed its own four names to be free and used up these
four and no others. A name is told by the ring and by what it would name. -/
structure AccountsForNames (used : Shared → RingName → Part → Prop) : Prop where
  succeeds_iff : ∀ name g s, (∃ r, (create name g s).2 = .value r) ↔
    g.segmentSize ≤ Segment.maxSize ∧ ∀ p, ¬ used s name p
  adds : ∀ {name g s s' r}, create name g s = (s', .value r) →
    ∀ name' p, used s' name' p ↔ used s name' p ∨ name' = name

/-- The small ring uses a name up that is not one of its four, whatever is meant by that: without it
the ring `/sem.r_free` could be created, and next to it this is refused. -/
theorem no_use_accounts_for_names :
    create Sample.lookalike Sample.geometry Sample.world =
        (Sample.world, .failed (.segment (.alreadyExists Sample.lookalike))) ∧
      ¬ ∃ used, AccountsForNames used := by
  refine ⟨Sample.create_lookalike, ?_⟩
  rintro ⟨used, accounts⟩
  have vacant : Vacant Sample.lookalike Shared.pristine := ⟨by decide, fun _ => rfl⟩
  have hAlone := create_of_vacant (g := Sample.geometry) (by decide) vacant
  -- Alone, the other ring can be created, so its four names are not in use.
  have hUnused := ((accounts.succeeds_iff Sample.lookalike Sample.geometry Shared.pristine).mp
    ⟨_, congrArg Prod.snd hAlone⟩).2
  have hStill : ∀ p, ¬ used Sample.world Sample.lookalike p := by
    intro p hUsed
    rcases (accounts.adds Sample.create_eq_value Sample.lookalike p).mp hUsed with hBefore | hName
    · exact hUnused p hBefore
    · exact absurd hName (by decide)
  -- The small ring has used up none of them, and yet one is missing.
  obtain ⟨r, hCreated⟩ := (accounts.succeeds_iff Sample.lookalike Sample.geometry Sample.world).mpr
    ⟨by decide, hStill⟩
  rw [Sample.create_lookalike] at hCreated
  cases hCreated

/-! ## The result -/

/-- Creating a ring, and creating three semaphores under names made of any text, either adds
exactly the files that it should or changes nothing. Only files can be in the way. -/
theorem creation_allOrNothing :
    (∀ name g s, AllOrNothing name g s (create name g s)) ∧
      ∀ ring slots all, Triplet.AllOrNothing ring slots all (Triplet.create ring slots all) :=
  ⟨allOrNothing, Triplet.allOrNothing⟩

/-- Where there was nothing, the small ring is founded. Next to it a ring whose segment would be one
of its semaphores cannot be created, and nothing changes. -/
theorem creation_allOrNothing_pristine :
    create Sample.name Sample.geometry Shared.pristine = (Sample.world, .value Sample.ring) ∧
      Founding Sample.name Sample.geometry Sample.ring Shared.pristine Sample.world ∧
      ¬ (∃ r, (create Sample.lookalike Sample.geometry Sample.world).2 = .value r) ∧
      Sample.world.Intact (create Sample.lookalike Sample.geometry Sample.world).1 := by
  have hCreate := Sample.create_eq_value
  have hFounds := (creation_allOrNothing.1 Sample.name Sample.geometry Shared.pristine).founds
  have hRefused := creation_allOrNothing.1 Sample.lookalike Sample.geometry Sample.world
  rw [hCreate] at hFounds
  -- The name of its segment is that of a semaphore of the small ring.
  have hTaken : ¬ ∃ r, (create Sample.lookalike Sample.geometry Sample.world).2 = .value r := by
    rw [hRefused.succeeds_iff]
    rintro ⟨_, _, hUnused⟩
    have hNone := hUnused .segment
    rw [show Part.segment.file Sample.lookalike = _ from Sample.file_lookalike] at hNone
    exact absurd ((named_founded (.semaphore .free)).symm.trans hNone) (by simp)
  exact ⟨hCreate, hFounds Sample.ring rfl, hTaken,
    (hRefused.spares fun r h => hTaken ⟨r, h⟩).2⟩

/-- The last of the four names is in the way. -/
example :
    (create Sample.name Sample.geometry
      (Shared.pristine.insert "sem.r_mutex" (Semaphore.image 5))).2 =
        .failed (.semaphore (.alreadyExists "/r_mutex")) := by
  decide

end Ring
end RingBus
