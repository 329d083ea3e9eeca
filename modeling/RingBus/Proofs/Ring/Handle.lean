import RingBus.Proofs.Kernel
import RingBus.Proofs.Ring.Slots
import RingBus.Proofs.Triplets

/-!
# Handles on rings

When a ring can be created or opened, and what the handle is then. A handle that was obtained
either way stays mounted whatever happens to the shared files: its segment keeps its size and holds
all slots of its geometry, and its four parts are different files.
-/

namespace RingBus

/-! ## Segments -/

namespace Segment

variable {name : RingName} {s : Shared}

/-- Looking for a segment changes nothing. -/
theorem fst_openNamed (name : RingName) (s : Shared) : (openNamed name s).1 = s := by
  unfold openNamed
  split
  · rfl
  · split
    · rfl
    · dsimp only
      split
      · rfl
      · split <;> rfl

/-- A segment is opened exactly when the name leads to a file of admissible size. -/
theorem openNamed_eq_ok_iff {seg : Segment} :
    (openNamed name s).2 = .ok seg ↔
      Shared.isDirectory (file name.text) = false ∧ s.named (file name.text) = some seg.id ∧
        0 < (s.object seg.id).size ∧ (s.object seg.id).size ≤ maxSize ∧
        seg = ⟨name, seg.id, (s.object seg.id).size, false, false⟩ := by
  constructor
  · intro h
    -- Opening goes through the checks in this order.
    unfold openNamed at h
    split at h
    · cases h
    rename_i hDirectory
    split at h
    · cases h
    rename_i id hNamed
    dsimp only at h
    split at h
    · cases h
    rename_i hZero
    split at h
    · cases h
    rename_i hLarge
    cases h
    exact ⟨by simpa using hDirectory, hNamed, Nat.pos_of_ne_zero hZero,
      Nat.le_of_not_lt hLarge, rfl⟩
  · rintro ⟨hDirectory, hNamed, hPos, hLarge, hSeg⟩
    rw [hSeg]
    simp [openNamed, hDirectory, hNamed, Nat.ne_of_gt hPos, Nat.not_lt.mpr hLarge]

theorem create_eq {size : Nat} (hPos : size ≠ 0) (hLarge : size ≤ maxSize)
    (hFree : Shared.isTaken (file name.text) s = false) :
    create name size s =
      .ok (s.insert (file name.text) (Memory.zeroed size), ⟨name, s.count, size, true, false⟩) := by
  simp [create, hPos, Nat.not_lt.mpr hLarge, hFree]

end Segment

namespace Ring

/-! ## Geometry and header -/

theorem Geometry.check_eq_ok_iff {slotCount slotSize : UInt32} {g : Geometry} :
    Geometry.check slotCount slotSize = .ok g ↔
      slotCount = g.slotCount ∧ slotSize = g.slotSize := by
  constructor
  · intro h
    unfold check at h
    split at h
    · split at h
      · cases h
        exact ⟨rfl, rfl⟩
      · cases h
    · cases h
  · rintro ⟨rfl, rfl⟩
    rw [check, dif_pos ⟨g.slotCount_pos, g.slotCount_le⟩, dif_pos ⟨g.slotSize_pos, g.slotSize_le⟩]

/-- The header that stands at the front of a segment. -/
def Header.ofMemory (m : Memory) : Header :=
  ⟨m.wordAt magicOffset, m.wordAt versionOffset, m.wordAt slotCountOffset,
    m.wordAt slotSizeOffset, m.wordAt headOffset, m.wordAt tailOffset,
    m.bytesAt reservedOffset (headerSize - reservedOffset)⟩

theorem Header.read?_of_le {m : Memory} (h : headerSize ≤ m.size) :
    Header.read? m = some (Header.ofMemory m) := by
  simp [read?, ofMemory, Memory.covers, h]

/-- The bytes of a new ring: its header and then zeros. -/
def freshMemory (g : Geometry) : Memory :=
  (Memory.zeroed g.segmentSize).overlay 0 (Header.fresh g).bytes

/-- The words that identify a ring and its geometry. Nothing that a ring operation does changes
them. -/
structure Described (g : Geometry) (m : Memory) : Prop where
  magic : m.wordAt magicOffset = Ring.magic
  version : m.wordAt versionOffset = Ring.version
  slotCount : m.wordAt slotCountOffset = g.slotCount
  slotSize : m.wordAt slotSizeOffset = g.slotSize

section

variable {g : Geometry} {m : Memory} {index : UInt32} {payload : ByteArray}

/-- The header of a new ring is laid down word after word. -/
theorem freshMemory_eq :
    freshMemory g =
      (((((((Memory.zeroed g.segmentSize).overlay
        magicOffset (Memory.wordBytes Ring.magic)).overlay
        versionOffset (Memory.wordBytes Ring.version)).overlay
        slotCountOffset (Memory.wordBytes g.slotCount)).overlay
        slotSizeOffset (Memory.wordBytes g.slotSize)).overlay
        headOffset (Memory.wordBytes 0)).overlay
        tailOffset (Memory.wordBytes 0)).overlay
        reservedOffset (Header.fresh g).reserved := by
  simp only [freshMemory, Header.bytes, Memory.overlay_append, Array.size_append,
    Memory.size_data_wordBytes]
  rfl

/-- A word that was laid down is not touched by what is laid down behind it. -/
theorem wordAt_overlay_behind {offset at_ : Nat} {bytes : ByteArray} (h : offset + 4 ≤ at_) :
    (m.overlay at_ bytes).wordAt offset = m.wordAt offset :=
  Memory.wordAt_overlay_outside m (.inl h)

/-- The header of a new ring describes its geometry. -/
theorem described_freshMemory : Described g (freshMemory g) := by
  constructor <;>
    simp (disch := decide) only [freshMemory_eq, wordAt_overlay_behind,
      Memory.wordAt_overlay_wordBytes]

theorem wordAt_head_freshMemory : (freshMemory g).wordAt headOffset = 0 := by
  simp (disch := decide) only [freshMemory_eq, wordAt_overlay_behind,
    Memory.wordAt_overlay_wordBytes]

theorem wordAt_tail_freshMemory : (freshMemory g).wordAt tailOffset = 0 := by
  simp (disch := decide) only [freshMemory_eq, wordAt_overlay_behind,
    Memory.wordAt_overlay_wordBytes]

theorem Described.geometry_ofMemory (h : Described g m) : (Header.ofMemory m).geometry = .ok g :=
  Geometry.check_eq_ok_iff.mpr ⟨h.slotCount, h.slotSize⟩

theorem Described.deposited {g' : Geometry} (h : Described g m) :
    Described g (deposited g' m index payload) where
  magic := (wordAt_deposited (by decide) (.inl (by decide))).trans h.magic
  version := (wordAt_deposited (by decide) (.inl (by decide))).trans h.version
  slotCount := (wordAt_deposited (by decide) (.inl (by decide))).trans h.slotCount
  slotSize := (wordAt_deposited (by decide) (.inl (by decide))).trans h.slotSize

theorem Described.collected {g' : Geometry} (h : Described g m) :
    Described g (collected g' m index) where
  magic := (wordAt_collected (.inl (by decide))).trans h.magic
  version := (wordAt_collected (.inl (by decide))).trans h.version
  slotCount := (wordAt_collected (.inl (by decide))).trans h.slotCount
  slotSize := (wordAt_collected (.inl (by decide))).trans h.slotSize

end

/-! ## Opening -/

/-- The number of the file that is one of the four parts of a ring. -/
def part (r : Ring) : Part → Nat
  | .segment => r.segment.id
  | .semaphore role => (r.semaphores.playing role).id

/-- What opening checks, and the handle that it returns. -/
structure Opened (name : RingName) (s : Shared) (r : Ring) : Prop where
  plain : Shared.isDirectory (Segment.file name.text) = false
  named : ∀ p : Part, s.named (p.file name) = some (r.part p)
  segment : r.segment = ⟨name, r.segment.id, (r.memory s).size, false, false⟩
  headerSize_le : headerSize ≤ (r.memory s).size
  size_le : (r.memory s).size ≤ Segment.maxSize
  described : Described r.geometry (r.memory s)
  fits : r.geometry.segmentSize ≤ (r.memory s).size
  names : ∀ role, (r.semaphores.playing role).name = SemaphoreName.ofRing name.text role
  unlinked : r.unlinked = false

section

variable {name : RingName} {policy : RetryPolicy} {s s' : Shared} {r : Ring}

/-- Opening changes nothing, also when it ends half way. What it answers is put together from its
three parts. -/
theorem openNamed_eq (name : RingName) (policy : RetryPolicy) (s : Shared) :
    openNamed name policy s =
      (s, match (Segment.openNamed name s).2 with
        | .error e => .failed (.segment e)
        | .ok segment =>
          match recordedGeometry segment s with
          | .failed e => .failed e
          | .blocked => .blocked
          | .outside => .outside
          | .value g =>
            match (Triplet.openWith name.text policy s).2 with
            | .error e => .failed (.semaphore e)
            | .ok triplet => .value ⟨segment, triplet, g, false⟩) := by
  have hTriplet : Triplet.openWith name.text policy s =
      (s, (Triplet.openWith name.text policy s).2) :=
    Prod.ext (Triplet.fst_openWith policy s) rfl
  have hSegment : Segment.openNamed name s = (s, (Segment.openNamed name s).2) :=
    Prod.ext (Segment.fst_openNamed name s) rfl
  rw [openNamed, hSegment]
  cases (Segment.openNamed name s).2 with
  | error e => rfl
  | ok segment =>
    dsimp only
    cases recordedGeometry segment s with
    | value g =>
      dsimp only
      rw [hTriplet]
      cases (Triplet.openWith name.text policy s).2 <;> rfl
    | _ => rfl

theorem fst_openNamed (name : RingName) (policy : RetryPolicy) (s : Shared) :
    (openNamed name policy s).1 = s := by
  rw [openNamed_eq]

/-- A geometry is accepted exactly if the header describes it and its slots lie in the segment. -/
theorem recordedGeometry_eq_value_iff {segment : Segment} {g : Geometry}
    (hSize : segment.size = (segment.memory s).size) :
    recordedGeometry segment s = .value g ↔
      headerSize ≤ segment.size ∧ Described g (segment.memory s) ∧
        g.segmentSize ≤ segment.size := by
  constructor
  · intro h
    -- One split for each thing that is checked, in the order in which it is.
    unfold recordedGeometry at h
    split at h
    · cases h
    rename_i hHeader
    rw [Header.read?_of_le (hSize ▸ Nat.le_of_not_lt hHeader)] at h
    dsimp only at h
    split at h
    · cases h
    rename_i hMagic
    split at h
    · cases h
    rename_i hVersion
    split at h
    · cases h
    rename_i hGeometry
    obtain ⟨hCount, hSlot⟩ := Geometry.check_eq_ok_iff.mp hGeometry
    split at h
    · cases h
    rename_i hFits
    cases h
    exact ⟨Nat.le_of_not_lt hHeader, ⟨not_not.mp hMagic, not_not.mp hVersion, hCount, hSlot⟩,
      Nat.le_of_not_lt hFits⟩
  · rintro ⟨hHeader, hDescribed, hFits⟩
    have hMagic : ¬ (Header.ofMemory (segment.memory s)).magic ≠ magic :=
      not_not.mpr hDescribed.magic
    have hVersion : ¬ (Header.ofMemory (segment.memory s)).version ≠ version :=
      not_not.mpr hDescribed.version
    rw [recordedGeometry, if_neg (Nat.not_lt.mpr hHeader), Header.read?_of_le (hSize ▸ hHeader)]
    dsimp only
    rw [if_neg hMagic, if_neg hVersion, hDescribed.geometry_ofMemory]
    exact if_neg (Nat.not_lt.mpr hFits)

/-- A ring is opened exactly when all that opening checks holds. -/
theorem openNamed_eq_value_iff : (openNamed name policy s).2 = .value r ↔ Opened name s r := by
  -- Each part of opening has its own condition, and `Opened` is their conjunction.
  rw [openNamed_eq]
  constructor
  · intro h
    dsimp only at h
    split at h
    · cases h
    rename_i segment hSegment
    obtain ⟨hPlain, hNamed, _, hLarge, hEq⟩ := Segment.openNamed_eq_ok_iff.mp hSegment
    have hSize : segment.size = (segment.memory s).size := congrArg Segment.size hEq
    split at h
    · cases h
    · cases h
    · cases h
    rename_i hGeometry
    obtain ⟨hHeader, hDescribed, hFits⟩ := (recordedGeometry_eq_value_iff hSize).mp hGeometry
    split at h
    · cases h
    rename_i hTriplet
    have hSemaphores := Triplet.openWith_eq_ok_iff.mp hTriplet
    cases h
    refine
      { plain := hPlain
        named := fun p => ?_
        segment := hEq
        headerSize_le := hSize ▸ hHeader
        size_le := hLarge
        described := hDescribed
        fits := hSize ▸ hFits
        names := fun role => (hSemaphores role).2
        unlinked := rfl }
    cases p with
    | segment => exact hNamed
    | semaphore role => exact (hSemaphores role).1
  · intro h
    -- Conversely, no part can fail.
    obtain ⟨segment, semaphores, g, unlinked⟩ := r
    obtain ⟨hPlain, hNamed, hSegment, hHeader, hLarge, hDescribed, hFits, hNames, hUnlinked⟩ := h
    simp only [memory, Segment.memory] at hSegment hHeader hLarge hDescribed hFits hNames
    have hSize : segment.size = (segment.memory s).size := congrArg Segment.size hSegment
    have hPos : 0 < (s.object segment.id).size :=
      Nat.lt_of_lt_of_le (by decide : 0 < headerSize) hHeader
    have hOpen : (Segment.openNamed name s).2 = .ok segment :=
      Segment.openNamed_eq_ok_iff.mpr ⟨hPlain, hNamed .segment, hPos, hLarge, hSegment⟩
    have hGeometry : recordedGeometry segment s = .value g :=
      (recordedGeometry_eq_value_iff hSize).mpr ⟨hSize ▸ hHeader, hDescribed, hSize ▸ hFits⟩
    have hTriplet : (Triplet.openWith name.text policy s).2 = .ok semaphores :=
      Triplet.openWith_eq_ok_iff.mpr fun role => ⟨hNamed (.semaphore role), hNames role⟩
    cases hUnlinked
    simp only [hOpen, hGeometry, hTriplet]

/-- Whatever is opened is a ring, and opening changes nothing. -/
theorem opened_of_openNamed (h : openNamed name policy s = (s', .value r)) :
    s' = s ∧ Opened name s r :=
  ⟨(congrArg Prod.fst h).symm.trans (fst_openNamed name policy s),
    openNamed_eq_value_iff.mp (congrArg Prod.snd h)⟩

/-- A ring that is there is opened, whatever the policy. -/
theorem openNamed_of_opened (h : Opened name s r) : openNamed name policy s = (s, .value r) :=
  Prod.ext (fst_openNamed name policy s) (openNamed_eq_value_iff.mpr h)

end

/-! ## Creating -/

/-- Whether a ring can get its four names. -/
structure Vacant (name : RingName) (s : Shared) : Prop where
  plain : Shared.isDirectory (Segment.file name.text) = false
  unused : ∀ p : Part, s.named (p.file name) = none

/-- The shared files after the segment of a new ring was added. -/
def laid (name : RingName) (g : Geometry) (s : Shared) : Shared :=
  s.insert (Segment.file name.text) (freshMemory g)

/-- The handle that a creation returns. -/
def founder (name : RingName) (g : Geometry) (s : Shared) : Ring :=
  ⟨⟨name, s.count, g.segmentSize, true, false⟩, Triplet.handles name.text (laid name g s), g, false⟩

/-- The shared files after a creation. -/
def founded (name : RingName) (g : Geometry) (s : Shared) : Shared :=
  Triplet.minted name.text g.slotCount.toNat (laid name g s)

section

variable {name : RingName} {g : Geometry} {s s' : Shared} {r : Ring}

theorem Geometry.slotCount_le_maxCount (g : Geometry) : g.slotCount.toNat ≤ Semaphore.maxCount :=
  Nat.le_trans g.slotCount_le (by decide)

theorem size_bytes_fresh : (Header.fresh g).bytes.size = headerSize := by
  simp only [Header.bytes, Header.fresh, ByteArray.size, Array.size_append,
    Memory.size_data_wordBytes, Array.size_replicate]
  rfl

theorem write?_header :
    (Memory.zeroed g.segmentSize).write? 0 (Header.fresh g).bytes = some (freshMemory g) := by
  have hHeader := g.headerSize_le_segmentSize
  apply Memory.write?_of_le
  rw [size_bytes_fresh]
  simpa [Memory.zeroed] using hHeader

theorem isTaken_eq_false_iff : Shared.isTaken (Segment.file name.text) s = false ↔
    Shared.isDirectory (Segment.file name.text) = false ∧
      s.named (Segment.file name.text) = none := by
  simp [Shared.isTaken]

/-- A name is vacant if none of its four files is there. -/
theorem vacant_iff : Vacant name s ↔
    Shared.isTaken (Segment.file name.text) s = false ∧
      ∀ role, s.named (Semaphore.file (SemaphoreName.ofRing name.text role)) = none := by
  rw [isTaken_eq_false_iff]
  constructor
  · intro h
    exact ⟨⟨h.plain, h.unused .segment⟩, fun role => h.unused (.semaphore role)⟩
  · rintro ⟨⟨hPlain, hSegment⟩, hSemaphores⟩
    refine ⟨hPlain, fun p => ?_⟩
    cases p with
    | segment => exact hSegment
    | semaphore role => exact hSemaphores role

/-- The segment of a ring is not in the way of its semaphores. -/
theorem named_laid_semaphore (role : SemaphoreRole) :
    (laid name g s).named (Semaphore.file (SemaphoreName.ofRing name.text role)) =
      s.named (Semaphore.file (SemaphoreName.ofRing name.text role)) :=
  Catalog.named_insert_other _ _ (Part.file_segment_ne_semaphore role).symm

theorem segmentSize_ne_zero (g : Geometry) : g.segmentSize ≠ 0 :=
  Nat.ne_of_gt (Nat.lt_of_lt_of_le (by decide : 0 < headerSize) g.headerSize_le_segmentSize)

/-- If the segment's name is taken, nothing is made. -/
theorem create_of_taken (hLarge : g.segmentSize ≤ Segment.maxSize)
    (hTaken : Shared.isTaken (Segment.file name.text) s = true) :
    create name g s = (s, .failed (.segment (.alreadyExists name))) := by
  simp [create, Segment.create, segmentSize_ne_zero, Nat.not_lt.mpr hLarge, hTaken]

/-- A segment that is too large or whose file is taken is refused, and nothing happens. -/
theorem create_refused
    (h : ¬ (g.segmentSize ≤ Segment.maxSize ∧
      Shared.isTaken (Segment.file name.text) s = false)) :
    ∃ e, create name g s = (s, .failed e) := by
  by_cases hLarge : g.segmentSize ≤ Segment.maxSize
  · have hTaken : Shared.isTaken (Segment.file name.text) s = true := by
      simpa [hLarge] using h
    exact ⟨_, create_of_taken hLarge hTaken⟩
  · exact ⟨.segment (.sizeOutside name g.segmentSize), by
      simp [create, Segment.create, Nat.lt_of_not_le hLarge]⟩

/-- Creation lays the segment out, then creates the semaphores, and removes the segment's name if
that fails. -/
theorem create_eq (hLarge : g.segmentSize ≤ Segment.maxSize)
    (hFree : Shared.isTaken (Segment.file name.text) s = false) :
    create name g s =
      match Triplet.create name.text g.slotCount (laid name g s) with
      | (s, .error e) => (s.unlink (Segment.file name.text), .failed (.semaphore e))
      | (after, .ok triplet) =>
        (after, .value ⟨(founder name g s).segment, triplet, g, false⟩) := by
  have hMemory : Segment.memory ⟨name, s.count, g.segmentSize, true, false⟩
      (s.insert (Segment.file name.text) (Memory.zeroed g.segmentSize)) =
        Memory.zeroed g.segmentSize := Catalog.object_insert_same _ _ _
  simp only [create, Segment.create_eq (segmentSize_ne_zero g) hLarge hFree, hMemory, write?_header,
    Catalog.set_insert]
  rw [← laid]
  rcases Triplet.create name.text g.slotCount (laid name g s) with ⟨after, result⟩
  cases result <;> rfl

/-- Under vacant names a ring within the bound on its size is created. -/
theorem create_of_vacant (hLarge : g.segmentSize ≤ Segment.maxSize) (vacant : Vacant name s) :
    create name g s = (founded name g s, .value (founder name g s)) := by
  have hMintable : Triplet.Mintable name.text g.slotCount (laid name g s) :=
    (Triplet.mintable_ofRing_iff g.slotCount_le_maxCount).mpr fun role =>
      (named_laid_semaphore role).trans (vacant.unused (.semaphore role))
  rw [create_eq hLarge (vacant_iff.mp vacant).1, Triplet.create_of_mintable hMintable]
  rfl

/-- Where a creation fails, all names lead where they led, and nothing that there was is touched. A
segment may have been there for a moment. -/
theorem create_of_not_vacant (h : ¬ (g.segmentSize ≤ Segment.maxSize ∧ Vacant name s)) :
    ∃ s' e, create name g s = (s', .failed e) ∧ s.Intact s' := by
  by_cases hRequest : g.segmentSize ≤ Segment.maxSize ∧
      Shared.isTaken (Segment.file name.text) s = false
  swap
  · obtain ⟨e, hCreate⟩ := create_refused hRequest
    exact ⟨s, e, hCreate, Catalog.intact_refl s⟩
  obtain ⟨hLarge, hFree⟩ := hRequest
  have hNot : ¬ Triplet.Mintable name.text g.slotCount (laid name g s) := by
    intro hMintable
    refine h ⟨hLarge, vacant_iff.mpr ⟨hFree, fun role => ?_⟩⟩
    rw [← named_laid_semaphore (g := g)]
    exact (hMintable role).unused
  obtain ⟨after, e, hTriplet, hIntact⟩ := Triplet.create_of_not_mintable hNot
  refine ⟨_, .semaphore e, by rw [create_eq hLarge hFree, hTriplet], ?_⟩
  have hSegment : s.Intact ((laid name g s).unlink (Segment.file name.text)) :=
    Catalog.intact_unlink_insert _ (isTaken_eq_false_iff.mp hFree).2
  exact hSegment.trans (hIntact.unlink _)

/-- Whoever does not get the ring that it wanted to create has left nothing behind. -/
theorem intact_of_vain {reply : Reply Ring} (hCreate : create name g s = (s', reply))
    (hVain : ∀ r, reply ≠ .value r) : ∃ e, reply = .failed e ∧ s.Intact s' := by
  by_cases hRequest : g.segmentSize ≤ Segment.maxSize ∧ Vacant name s
  · -- Where creating is possible it succeeds.
    rw [create_of_vacant hRequest.1 hRequest.2] at hCreate
    cases hCreate
    exact absurd rfl (hVain _)
  · obtain ⟨after, e, hFailed, hIntact⟩ := create_of_not_vacant hRequest
    rw [hFailed] at hCreate
    cases hCreate
    exact ⟨e, rfl, hIntact⟩

/-- A ring is created exactly when it is not too large and its names are vacant. -/
theorem create_eq_value_iff :
    create name g s = (s', .value r) ↔
      g.segmentSize ≤ Segment.maxSize ∧ Vacant name s ∧
        s' = founded name g s ∧ r = founder name g s := by
  constructor
  · intro h
    -- A creation with the wrong size or a taken name fails, so it did not come to a ring.
    by_cases hRequest : g.segmentSize ≤ Segment.maxSize ∧ Vacant name s
    · obtain ⟨hLarge, vacant⟩ := hRequest
      rw [create_of_vacant hLarge vacant] at h
      cases h
      exact ⟨hLarge, vacant, rfl, rfl⟩
    · obtain ⟨after, e, hFailed, _⟩ := create_of_not_vacant hRequest
      rw [hFailed] at h
      cases h
  · rintro ⟨hLarge, vacant, rfl, rfl⟩
    exact create_of_vacant hLarge vacant

/-! ### The files of a new ring -/

theorem count_laid : (laid name g s).count = s.count + 1 := rfl

/-- The names of a new ring lead to its parts. -/
theorem named_founded (p : Part) :
    (founded name g s).named (p.file name) = some ((founder name g s).part p) := by
  cases p with
  | segment =>
    have hOther : ∀ role, Segment.file name.text ≠
        Semaphore.file (SemaphoreName.ofRing name.text role) :=
      Part.file_segment_ne_semaphore
    exact (Triplet.named_minted_other hOther).trans (Catalog.named_insert_same _ _ _)
  | semaphore role => exact Triplet.named_minted role

theorem named_founded_other {file : String} (h : ∀ p : Part, file ≠ p.file name) :
    (founded name g s).named file = s.named file :=
  (Triplet.named_minted_other fun role => h (.semaphore role)).trans
    (Catalog.named_insert_other _ _ (h .segment))

/-- The parts of a new ring get the next four numbers. -/
theorem part_founder (p : Part) : s.count ≤ (founder name g s).part p ∧
    (founder name g s).part p < s.count + 4 := by
  cases p with
  | segment => exact ⟨Nat.le_refl _, Nat.lt_add_of_pos_right (by decide)⟩
  | semaphore role =>
    have hId := Triplet.id_handles role name.text (laid name g s)
    rw [count_laid] at hId
    exact ⟨Nat.le_of_succ_le hId.1, hId.2⟩

/-- The four parts of a new ring are different files. -/
theorem part_founder_injective {p q : Part} :
    (founder name g s).part p = (founder name g s).part q → p = q := by
  -- The segment is made first, so its number is below those of the semaphores.
  have hApart : ∀ role, (founder name g s).part .segment ≠
      (founder name g s).part (.semaphore role) :=
    fun role => Nat.ne_of_lt (Triplet.id_handles role _ (laid name g s)).1
  intro h
  cases p with
  | segment =>
    cases q with
    | segment => rfl
    | semaphore role => exact absurd h (hApart role)
  | semaphore role =>
    cases q with
    | segment => exact absurd h.symm (hApart role)
    | semaphore role' => exact congrArg Part.semaphore (Triplet.id_handles_injective h)

/-- A new ring has fresh bytes. -/
theorem memory_founder : (founder name g s).memory (founded name g s) = freshMemory g :=
  (Triplet.object_minted_of_lt (Nat.lt_succ_self _)).trans (Catalog.object_insert_same _ _ _)

/-- A creation leaves the bytes of what there was. -/
theorem object_founded {id : Nat} (h : id < s.count) :
    (founded name g s).object id = s.object id :=
  (Triplet.object_minted_of_lt (Nat.lt_succ_of_lt h)).trans (Catalog.object_insert_of_lt _ _ _ h)

/-- A new ring has all its slots free and its mutex open. -/
theorem units_founder (role : SemaphoreRole) :
    ((founder name g s).semaphores.playing role).units (founded name g s) =
      Triplet.initially g.slotCount.toNat role :=
  Triplet.units_minted role (Triplet.initially_le g.slotCount_le_maxCount role)

/-- Creating a ring is a sequence of changes that any process may make. -/
theorem founded_evolves (vacant : Vacant name s) : s.Evolves (founded name g s) := by
  have hMintable : Triplet.Mintable name.text g.slotCount (laid name g s) :=
    (Triplet.mintable_ofRing_iff g.slotCount_le_maxCount).mpr fun role =>
      (named_laid_semaphore role).trans (vacant.unused (.semaphore role))
  have hFilled := (Triplet.creatable_filled_iff (Semaphore.image g.slotCount.toNat)).mpr
    (hMintable .filled)
  have hMutex := (Triplet.creatable_mutex_iff (Semaphore.image g.slotCount.toNat)
    (Semaphore.image 0)).mpr (hMintable .mutex)
  exact (((Relation.ReflTransGen.single (.create _ _ (vacant.unused .segment))).tail
    (.create _ _ (hMintable .free).unused)).tail
    (.create _ _ hFilled.unused)).tail
    (.create _ _ hMutex.unused)

end

/-! ## Handles on one ring -/

/-- What opening returns to whom `r` is another handle on the same ring. Handles on one ring differ
in the marks of their owner at most, so they share their visitor. -/
def visitor (r : Ring) : Ring :=
  { r with segment := { r.segment with owner := false, unlinked := false }, unlinked := false }

@[simp] theorem part_visitor (r : Ring) (p : Part) : r.visitor.part p = r.part p := by
  cases p <;> rfl

/-- What does not depend on the marks of the owner is the same through all handles on a ring. -/
theorem eq_of_visitor {α : Type} {r r' : Ring} (f : Ring → α) (hf : ∀ r, f r.visitor = f r)
    (h : r.visitor = r'.visitor) : f r = f r' := by
  rw [← hf r, h, hf r']

section

variable {name : RingName} {g : Geometry} {policy : RetryPolicy} {s s' : Shared} {r : Ring}

/-- A ring can be opened as long as its names and the front of its header stay. -/
theorem Opened.transfer (h : Opened name s r)
    (named : ∀ p : Part, s'.named (p.file name) = s.named (p.file name))
    (size : (r.memory s').size = (r.memory s).size)
    (described : Described r.geometry (r.memory s')) : Opened name s' r where
  plain := h.plain
  named p := (named p).trans (h.named p)
  segment := by rw [size]; exact h.segment
  headerSize_le := by rw [size]; exact h.headerSize_le
  size_le := by rw [size]; exact h.size_le
  described := described
  fits := by rw [size]; exact h.fits
  names := h.names
  unlinked := h.unlinked

/-- What was just created can be opened. -/
theorem opened_founder (hLarge : g.segmentSize ≤ Segment.maxSize) (vacant : Vacant name s) :
    Opened name (founded name g s) (founder name g s).visitor := by
  have hMemory : (founder name g s).visitor.memory (founded name g s) = freshMemory g :=
    memory_founder
  have hSize : (freshMemory g).size = g.segmentSize := rfl
  refine ⟨vacant.plain, fun p => ?_, ?_, ?_, ?_, ?_, ?_, Triplet.name_handles, rfl⟩
  · rw [part_visitor]
    exact named_founded p
  · rw [hMemory]
    rfl
  · rw [hMemory, hSize]
    exact g.headerSize_le_segmentSize
  · rw [hMemory, hSize]
    exact hLarge
  · rw [hMemory]
    exact described_freshMemory
  · rw [hMemory]
    exact Nat.le_refl _

/-- Whoever opens a ring gets the one handle that it has for visitors. -/
theorem Opened.eq_of_openNamed {r' : Ring} (h : Opened name s r)
    (hOpen : openNamed name policy s = (s', .value r')) : s' = s ∧ r' = r := by
  rw [openNamed_of_opened h] at hOpen
  cases hOpen
  exact ⟨rfl, rfl⟩

end

/-! ## Removing the names -/

/-- The shared files after the four names of a ring were removed. -/
def withdrawn (name : RingName) (s : Shared) : Shared :=
  (Triplet.removed name s).unlink (Segment.file name.text)

/-- The handle of an owner who has removed the names. -/
def retired (r : Ring) : Ring :=
  { r with segment := { r.segment with unlinked := true }, unlinked := true }

section

variable {name : RingName} {s : Shared} {r : Ring}

/-- None of the four names is left. -/
theorem named_withdrawn (p : Part) : (withdrawn name s).named (p.file name) = none := by
  cases p with
  | segment => exact Catalog.named_unlink_same _ _
  | semaphore role =>
    exact (Catalog.named_unlink_other _ (Part.file_segment_ne_semaphore role).symm).trans
      (Triplet.named_removed role)

/-- All other names are left. -/
theorem named_withdrawn_other {file : String} (h : ∀ p : Part, file ≠ p.file name) :
    (withdrawn name s).named file = s.named file :=
  (Catalog.named_unlink_other _ (h .segment)).trans
    (Triplet.named_removed_other fun role => h (.semaphore role))

/-- An owner who has not done so before removes the four names of the ring and nothing else. -/
theorem unlink_of_owner
    (names : ∀ role, (r.semaphores.playing role).name = SemaphoreName.ofRing r.name.text role)
    (hOwner : r.owner = true) (hMark : r.segment.unlinked = r.unlinked)
    (hFirst : r.unlinked = false) :
    r.unlink s = (withdrawn r.name s, r.retired, .value true) := by
  have hAsked : (r.owner && !r.unlinked) = true := by
    rw [hOwner, hFirst]
    rfl
  -- The segment's own mark agrees with the ring's.
  have hSegment : (r.segment.owner && !r.segment.unlinked) = true := by
    rw [hMark]
    exact hAsked
  rw [unlink, if_pos hAsked, Triplet.unlink_of_names names]
  dsimp only
  rw [Segment.unlink, if_pos hSegment]
  rfl

/-- Everybody else removes nothing, and neither does an owner a second time. -/
theorem unlink_of_other (h : r.owner = false ∨ r.unlinked = true) :
    r.unlink s = (s, r, .value false) := by
  rcases h with hOther | hAgain
  · simp [unlink, hOther]
  · simp [unlink, hAgain]

/-- Dropping a handle removes nothing. -/
theorem close_eq (r : Ring) (s : Shared) : r.close s = s := rfl

/-- Removing names is a sequence of changes that any process may make. -/
theorem withdrawn_evolves : s.Evolves (withdrawn name s) :=
  (((Relation.ReflTransGen.single (.unlink _)).tail (.unlink _)).tail (.unlink _)).tail (.unlink _)

end

/-! ## Mounted handles -/

/-- What a handle can rely on whatever others do: its segment has the size that was found, all
slots lie inside, and its parts are four. -/
structure Mounted (r : Ring) (s : Shared) : Prop where
  existing : ∀ p : Part, r.part p < s.count
  size : (r.memory s).size = r.segment.size
  fits : r.geometry.segmentSize ≤ r.segment.size
  distinct : ∀ {p q : Part}, r.part p = r.part q → p = q

/-- A handle that somebody created or opened, in the world right after that. -/
inductive Obtained (r : Ring) : Shared → Prop
  | created {name : RingName} {g : Geometry} {s s' : Shared} :
      s.Possible → create name g s = (s', .value r) → Obtained r s'
  | opened {name : RingName} {policy : RetryPolicy} {s s' : Shared} :
      s.Possible → openNamed name policy s = (s', .value r) → Obtained r s'

section

variable {r : Ring} {s s' : Shared} {role role' : SemaphoreRole}

theorem Mounted.fits_memory (h : r.Mounted s) : r.geometry.segmentSize ≤ (r.memory s).size :=
  h.size ▸ h.fits

theorem Mounted.readWord?_header (h : r.Mounted s) {offset : Nat}
    (hOffset : offset + 4 ≤ headerSize) :
    (r.memory s).readWord? offset = some ((r.memory s).wordAt offset) :=
  Memory.readWord?_of_le (header_word_in_segment h.fits_memory hOffset)

theorem Mounted.playing_ne (h : r.Mounted s) (role role' : SemaphoreRole) (hRole : role ≠ role') :
    (r.semaphores.playing role).id ≠ (r.semaphores.playing role').id := by
  intro hId
  cases h.distinct (p := .semaphore role) (q := .semaphore role') hId
  exact hRole rfl

theorem Mounted.playing_ne_segment (h : r.Mounted s) (role : SemaphoreRole) :
    (r.semaphores.playing role).id ≠ r.segment.id := by
  intro hId
  cases h.distinct (p := .semaphore role) (q := .segment) hId

/-- A handle stays mounted as long as no file vanishes and its segment keeps its size. -/
theorem Mounted.later (h : r.Mounted s) (hCount : s.count ≤ s'.count)
    (hSize : (r.memory s').size = (r.memory s).size) : r.Mounted s' :=
  ⟨fun p => Nat.lt_of_lt_of_le (h.existing p) hCount, hSize.trans h.size, h.fits, h.distinct⟩

/-- A ring stays mounted whatever else changes. -/
theorem Mounted.evolves (h : r.Mounted s) (later : s.Evolves s') : r.Mounted s' where
  existing p := (Shared.size_of_evolves later (h.existing p)).1
  size := (Shared.size_of_evolves later (h.existing .segment)).2.trans h.size
  fits := h.fits
  distinct := h.distinct

/-- A new ring is mounted. -/
theorem mounted_founder (name : RingName) (g : Geometry) (s : Shared) :
    (founder name g s).Mounted (founded name g s) where
  existing p := (part_founder p).2
  size := congrArg Memory.size memory_founder
  fits := Nat.le_refl _
  distinct := part_founder_injective

/-- In a possible world the four names of a ring lead to four files. -/
theorem Opened.mounted {name : RingName} (sound : s.Sound) (h : Opened name s r) : r.Mounted s where
  existing p := sound.lt_count (h.named p)
  size := (congrArg Segment.size h.segment).symm
  fits := (congrArg Segment.size h.segment) ▸ h.fits
  distinct {p q} hId := Part.file_injective (sound.injective (h.named p) (hId ▸ h.named q))

/-- Whoever has created or opened a ring has it mounted. -/
theorem Obtained.mounted (h : Obtained r s) : r.Mounted s := by
  cases h with
  | created possible hCreate =>
    obtain ⟨_, _, rfl, rfl⟩ := create_eq_value_iff.mp hCreate
    exact mounted_founder _ _ _
  | opened possible hOpen =>
    obtain ⟨rfl, hOpened⟩ := opened_of_openNamed hOpen
    exact hOpened.mounted possible.sound

end

/-! ## A small ring

Statements about every ring are shown at work on this one. -/

namespace Sample

/-- The name of the small ring. -/
def name : RingName :=
  ⟨"/r", by constructor <;> decide⟩

/-- A name whose segment would be where the small ring has a semaphore. -/
def lookalike : RingName :=
  ⟨"/sem.r_free", by constructor <;> decide⟩

/-- Two slots of four bytes. -/
def geometry : Geometry :=
  ⟨2, 4, by decide, by decide, by decide, by decide⟩

/-- The world in which nothing but the small ring was created. -/
def world : Shared :=
  founded name geometry Shared.pristine

/-- The handle of its creator. -/
def ring : Ring :=
  founder name geometry Shared.pristine

theorem vacant : Vacant name Shared.pristine :=
  ⟨by decide, fun _ => rfl⟩

theorem create_eq_value : create name geometry Shared.pristine = (world, .value ring) :=
  create_of_vacant (by decide) vacant

theorem file_lookalike : Segment.file lookalike.text = (Part.semaphore .free).file name := by
  decide

/-- Although nobody has made a ring of that name, it cannot be had. -/
theorem create_lookalike :
    create lookalike geometry world = (world, .failed (.segment (.alreadyExists lookalike))) := by
  apply create_of_taken (by decide)
  have hThere : world.named (Segment.file lookalike.text) = some (ring.part (.semaphore .free)) := by
    rw [file_lookalike]
    exact named_founded _
  simp [Shared.isTaken, hThere]

theorem obtained : Obtained ring world :=
  .created Relation.ReflTransGen.refl create_eq_value

/-- The world of the small ring after somebody filled its segment with ones. -/
def scribbled : Shared :=
  world.set ring.segment.id ⟨ring.segment.size, fun _ => 0xFF⟩

theorem scribbled_later : world.Evolves scribbled :=
  Shared.evolves_set rfl

end Sample

end Ring
end RingBus
