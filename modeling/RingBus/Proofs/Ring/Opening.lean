import RingBus.Proofs.Ring.Transfer
import RingBus.Scenario.Rings

/-!
# When a ring can be opened

Opening looks at a segment that anybody may have made, in two layers of checks that overlap: first
the segment as such, then its header, then the semaphores. What comes out is decided by the first
of twelve requirements that the world does not meet.

* `Requirement`: what is required, in the order in which it is checked, and how a requirement that
  is not met is reported.
* `openNamed_of_unmet`, `openNamed_eq_value_iff_met`: what opening comes to.
* `SameFront`: the part of the world that opening looks at.
* `LooksOnly`: what looking at a ring leaves behind.
-/

namespace RingBus

/-- Opening a ring under an identifier that is not in use yet leaves the host as it is. -/
theorem World.host_ringStep_openNamed (w : World) {id : String} (text : String)
    (attempts : Option Nat) :
    w.object? id = none → (w.ringStep (.openNamed id text attempts)).1.host = w.host := by
  intro hFree
  have hPut (reply : Reply Ring) : (w.putRing id (w.host.shared, reply)).1.host = w.host := by
    cases reply with
    | value r =>
      have hFree' : (w.withShared w.host.shared).object? id = none := hFree
      rw [World.putRing, World.put, hFree']
      rfl
    | _ => rfl
  rw [World.ringStep, World.withName]
  cases RingName.ofString text with
  | error e => rfl
  | ok name =>
    have hKept := Ring.fst_openNamed name (.ofAttempts attempts) w.host.shared
    have hPair : Ring.openNamed name (.ofAttempts attempts) w.host.shared = (w.host.shared, _) :=
      Prod.ext hKept rfl
    dsimp only
    rw [hPair]
    exact hPut _

namespace Ring

/-- The file that the name of a segment leads to. The two directories are no files. -/
def segment? (name : RingName) (s : Shared) : Option Nat :=
  if Shared.isDirectory (Segment.file name.text) then none
  else s.named (Segment.file name.text)

/-- The bytes of the file that the name of a segment leads to. -/
def bytes (name : RingName) (s : Shared) : Memory :=
  ((segment? name s).map s.object).getD default

/-- What stands at the front of the segment that a name leads to, as far as it is long enough to
hold a header. -/
def header (name : RingName) (s : Shared) : Header :=
  Header.ofMemory (bytes name s)

/-! ## Requirements -/

/-- What opening requires. -/
inductive Requirement
  | existing
  | nonempty
  | bounded
  | headed
  | magic
  | version
  | slotCount
  | slotSize
  | room
  | semaphore (role : SemaphoreRole)
  deriving DecidableEq

namespace Requirement

/-- All requirements, in the order in which they are checked. -/
def all : List Requirement :=
  [existing, nonempty, bounded, headed, magic, version, slotCount, slotSize, room,
    semaphore .free, semaphore .filled, semaphore .mutex]

/-- The world meets a requirement. Each one is said without the others: a number of the header is
also there to be looked at if the segment is too small to hold it. -/
def Met (name : RingName) (s : Shared) : Requirement → Prop
  | existing => (segment? name s).isSome = true
  | nonempty => (bytes name s).size ≠ 0
  | bounded => (bytes name s).size ≤ 1073741824
  | headed => 52 ≤ (bytes name s).size
  | magic => (header name s).magic = 0xA1B2C3D4
  | version => (header name s).version = 1
  | slotCount => 1 ≤ (header name s).slotCount.toNat ∧ (header name s).slotCount.toNat ≤ 65536
  | slotSize =>
    1 ≤ (header name s).slotSize.toNat ∧ (header name s).slotSize.toNat ≤ 16777216
  | room =>
    52 + (header name s).slotCount.toNat * (4 + (header name s).slotSize.toNat) ≤
      (bytes name s).size
  | semaphore role =>
    (s.named (Semaphore.file (SemaphoreName.ofRing name.text role))).isSome = true

instance (name : RingName) (s : Shared) : DecidablePred (Met name s)
  | existing => inferInstanceAs (Decidable (_ = true))
  | nonempty => inferInstanceAs (Decidable (_ ≠ _))
  | bounded => inferInstanceAs (Decidable (_ ≤ _))
  | headed => inferInstanceAs (Decidable (_ ≤ _))
  | magic => inferInstanceAs (Decidable (_ = _))
  | version => inferInstanceAs (Decidable (_ = _))
  | slotCount => inferInstanceAs (Decidable (_ ∧ _))
  | slotSize => inferInstanceAs (Decidable (_ ∧ _))
  | room => inferInstanceAs (Decidable (_ ≤ _))
  | semaphore _ => inferInstanceAs (Decidable (_ = true))

/-- How it is reported that a requirement is not met. -/
def refusal (name : RingName) (policy : RetryPolicy) (s : Shared) : Requirement → RingError
  | existing =>
    .segment (.refused name
      (if Shared.isDirectory (Segment.file name.text) then .invalid else .noEntry))
  | nonempty => .segment (.tooSmall name 0 1)
  | bounded => .segment (.oversized name (bytes name s).size)
  | headed => .segment (.tooSmall name (bytes name s).size 52)
  | magic => .badMagic name (header name s).magic
  | version => .unsupportedVersion name (header name s).version
  | slotCount =>
    .invalidGeometry (.outOfBounds "slot_count" (header name s).slotCount.toNat 1 65536)
  | slotSize =>
    .invalidGeometry (.outOfBounds "slot_size" (header name s).slotSize.toNat 1 16777216)
  | room =>
    .segment (.tooSmall name (bytes name s).size
      (52 + (header name s).slotCount.toNat * (4 + (header name s).slotSize.toNat)))
  | semaphore role =>
    .semaphore (.openFailed (SemaphoreName.ofRing name.text role) policy.attempts.toNat
      (.kernel .noEntry))

/-- Whatever is checked before a requirement is met. -/
def Reached (name : RingName) (s : Shared) (q : Requirement) : Prop :=
  ∀ p, all.idxOf p < all.idxOf q → p.Met name s

/-- The first requirement that the world does not meet. -/
def firstUnmet? (name : RingName) (s : Shared) : Option Requirement :=
  all.find? fun q => !decide (q.Met name s)

variable {name : RingName} {s : Shared} {q : Requirement}

theorem mem_all (q : Requirement) : q ∈ all := by
  cases q with
  | semaphore role => cases role <;> decide
  | _ => decide

/-- Nothing is unmet exactly if everything is met. -/
theorem firstUnmet?_eq_none_iff : firstUnmet? name s = none ↔ ∀ q : Requirement, q.Met name s := by
  rw [firstUnmet?, List.find?_eq_none]
  constructor
  · intro h q
    simpa using h q q.mem_all
  · intro h q _
    simpa using h q

theorem exists_firstUnmet (h : ¬ ∀ q : Requirement, q.Met name s) :
    ∃ q, firstUnmet? name s = some q :=
  Option.ne_none_iff_exists'.mp (mt firstUnmet?_eq_none_iff.mp h)

/-- The first requirement that is not met is reached, and is not met. -/
theorem of_firstUnmet? :
    firstUnmet? name s = some q → ¬ q.Met name s ∧ q.Reached name s := by
  intro h
  obtain ⟨hUnmet, i, hi, hAt, hBefore⟩ := List.find?_eq_some_iff_getElem.mp h
  -- No requirement is listed twice, so its place in the list is where the search has stopped.
  have hIndex : all.idxOf q = i := by
    rw [← hAt]
    exact List.Nodup.idxOf_getElem (by decide) i hi
  refine ⟨by simpa using hUnmet, ?_⟩
  intro p hp
  have hMet := hBefore (all.idxOf p) (hIndex ▸ hp)
  rw [List.getElem_idxOf] at hMet
  simpa using hMet

end Requirement

variable {name : RingName} {policy : RetryPolicy} {s s' : Shared} {r : Ring}

/-- The geometry that a header records, if its numbers are within bounds. -/
def recorded (count : Requirement.slotCount.Met name s) (size : Requirement.slotSize.Met name s) :
    Geometry :=
  ⟨(header name s).slotCount, (header name s).slotSize, count.1, count.2, size.1, size.2⟩

/-! ## What opening comes to -/

theorem segmentOpen_of_none :
    segment? name s = none →
      (Segment.openNamed name s).2 = .error (.refused name
        (if Shared.isDirectory (Segment.file name.text) then .invalid else .noEntry)) := by
  intro h
  unfold segment? at h
  unfold Segment.openNamed
  by_cases hDirectory : Shared.isDirectory (Segment.file name.text)
  · rw [if_pos hDirectory, if_pos hDirectory]
  · rw [if_neg hDirectory] at h
    rw [if_neg hDirectory, if_neg hDirectory, h]

theorem segmentOpen_of_some {id : Nat} :
    segment? name s = some id →
      s.object id = bytes name s ∧
        (Segment.openNamed name s).2 =
          if (bytes name s).size = 0 then .error (.tooSmall name (bytes name s).size 1)
          else if (bytes name s).size > Segment.maxSize then
            .error (.oversized name (bytes name s).size)
          else .ok ⟨name, id, (bytes name s).size, false, false⟩ := by
  intro h
  have hBytes : bytes name s = s.object id := by
    rw [bytes, h]
    rfl
  refine ⟨hBytes.symm, ?_⟩
  unfold segment? at h
  split at h
  next => cases h
  next hDirectory =>
    simp only [hBytes, Segment.openNamed, if_neg hDirectory, h]
    split
    · rfl
    · split <;> rfl

/-- The semaphores are looked for one after the other, and the first that is not there is told. -/
theorem openTriplet_of_unmet {role : SemaphoreRole} :
    ¬ (Requirement.semaphore role).Met name s →
    (Requirement.semaphore role).Reached name s →
    (Triplet.openWith name.text policy s).2 =
      .error (.openFailed (SemaphoreName.ofRing name.text role) policy.attempts.toNat
        (.kernel .noEntry)) := by
  intro hUnmet hBefore
  have hMissing : s.named (Semaphore.file (SemaphoreName.ofRing name.text role)) = none := by
    simpa [Requirement.Met] using hUnmet
  have hThere : ∀ role' : SemaphoreRole,
      Requirement.all.idxOf (.semaphore role') < Requirement.all.idxOf (.semaphore role) →
        ∃ id, s.named (Semaphore.file (SemaphoreName.ofRing name.text role')) = some id :=
    fun role' hFirst => Option.isSome_iff_exists.mp (hBefore (.semaphore role') hFirst)
  -- On the role that is missing; those before it were found and are dropped again.
  cases role with
  | free => simp only [Triplet.openWith, Semaphore.openWith_ofRing, hMissing]
  | filled =>
    obtain ⟨free, hFree⟩ := hThere .free (by decide)
    simp only [Triplet.openWith, Semaphore.openWith_ofRing, hFree, hMissing, Semaphore.close]
  | mutex =>
    obtain ⟨free, hFree⟩ := hThere .free (by decide)
    obtain ⟨filled, hFilled⟩ := hThere .filled (by decide)
    simp only [Triplet.openWith, Semaphore.openWith_ofRing, hFree, hFilled, hMissing,
      Semaphore.close]

theorem check_of_slotCount {slotCount slotSize : UInt32}
    (hCount : ¬ (1 ≤ slotCount.toNat ∧ slotCount.toNat ≤ maxSlotCount)) :
    Geometry.check slotCount slotSize =
      .error (.outOfBounds "slot_count" slotCount.toNat 1 maxSlotCount) := by
  rw [Geometry.check, dif_neg hCount]

theorem check_of_slotSize {slotCount slotSize : UInt32}
    (hCount : 1 ≤ slotCount.toNat ∧ slotCount.toNat ≤ maxSlotCount)
    (hSize : ¬ (1 ≤ slotSize.toNat ∧ slotSize.toNat ≤ maxSlotSize)) :
    Geometry.check slotCount slotSize =
      .error (.outOfBounds "slot_size" slotSize.toNat 1 maxSlotSize) := by
  rw [Geometry.check, dif_pos hCount, dif_neg hSize]

theorem geometry_recorded (hCount : Requirement.slotCount.Met name s)
    (hSize : Requirement.slotSize.Met name s) :
    (header name s).geometry = .ok (recorded hCount hSize) :=
  Geometry.check_eq_ok_iff.mpr ⟨rfl, rfl⟩

/-- Opening goes on to the header of a segment that is neither too large nor too small for one. -/
theorem openNamed_of_headed (policy : RetryPolicy) :
    Requirement.magic.Reached name s →
      ∃ id, openNamed name policy s = (s,
        if (header name s).magic ≠ magic then .failed (.badMagic name (header name s).magic)
        else if (header name s).version ≠ version then
          .failed (.unsupportedVersion name (header name s).version)
        else
          match (header name s).geometry with
          | .error e => .failed (.invalidGeometry e)
          | .ok g =>
            if (bytes name s).size < g.segmentSize then
              .failed (.segment (.tooSmall name (bytes name s).size g.segmentSize))
            else
              match (Triplet.openWith name.text policy s).2 with
              | .error e => .failed (.semaphore e)
              | .ok triplet =>
                .value ⟨⟨name, id, (bytes name s).size, false, false⟩, triplet, g, false⟩) := by
  intro hMet
  have hNonempty : (bytes name s).size ≠ 0 := hMet .nonempty (by decide)
  have hBounded : (bytes name s).size ≤ Segment.maxSize := hMet .bounded (by decide)
  have hHeaded : headerSize ≤ (bytes name s).size := hMet .headed (by decide)
  obtain ⟨id, hId⟩ := Option.isSome_iff_exists.mp (hMet .existing (by decide))
  obtain ⟨hObject, hOpen⟩ := segmentOpen_of_some hId
  rw [if_neg hNonempty, if_neg (Nat.not_lt.mpr hBounded)] at hOpen
  have hRead : Header.read? (s.object id) = some (header name s) := by
    rw [hObject]
    exact Header.read?_of_le hHeaded
  refine ⟨id, ?_⟩
  rw [openNamed_eq, hOpen]
  dsimp only [recordedGeometry, Segment.memory]
  rw [if_neg (Nat.not_lt.mpr hHeaded), hRead]
  dsimp only
  -- Both sides ask the same questions in the same order.
  by_cases hMagic : (header name s).magic ≠ magic
  · rw [if_pos hMagic, if_pos hMagic]
  rw [if_neg hMagic, if_neg hMagic]
  by_cases hVersion : (header name s).version ≠ version
  · rw [if_pos hVersion, if_pos hVersion]
  rw [if_neg hVersion, if_neg hVersion]
  cases (header name s).geometry with
  | error e => rfl
  | ok g =>
    dsimp only
    by_cases hRoom : (bytes name s).size < g.segmentSize
    · rw [if_pos hRoom, if_pos hRoom]
    · cases (Triplet.openWith name.text policy s).2 with
      | error e => simp only [if_neg hRoom]
      | ok triplet => simp only [if_neg hRoom]

section

variable {q : Requirement}

/-- A segment that is not there or has no fitting size is refused before its header is read. -/
theorem openNamed_of_unfit (hFront : Requirement.all.idxOf q < Requirement.all.idxOf .magic)
    (hUnmet : ¬ q.Met name s) (hBefore : q.Reached name s) :
    openNamed name policy s = (s, .failed (q.refusal name policy s)) := by
  rw [openNamed_eq]
  -- On the requirement; each comes after those that stand before it in the list.
  cases q with
  | existing =>
    have hNone : segment? name s = none := by
      simpa [Requirement.Met] using hUnmet
    rw [segmentOpen_of_none hNone]
    rfl
  | nonempty =>
    have hEmpty : (bytes name s).size = 0 := not_not.mp hUnmet
    obtain ⟨id, hId⟩ := Option.isSome_iff_exists.mp (hBefore .existing (by decide))
    rw [(segmentOpen_of_some hId).2, if_pos hEmpty, hEmpty]
    rfl
  | bounded =>
    have hNonempty : (bytes name s).size ≠ 0 := hBefore .nonempty (by decide)
    have hLarge : Segment.maxSize < (bytes name s).size := Nat.lt_of_not_le hUnmet
    obtain ⟨id, hId⟩ := Option.isSome_iff_exists.mp (hBefore .existing (by decide))
    rw [(segmentOpen_of_some hId).2, if_neg hNonempty, if_pos hLarge]
    rfl
  | headed =>
    have hNonempty : (bytes name s).size ≠ 0 := hBefore .nonempty (by decide)
    have hBounded : (bytes name s).size ≤ Segment.maxSize := hBefore .bounded (by decide)
    have hSmall : (bytes name s).size < headerSize := Nat.lt_of_not_le hUnmet
    obtain ⟨id, hId⟩ := Option.isSome_iff_exists.mp (hBefore .existing (by decide))
    rw [(segmentOpen_of_some hId).2, if_neg hNonempty, if_neg (Nat.not_lt.mpr hBounded)]
    dsimp only [recordedGeometry]
    rw [if_pos hSmall]
    rfl
  | semaphore role => cases role <;> exact absurd hFront (by decide)
  | _ => exact absurd hFront (by decide)

/-- A segment that can hold a header is refused by what its header says, or for want of a
semaphore. -/
theorem openNamed_of_misdescribed (hHeaded : Requirement.all.idxOf .magic ≤ Requirement.all.idxOf q)
    (hUnmet : ¬ q.Met name s) (hBefore : q.Reached name s) :
    openNamed name policy s = (s, .failed (q.refusal name policy s)) := by
  obtain ⟨id, hOpen⟩ := openNamed_of_headed policy fun p hp =>
    hBefore p (Nat.lt_of_lt_of_le hp hHeaded)
  -- What the later checks find if the earlier ones have found nothing.
  have hMagic (h : Requirement.all.idxOf .magic < Requirement.all.idxOf q) :
      ¬ (header name s).magic ≠ magic :=
    not_not.mpr (hBefore .magic h)
  have hVersion (h : Requirement.all.idxOf .version < Requirement.all.idxOf q) :
      ¬ (header name s).version ≠ version :=
    not_not.mpr (hBefore .version h)
  rw [hOpen]
  cases q with
  | magic =>
    have hWrong : (header name s).magic ≠ magic := hUnmet
    rw [if_pos hWrong]
    rfl
  | version =>
    have hWrong : (header name s).version ≠ version := hUnmet
    rw [if_neg (hMagic (by decide)), if_pos hWrong]
    rfl
  | slotCount =>
    have hCheck : (header name s).geometry = _ := check_of_slotCount hUnmet
    rw [if_neg (hMagic (by decide)), if_neg (hVersion (by decide)), hCheck]
    rfl
  | slotSize =>
    have hCheck : (header name s).geometry = _ :=
      check_of_slotSize (hBefore .slotCount (by decide)) hUnmet
    rw [if_neg (hMagic (by decide)), if_neg (hVersion (by decide)), hCheck]
    rfl
  | room =>
    rw [if_neg (hMagic (by decide)), if_neg (hVersion (by decide)),
      geometry_recorded (hBefore .slotCount (by decide)) (hBefore .slotSize (by decide))]
    exact congrArg (Prod.mk s) (if_pos (Nat.lt_of_not_le hUnmet))
  | semaphore role =>
    -- All that is said about the header comes before the first of the semaphores.
    have hHeader : ∀ p : Requirement, Requirement.all.idxOf p ≤ Requirement.all.idxOf .room →
        Requirement.all.idxOf p < Requirement.all.idxOf (.semaphore role) := by
      intro p hp
      exact Nat.lt_of_le_of_lt hp (by cases role <;> decide)
    have hCount := hBefore .slotCount (hHeader _ (by decide))
    have hSize := hBefore .slotSize (hHeader _ (by decide))
    have hRoom : (recorded hCount hSize).segmentSize ≤ (bytes name s).size :=
      hBefore .room (hHeader _ (by decide))
    rw [if_neg (hMagic (hHeader _ (by decide))), if_neg (hVersion (hHeader _ (by decide))),
      geometry_recorded hCount hSize]
    dsimp only
    rw [if_neg (Nat.not_lt.mpr hRoom), openTriplet_of_unmet hUnmet hBefore]
    rfl
  | _ => exact absurd hHeaded (by decide)

/-- The first requirement that is not met decides what is reported. -/
theorem openNamed_of_unmet (hUnmet : ¬ q.Met name s) (hBefore : q.Reached name s) :
    openNamed name policy s = (s, .failed (q.refusal name policy s)) := by
  rcases Nat.lt_or_ge (Requirement.all.idxOf q) (Requirement.all.idxOf .magic) with
    hFront | hHeaded
  · exact openNamed_of_unfit hFront hUnmet hBefore
  · exact openNamed_of_misdescribed hHeaded hUnmet hBefore

/-- A ring whose requirements are all met is opened. -/
theorem exists_opened : (∀ q : Requirement, q.Met name s) → ∃ r, Opened name s r := by
  intro hMet
  obtain ⟨id, hId⟩ := Option.isSome_iff_exists.mp (hMet .existing)
  obtain ⟨free, hFree⟩ := Option.isSome_iff_exists.mp (hMet (.semaphore .free))
  obtain ⟨filled, hFilled⟩ := Option.isSome_iff_exists.mp (hMet (.semaphore .filled))
  obtain ⟨mutex, hMutex⟩ := Option.isSome_iff_exists.mp (hMet (.semaphore .mutex))
  have hPlain : Shared.isDirectory (Segment.file name.text) = false := by
    unfold segment? at hId
    split at hId
    next => cases hId
    next hDirectory => simpa using hDirectory
  -- The handle is put together of what the four names lead to.
  let semaphores : Triplet :=
    ⟨⟨SemaphoreName.ofRing name.text .free, free⟩, ⟨SemaphoreName.ofRing name.text .filled, filled⟩,
      ⟨SemaphoreName.ofRing name.text .mutex, mutex⟩⟩
  let r : Ring :=
    ⟨⟨name, id, (bytes name s).size, false, false⟩, semaphores,
      recorded (hMet .slotCount) (hMet .slotSize), false⟩
  have hMemory : r.memory s = bytes name s := (segmentOpen_of_some hId).1
  refine ⟨r, ?_⟩
  constructor
  case plain => exact hPlain
  case named =>
    have hSegment : s.named (Segment.file name.text) = some id := by
      simpa [segment?, hPlain] using hId
    intro p
    cases p with
    | segment => exact hSegment
    | semaphore role =>
      cases role with
      | free => exact hFree
      | filled => exact hFilled
      | mutex => exact hMutex
  case segment => rw [hMemory]
  case headerSize_le =>
    rw [hMemory]
    exact hMet .headed
  case size_le =>
    rw [hMemory]
    exact hMet .bounded
  case described =>
    rw [hMemory]
    exact ⟨hMet .magic, hMet .version, rfl, rfl⟩
  case fits =>
    rw [hMemory]
    exact hMet .room
  case names =>
    intro role
    cases role <;> rfl
  case unlinked => rfl

end

/-- A ring is opened exactly when all requirements are met. -/
theorem openNamed_eq_value_iff_met :
    (∃ r, (openNamed name policy s).2 = .value r) ↔ ∀ q : Requirement, q.Met name s := by
  constructor
  · rintro ⟨r, hOpen⟩
    by_contra hSome
    -- The first that is not met would have been told instead.
    obtain ⟨q, hFirst⟩ := Requirement.exists_firstUnmet hSome
    obtain ⟨hUnmet, hBefore⟩ := Requirement.of_firstUnmet? hFirst
    rw [openNamed_of_unmet hUnmet hBefore] at hOpen
    cases hOpen
  · intro hMet
    obtain ⟨r, hOpened⟩ := exists_opened hMet
    exact ⟨r, openNamed_eq_value_iff.mpr hOpened⟩

/-! ## The handle -/

/-- What is known of a handle that opening returns. -/
structure Handed (name : RingName) (s : Shared) (r : Ring) : Prop where
  called : r.name = name
  owner : r.owner = false
  segment : segment? name s = some r.segment.id
  slotCount : r.geometry.slotCount = (header name s).slotCount
  slotSize : r.geometry.slotSize = (header name s).slotSize
  semaphores : ∀ role,
    s.named (Semaphore.file (SemaphoreName.ofRing name.text role)) =
      some (r.semaphores.playing role).id

theorem Opened.segment? (h : Opened name s r) : segment? name s = some r.segment.id := by
  rw [Ring.segment?, h.plain]
  exact h.named .segment

theorem Opened.bytes (h : Opened name s r) : bytes name s = r.memory s :=
  (segmentOpen_of_some h.segment?).1.symm

theorem Opened.handed (h : Opened name s r) : Handed name s r where
  called := congrArg Segment.name h.segment
  owner := congrArg Segment.owner h.segment
  segment := h.segment?
  slotCount := by
    rw [header, h.bytes]
    exact h.described.slotCount.symm
  slotSize := by
    rw [header, h.bytes]
    exact h.described.slotSize.symm
  semaphores role := h.named (.semaphore role)

/-! ## What opening looks at -/

/-- Two worlds in which opening finds the same: where the four names lead, how large the segment
is, and its first sixteen bytes. Everything else may differ. -/
structure SameFront (name : RingName) (s s' : Shared) : Prop where
  segment : segment? name s' = segment? name s
  size : (bytes name s').size = (bytes name s).size
  front : ∀ i < 16, (bytes name s').byte i = (bytes name s).byte i
  semaphores : ∀ role,
    s'.named (Semaphore.file (SemaphoreName.ofRing name.text role)) =
      s.named (Semaphore.file (SemaphoreName.ofRing name.text role))

namespace SameFront

variable (same : SameFront name s s')
include same

theorem wordAt {offset : Nat} (h : offset + 4 ≤ 16) :
    (bytes name s').wordAt offset = (bytes name s).wordAt offset :=
  Memory.wordAt_congr fun i _ hi => same.front i (Nat.lt_of_lt_of_le hi h)

theorem magic : (header name s').magic = (header name s).magic :=
  same.wordAt (by decide)

theorem version : (header name s').version = (header name s).version :=
  same.wordAt (by decide)

theorem slotCount : (header name s').slotCount = (header name s).slotCount :=
  same.wordAt (by decide)

theorem slotSize : (header name s').slotSize = (header name s).slotSize :=
  same.wordAt (by decide)

/-- A requirement is met in both worlds or in neither. -/
theorem met_iff (q : Requirement) : q.Met name s' ↔ q.Met name s := by
  cases q <;>
    simp only [Requirement.Met, same.segment, same.size, same.semaphores,
      same.magic, same.version, same.slotCount, same.slotSize]

/-- A requirement is refused in the same words in both worlds. -/
theorem refusal_eq (q : Requirement) : q.refusal name policy s' = q.refusal name policy s := by
  cases q <;>
    simp only [Requirement.refusal, same.size,
      same.magic, same.version, same.slotCount, same.slotSize]

/-- A ring that is there in one world is there in the other. -/
theorem opened (h : Opened name s r) : Opened name s' r := by
  have hId : segment? name s' = some r.segment.id := same.segment.trans h.segment?
  have hMemory' : bytes name s' = r.memory s' := (segmentOpen_of_some hId).1.symm
  have hNamed : s'.named (Segment.file name.text) = some r.segment.id := by
    simpa [Ring.segment?, h.plain] using hId
  have hParts : ∀ p : Part, s'.named (p.file name) = s.named (p.file name) := by
    intro p
    cases p with
    | segment => exact hNamed.trans (h.named .segment).symm
    | semaphore role => exact same.semaphores role
  have hDescribed := h.described
  have hSize := same.size
  rw [hMemory', h.bytes] at hSize
  rw [← h.bytes] at hDescribed
  -- The words that describe the ring all lie in its first sixteen bytes.
  refine h.transfer hParts hSize ?_
  rw [← hMemory']
  exact
    { magic := same.magic.trans hDescribed.magic
      version := same.version.trans hDescribed.version
      slotCount := same.slotCount.trans hDescribed.slotCount
      slotSize := same.slotSize.trans hDescribed.slotSize }

/-- The answer is the same in both worlds. -/
theorem snd_openNamed : (openNamed name policy s').2 = (openNamed name policy s).2 := by
  by_cases hMet : ∀ q : Requirement, q.Met name s
  · obtain ⟨r, hOpened⟩ := exists_opened hMet
    rw [openNamed_of_opened hOpened, openNamed_of_opened (same.opened hOpened)]
  · -- In both worlds it is the same requirement that comes first, and it is told in the same words.
    obtain ⟨q, hFirst⟩ := Requirement.exists_firstUnmet hMet
    obtain ⟨hUnmet, hBefore⟩ := Requirement.of_firstUnmet? hFirst
    have hUnmet' : ¬ q.Met name s' := mt (same.met_iff q).mp hUnmet
    rw [openNamed_of_unmet hUnmet hBefore,
      openNamed_of_unmet hUnmet' fun p hp => (same.met_iff p).mpr (hBefore p hp),
      same.refusal_eq]

end SameFront

/-! ## Looking -/

/-- Looking at a ring is answered and leaves everything as it was. The indices are read while the
mutex is held; the counts are looked up without taking anything, and they do not depend on the bytes
of the segment. -/
structure LooksOnly (r : Ring) (s : Shared) : Prop where
  indices : r.indices s = (s, .value (r.headIndex s, r.tailIndex s))
  freeSlots : ∀ m, r.freeSlots (r.withMemory s m) = r.freeSlots s
  filledSlots : ∀ m, r.filledSlots (r.withMemory s m) = r.filledSlots s

/-- The segment of a ring is none of its semaphores, so its bytes do not tell in the counts. -/
theorem Mounted.value_withMemory (mounted : r.Mounted s) (role : SemaphoreRole) (m : Memory) :
    (r.semaphores.playing role).value (r.withMemory s m) = (r.semaphores.playing role).value s := by
  have hUnits : (r.semaphores.playing role).units (r.withMemory s m) =
      (r.semaphores.playing role).units s := mounted.units_withMemory role s m
  simp only [Semaphore.value, hUnits]

/-- A mounted ring whose mutex is free can be looked at without leaving a trace. -/
theorem Mounted.looksOnly (mounted : r.Mounted s) (hMutex : 0 < r.mutexUnits s) :
    r.LooksOnly s where
  indices := by
    obtain ⟨hUnits, hMost⟩ := Semaphore.units_of_value_pos hMutex
    have hPos : 0 < r.units .mutex s := Nat.lt_of_lt_of_eq hMutex hUnits.symm
    rw [indices_eq mounted, if_neg (Nat.ne_of_gt hPos), released_eq hPos hMost]
  freeSlots := mounted.value_withMemory .free
  filledSlots := mounted.value_withMemory .filled

/-! ## The result -/

/-- What opening comes to in a world. -/
structure OpensExactly (name : RingName) (policy : RetryPolicy) (s : Shared) : Prop where
  opens : (∃ r, (openNamed name policy s).2 = .value r) ↔ ∀ q : Requirement, q.Met name s
  /-- The first requirement that is not met is told. -/
  refuses : ∀ q : Requirement, ¬ q.Met name s → q.Reached name s →
    (openNamed name policy s).2 = .failed (q.refusal name policy s)
  hands : ∀ r, (openNamed name policy s).2 = .value r → Handed name s r
  /-- Indices, reserved bytes, slots and counts do not matter. -/
  front : ∀ s', SameFront name s s' → (openNamed name policy s').2 = (openNamed name policy s).2
  /-- Nothing is left behind, wherever opening came to an end. -/
  keeps : (openNamed name policy s).1 = s

/-- Opening fails by the first of its requirements that is not met and by nothing else, and it
changes nothing anywhere on the host, whatever comes out. Neither does looking, through a handle
that was obtained at any time before. -/
theorem opening_exact :
    (∀ name policy s, OpensExactly name policy s) ∧
      (∀ (w : World) id text attempts, w.object? id = none →
        (w.ringStep (.openNamed id text attempts)).1.host = w.host) ∧
      ∀ {r s₀ s}, Obtained r s₀ → s₀.Evolves s → 0 < r.mutexUnits s → r.LooksOnly s := by
  refine ⟨?_, ?_, ?_⟩
  · intro name policy s
    exact
      { opens := openNamed_eq_value_iff_met
        refuses := fun q hUnmet hBefore => congrArg Prod.snd (openNamed_of_unmet hUnmet hBefore)
        hands := fun r hOpen => (openNamed_eq_value_iff.mp hOpen).handed
        front := fun s' same => same.snd_openNamed
        keeps := fst_openNamed name policy s }
  · intro w id text attempts hFree
    exact w.host_ringStep_openNamed text attempts hFree
  · intro r s₀ s obtained later hMutex
    exact (obtained.mounted.evolves later).looksOnly hMutex

/-- The small ring is opened as it was created. Filled with ones it is refused for its magic, and
its indices can still be looked at. -/
theorem opening_exact_scribbled :
    (∃ r, openNamed Sample.name .once Sample.world = (Sample.world, .value r) ∧
        Handed Sample.name Sample.world r) ∧
      openNamed Sample.name .once Sample.scribbled =
        (Sample.scribbled, .failed (.badMagic Sample.name 0xFFFFFFFF)) ∧
      ((World.fresh []).ringStep (.openNamed "a" "/r" none)).1.host = (World.fresh []).host ∧
      Sample.ring.indices Sample.scribbled =
        (Sample.scribbled, .value (0xFFFFFFFF, 0xFFFFFFFF)) := by
  -- Which requirement fails first can be looked up in these two worlds.
  have hWorld : Requirement.firstUnmet? Sample.name Sample.world = none := by decide
  have hScribbled : Requirement.firstUnmet? Sample.name Sample.scribbled = some .magic := by decide
  obtain ⟨hOpening, hHost, hLooking⟩ := opening_exact
  have hOpens := hOpening Sample.name .once Sample.world
  have hRefuses := hOpening Sample.name .once Sample.scribbled
  obtain ⟨hUnmet, hBefore⟩ := Requirement.of_firstUnmet? hScribbled
  obtain ⟨r, hOpen⟩ := hOpens.opens.mpr (Requirement.firstUnmet?_eq_none_iff.mp hWorld)
  refine ⟨⟨r, Prod.ext hOpens.keeps hOpen, hOpens.hands r hOpen⟩, ?_, hHost _ _ _ _ rfl, ?_⟩
  · exact Prod.ext hRefuses.keeps (hRefuses.refuses .magic hUnmet hBefore)
  · exact (hLooking Sample.obtained Sample.scribbled_later (by decide)).indices

end Ring
end RingBus
