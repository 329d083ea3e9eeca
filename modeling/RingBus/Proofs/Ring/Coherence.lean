import RingBus.Proofs.Ring.Footprint

/-!
# Coherent names

Removal goes by name and not by file. It still hits the right files, because the names of a ring
that stands lead to what its creation made. This module states that as an invariant of the shared
files and shows that it survives creations, removals by owners and transfers. Which creations there
were and which owners resigned is given as two predicates on the numbers of handles.

The files of two rings may have to do with the same name, if one has a semaphore where the segment
of the other would be. Then only one of the two rings can be created, and nobody can open the other,
because the file of a semaphore is too short for a header.
-/

namespace RingBus
namespace Ring

/-- The shared files fit the creations that were made and the owners that have resigned. -/
structure Coherent (made : Nat → Ring → Prop) (resigned : Nat → Prop) (s : Shared) : Prop where
  mounted : ∀ {i c}, made i c → c.Mounted s
  unique : ∀ {i c d}, made i c → made i d → c = d
  apart : ∀ {i j c d p q}, made i c → made j d → c.part p = d.part q → i = j
  /-- The files of semaphores have kept their size. -/
  short : ∀ {i c role}, made i c →
    (s.object (c.part (.semaphore role))).size = Semaphore.fileSize
  /-- A ring can be opened until its owner resigns. -/
  standing : ∀ {i c}, made i c → ¬ resigned i → Opened c.name s c.visitor
  /-- Every name is that of a part of a ring that stands. -/
  named : ∀ {file id}, s.named file = some id →
    ∃ i c p, made i c ∧ ¬ resigned i ∧ file = p.file c.name ∧ id = c.part p

namespace Coherent

variable {made : Nat → Ring → Prop} {resigned : Nat → Prop} {s s' : Shared} {i j : Nat}
  {c d r : Ring} {name : RingName} {g : Geometry} {p q : Part}

variable (coherent : Coherent made resigned s)
include coherent

/-! ## Names -/

/-- The four names of a ring that stands lead to its own files. -/
theorem named_part (hMade : made i c) (hStands : ¬ resigned i) (p : Part) :
    s.named (p.file c.name) = some (c.part p) := by
  rw [← part_visitor]
  exact (coherent.standing hMade hStands).named p

/-- A file that two creations have to do with is one file of one of them. -/
theorem part_inj (hMade : made i c) (hMade' : made j d) (h : c.part p = d.part q) :
    i = j ∧ c = d ∧ p = q := by
  obtain rfl := coherent.apart hMade hMade' h
  obtain rfl := coherent.unique hMade hMade'
  exact ⟨rfl, rfl, (coherent.mounted hMade).distinct h⟩

/-- Where a file leads to a part of a creation, it is that part's own file, and the creation
stands. -/
theorem standing_of_named {file : String} (hMade : made i c)
    (hNamed : s.named file = some (c.part p)) : ¬ resigned i ∧ file = p.file c.name := by
  obtain ⟨j, d, q, hMade', hStands, hFile, hId⟩ := coherent.named hNamed
  obtain ⟨rfl, rfl, rfl⟩ := coherent.part_inj hMade hMade' hId
  exact ⟨hStands, hFile⟩

/-- No two rings that stand have a file in common. -/
theorem file_inj (hMade : made i c) (hStands : ¬ resigned i) (hMade' : made j d)
    (hStands' : ¬ resigned j) (hFile : p.file c.name = q.file d.name) : i = j := by
  have hNamed := coherent.named_part hMade hStands p
  rw [hFile, coherent.named_part hMade' hStands' q] at hNamed
  exact coherent.apart hMade hMade' (Option.some.inj hNamed).symm

/-- A ring is opened exactly when it was created and its owner has not resigned. -/
theorem openNamed_eq_value_iff_standing {policy : RetryPolicy} :
    openNamed name policy s = (s', .value r) ↔
      s' = s ∧ ∃ i c, (made i c ∧ ¬ resigned i) ∧ c.name = name ∧ r = c.visitor := by
  constructor
  · intro hOpen
    obtain ⟨rfl, hOpened⟩ := opened_of_openNamed hOpen
    obtain ⟨i, c, p, hMade, hStands, hFile, hId⟩ := coherent.named (hOpened.named .segment)
    cases p with
    | segment =>
      have hName := Part.file_segment_inj.mp hFile
      subst hName
      exact ⟨rfl, i, c, ⟨hMade, hStands⟩, rfl,
        ((coherent.standing hMade hStands).eq_of_openNamed hOpen).2⟩
    | semaphore role =>
      -- What is mapped would be a semaphore, which has no room for a header.
      have hSize : (r.memory s').size = Semaphore.fileSize :=
        (congrArg (fun id => (s'.object id).size) hId).trans (coherent.short hMade)
      exact absurd (hSize ▸ hOpened.headerSize_le) (by decide)
  · rintro ⟨rfl, i, c, ⟨hMade, hStands⟩, rfl, rfl⟩
    exact openNamed_of_opened (coherent.standing hMade hStands)

/-! ## Changes that keep all names -/

/-- A change that is neither a creation nor a removal keeps the files in order, if it keeps the front
of every header. -/
theorem kept (named : s'.named = s.named) (count : s.count ≤ s'.count)
    (size : ∀ {i c}, made i c → ∀ p, (s'.object (c.part p)).size = (s.object (c.part p)).size)
    (described : ∀ {i c}, made i c → ∀ {g}, Described g (c.memory s) → Described g (c.memory s')) :
    Coherent made resigned s' where
  mounted hMade := (coherent.mounted hMade).later count (size hMade .segment)
  unique := coherent.unique
  apart := coherent.apart
  short hMade := (size hMade _).trans (coherent.short hMade)
  standing hMade hStands :=
    have opened := coherent.standing hMade hStands
    opened.transfer (fun _ => by rw [named]) (size hMade .segment)
      (described hMade opened.described)
  named h := coherent.named (by rwa [named] at h)

/-- What goes on inside a ring keeps the files coherent. -/
theorem touched (touches : r.Touches s s') (hStems : ∃ i c, made i c ∧ r.visitor = c.visitor) :
    Coherent made resigned s' := by
  obtain ⟨i, c, hMade, hVisitor⟩ := hStems
  have hPart : ∀ p, r.part p = c.part p :=
    fun p => eq_of_visitor (fun r => r.part p) (fun r => part_visitor r p) hVisitor
  refine coherent.kept touches.named (Nat.le_of_eq touches.count.symm)
    (fun _ _ => touches.size _) fun {j d} hMade' g hDescribed => ?_
  -- Either this is the ring that is touched, or its segment is none of the files of that one.
  by_cases hSame : i = j
  · subst hSame
    obtain rfl := coherent.unique hMade hMade'
    have hMemory : ∀ s, c.memory s = r.memory s := fun s =>
      congrArg s.object (hPart .segment).symm
    rw [hMemory] at hDescribed ⊢
    exact touches.described hDescribed
  · have hOther : d.memory s' = d.memory s := touches.others _ fun p hId =>
      hSame (coherent.apart hMade hMade' ((hPart p).symm.trans hId.symm : _ = d.part .segment))
    rwa [hOther]

/-- A creation in vain leaves nothing behind that anybody could find. -/
theorem intact (h : s.Intact s') : Coherent made resigned s' := by
  have hObject : ∀ {i c}, made i c → ∀ p, s'.object (c.part p) = s.object (c.part p) :=
    fun hMade p => h.object _ ((coherent.mounted hMade).existing p)
  refine coherent.kept h.named h.count (fun hMade p => by rw [hObject hMade p]) ?_
  intro i c hMade g hDescribed
  have hMemory : c.memory s' = c.memory s := hObject hMade .segment
  rwa [hMemory]

/-! ## Creations -/

/-- A ring that stands has none of the files of a ring that can be created. -/
theorem file_ne_of_vacant (vacant : Vacant name s) (hMade : made i c) (hStands : ¬ resigned i)
    (p q : Part) : p.file c.name ≠ q.file name := by
  intro hFile
  have hNamed := coherent.named_part hMade hStands p
  rw [hFile, vacant.unused] at hNamed
  cases hNamed

/-- A new ring keeps the files coherent: its names were free, and its files are new. -/
theorem founded (hNew : ∀ c, ¬ made i c) (hLarge : g.segmentSize ≤ Segment.maxSize)
    (vacant : Vacant name s) (hStays : ¬ resigned i) :
    Coherent (fun j c => made j c ∨ (j = i ∧ c = founder name g s)) resigned
      (Ring.founded name g s) where
  mounted {j c} hMade := by
    rcases hMade with hOld | ⟨_, rfl⟩
    · exact (coherent.mounted hOld).evolves (founded_evolves vacant)
    · exact mounted_founder name g s
  unique {j c d} hMade hMade' := by
    rcases hMade with hOld | ⟨rfl, rfl⟩ <;> rcases hMade' with hOld' | ⟨hj, rfl⟩
    · exact coherent.unique hOld hOld'
    · exact absurd (hj ▸ hOld) (hNew c)
    · exact absurd hOld' (hNew d)
    · rfl
  apart {j k c d p q} hMade hMade' hId := by
    -- New files have numbers that were not in use before.
    rcases hMade with hOld | ⟨rfl, rfl⟩ <;> rcases hMade' with hOld' | ⟨rfl, rfl⟩
    · exact coherent.apart hOld hOld' hId
    · exact absurd (hId ▸ (coherent.mounted hOld).existing p) (Nat.not_lt.mpr (part_founder q).1)
    · exact absurd (hId ▸ (coherent.mounted hOld').existing q) (Nat.not_lt.mpr (part_founder p).1)
    · rfl
  short {j c role} hMade := by
    rcases hMade with hOld | ⟨_, rfl⟩
    · rw [object_founded ((coherent.mounted hOld).existing _)]
      exact coherent.short hOld
    · exact congrArg Memory.size (Triplet.object_minted role g.slotCount.toNat)
  standing {j c} hMade hStands := by
    rcases hMade with hOld | ⟨_, rfl⟩
    · have hMemory : c.visitor.memory (Ring.founded name g s) = c.visitor.memory s :=
        object_founded ((coherent.mounted hOld).existing .segment)
      have opened := coherent.standing hOld hStands
      refine opened.transfer (fun p => ?_) (by rw [hMemory]) (hMemory ▸ opened.described)
      exact named_founded_other (coherent.file_ne_of_vacant vacant hOld hStands p)
    · exact opened_founder hLarge vacant
  named {file id} h := by
    by_cases hOwn : ∃ p : Part, file = p.file name
    · obtain ⟨p, rfl⟩ := hOwn
      rw [named_founded] at h
      exact ⟨i, _, p, .inr ⟨rfl, rfl⟩, hStays, rfl, (Option.some.inj h).symm⟩
    · rw [named_founded_other (not_exists.mp hOwn)] at h
      obtain ⟨j, c, p, hMade, hRest⟩ := coherent.named h
      exact ⟨j, c, p, .inl hMade, hRest⟩

/-! ## Removals -/

/-- Owners of nothing that stands may resign without further ado. -/
theorem resign (hIdle : ∀ c, made i c → resigned i) :
    Coherent made (fun j => resigned j ∨ j = i) s :=
  { coherent with
    standing := fun hMade hStands => coherent.standing hMade fun h => hStands (.inl h)
    named := fun h => by
      obtain ⟨j, c, p, hMade, hStands, hRest⟩ := coherent.named h
      refine ⟨j, c, p, hMade, ?_, hRest⟩
      rintro (hResigned | rfl)
      · exact hStands hResigned
      · exact hStands (hIdle c hMade) }

/-- Removing the names of a ring that stands keeps the files coherent. -/
theorem withdrawn (hMade : made i c) (hStands : ¬ resigned i) :
    Coherent made (fun j => resigned j ∨ j = i) (Ring.withdrawn c.name s) where
  mounted hMade := (coherent.mounted hMade).evolves withdrawn_evolves
  unique := coherent.unique
  apart := coherent.apart
  short := coherent.short
  standing {j d} hMade' hStands' := by
    rcases not_or.mp hStands' with ⟨hOld, hOther⟩
    -- A ring that stands beside this one has files of its own, so none of them goes.
    have opened := coherent.standing hMade' hOld
    refine opened.transfer (fun p => named_withdrawn_other fun q hFile => ?_) rfl opened.described
    exact hOther (coherent.file_inj hMade' hOld hMade hStands hFile)
  named {file id} h := by
    by_cases hOwn : ∃ p : Part, file = p.file c.name
    · obtain ⟨p, rfl⟩ := hOwn
      rw [named_withdrawn] at h
      cases h
    · rw [named_withdrawn_other (not_exists.mp hOwn)] at h
      obtain ⟨j, d, p, hMade', hStands', hFile, hId⟩ := coherent.named h
      refine ⟨j, d, p, hMade', ?_, hFile, hId⟩
      rintro (hResigned | rfl)
      · exact hStands' hResigned
      · exact hOwn ⟨p, by rw [hFile, coherent.unique hMade' hMade]⟩

end Coherent

/-- Without any ring, the files are coherent. -/
theorem coherent_pristine :
    Coherent (fun _ _ => False) (fun _ => False) Shared.pristine where
  mounted h := h.elim
  unique h := h.elim
  apart h := h.elim
  short h := h.elim
  standing h := h.elim
  named h := by cases h

end Ring
end RingBus
