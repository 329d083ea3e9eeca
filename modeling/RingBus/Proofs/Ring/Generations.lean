import RingBus.Proofs.Ring.Coherence
import RingBus.Proofs.Ring.Estate

/-!
# Generations of rings

A name can be created again after its owner removed it. The handles on the earlier ring go on
using the earlier files, and an owner who comes late does not remove what is not its own: it can
do so only once, and as long as it has not done so nobody else gets the name.

A segment may be missing where the directory has a file of its name, because the file of a semaphore
of another ring has the same name. Hence what is said of names is said of what they lead to.
-/

namespace RingBus

namespace Ring

/-- The handles fit the creations that were made and the owners that have resigned. -/
structure Held (made : Nat → Ring → Prop) (resigned : Nat → Prop)
    (handles : Numbered (Option Ring)) : Prop where
  handle_lt : ∀ {i r}, handles.object i = some r → i < handles.count
  made_lt : ∀ {i c}, made i c → i < handles.count
  resigned_lt : ∀ {i}, resigned i → i < handles.count
  stems : ∀ {i r}, handles.object i = some r → ∃ j c, made j c ∧ r.visitor = c.visitor
  owner : ∀ {i r}, handles.object i = some r → r.owner = true → ∃ c, made i c
  own : ∀ {i r c}, handles.object i = some r → made i c →
    r.visitor = c.visitor ∧ r.owner = true ∧ r.segment.unlinked = r.unlinked ∧
      (r.unlinked = true ↔ resigned i)

namespace Held

variable {made : Nat → Ring → Prop} {resigned : Nat → Prop} {handles : Numbered (Option Ring)}
  {i j : Nat} {c r : Ring}

variable (held : Held made resigned handles)
include held

theorem not_made_count (c : Ring) : ¬ made handles.count c := fun h =>
  Nat.lt_irrefl _ (held.made_lt h)

theorem not_resigned_count : ¬ resigned handles.count := fun h =>
  Nat.lt_irrefl _ (held.resigned_lt h)

/-- A creation adds the handle of its owner. -/
theorem created (hOwner : r.owner = true) (hMark : r.segment.unlinked = false)
    (hFirst : r.unlinked = false) :
    Held (fun i c => made i c ∨ (i = handles.count ∧ c = r)) resigned
      (handles.add (some r)) where
  handle_lt {i r'} h := by
    rcases Numbered.of_object_add h with ⟨rfl, _⟩ | ⟨_, hOld⟩
    · exact Nat.lt_succ_self _
    · exact Nat.lt_succ_of_lt (held.handle_lt hOld)
  made_lt {i c} h := by
    rcases h with hOld | ⟨rfl, _⟩
    · exact Nat.lt_succ_of_lt (held.made_lt hOld)
    · exact Nat.lt_succ_self _
  resigned_lt h := Nat.lt_succ_of_lt (held.resigned_lt h)
  stems {i r'} h := by
    rcases Numbered.of_object_add h with ⟨_, hNew⟩ | ⟨_, hOld⟩
    · cases hNew
      exact ⟨_, r, .inr ⟨rfl, rfl⟩, rfl⟩
    · rcases held.stems hOld with ⟨j, c, hMade, hVisitor⟩
      exact ⟨j, c, .inl hMade, hVisitor⟩
  owner {i r'} h hOwner' := by
    rcases Numbered.of_object_add h with ⟨hNew, _⟩ | ⟨_, hOld⟩
    · exact ⟨r, .inr ⟨hNew, rfl⟩⟩
    · rcases held.owner hOld hOwner' with ⟨c, hMade⟩
      exact ⟨c, .inl hMade⟩
  -- The new number was never used, so nothing was made or resigned under it.
  own {i r' c} h hMade := by
    rcases Numbered.of_object_add h with ⟨rfl, hNew⟩ | ⟨hOther, hOld⟩
    · cases hNew
      rcases hMade with hMade | ⟨_, rfl⟩
      · exact absurd hMade (held.not_made_count c)
      · refine ⟨rfl, hOwner, hMark.trans hFirst.symm, ?_⟩
        rw [hFirst]
        exact iff_of_false Bool.false_ne_true held.not_resigned_count
    · rcases hMade with hMade | ⟨hSame, _⟩
      · exact held.own hOld hMade
      · exact absurd hSame hOther

/-- Opening adds a handle that owns nothing. -/
theorem opened (hMade : made j c) : Held made resigned (handles.add (some c.visitor)) where
  handle_lt {i r'} h := by
    rcases Numbered.of_object_add h with ⟨rfl, _⟩ | ⟨_, hOld⟩
    · exact Nat.lt_succ_self _
    · exact Nat.lt_succ_of_lt (held.handle_lt hOld)
  made_lt h := Nat.lt_succ_of_lt (held.made_lt h)
  resigned_lt h := Nat.lt_succ_of_lt (held.resigned_lt h)
  stems {i r'} h := by
    rcases Numbered.of_object_add h with ⟨_, hNew⟩ | ⟨_, hOld⟩
    · cases hNew
      exact ⟨j, c, hMade, rfl⟩
    · exact held.stems hOld
  owner {i r'} h hOwner := by
    rcases Numbered.of_object_add h with ⟨_, hNew⟩ | ⟨_, hOld⟩
    · cases hNew
      cases hOwner
    · exact held.owner hOld hOwner
  own {i r' c'} h hMade' := by
    rcases Numbered.of_object_add h with ⟨rfl, _⟩ | ⟨_, hOld⟩
    · exact absurd hMade' (held.not_made_count c')
    · exact held.own hOld hMade'

/-- Dropping a handle keeps what the others hold. -/
theorem dropped : Held made resigned (handles.set j none) where
  handle_lt {i r} h := by
    rcases Numbered.of_object_set h with ⟨_, hNone⟩ | ⟨_, hOld⟩
    · cases hNone
    · exact held.handle_lt hOld
  made_lt := held.made_lt
  resigned_lt := held.resigned_lt
  stems {i r} h := by
    rcases Numbered.of_object_set h with ⟨_, hNone⟩ | ⟨_, hOld⟩
    · cases hNone
    · exact held.stems hOld
  owner {i r} h := by
    rcases Numbered.of_object_set h with ⟨_, hNone⟩ | ⟨_, hOld⟩
    · cases hNone
    · exact held.owner hOld
  own {i r c} h := by
    rcases Numbered.of_object_set h with ⟨_, hNone⟩ | ⟨_, hOld⟩
    · cases hNone
    · exact held.own hOld

/-- Through handle number `j` the names were asked to be removed, and `r'` is left of it. -/
theorem unlinked {r' : Ring} (hHandle : handles.object j = some r)
    (hVisitor : r'.visitor = r.visitor) (hOwner : r'.owner = r.owner)
    (hMark : (∃ c, made j c) → r'.segment.unlinked = true ∧ r'.unlinked = true) :
    Held made (fun i => resigned i ∨ i = j) (handles.set j (some r')) where
  handle_lt {i r} h := by
    rcases Numbered.of_object_set h with ⟨rfl, _⟩ | ⟨_, hOld⟩
    · exact held.handle_lt hHandle
    · exact held.handle_lt hOld
  made_lt := held.made_lt
  resigned_lt {i} h := by
    rcases h with hOld | rfl
    · exact held.resigned_lt hOld
    · exact held.handle_lt hHandle
  stems {i r} h := by
    rcases Numbered.of_object_set h with ⟨_, hNew⟩ | ⟨_, hOld⟩
    · cases hNew
      rw [hVisitor]
      exact held.stems hHandle
    · exact held.stems hOld
  owner {i r} h hOwner' := by
    rcases Numbered.of_object_set h with ⟨rfl, hNew⟩ | ⟨_, hOld⟩
    · cases hNew
      exact held.owner hHandle (hOwner ▸ hOwner')
    · exact held.owner hOld hOwner'
  -- The handle asked now has both marks; the others are as they were.
  own {i r c} h hMade := by
    rcases Numbered.of_object_set h with ⟨rfl, hNew⟩ | ⟨hOther, hOld⟩
    · cases hNew
      rcases held.own hHandle hMade with ⟨hVisitor', hOwner', _, _⟩
      rcases hMark ⟨c, hMade⟩ with ⟨hSegment, hRing⟩
      exact ⟨hVisitor.trans hVisitor', hOwner.trans hOwner', hSegment.trans hRing.symm,
        iff_of_true hRing (.inr rfl)⟩
    · rcases held.own hOld hMade with ⟨hVisitor', hOwner', hMark', hResigned⟩
      exact ⟨hVisitor', hOwner', hMark', hResigned.trans (or_iff_left hOther).symm⟩

end Held

namespace Estate

variable {trace : List Event} {event : Event} {E E' : Estate} {i j : Nat} {c d r : Ring}

/-- Objects, names and handles fit the course of events. -/
structure Consistent (trace : List Event) (E : Estate) : Prop where
  coherent : Coherent (Made trace) (Resigned trace) E.shared
  held : Held (Made trace) (Resigned trace) E.handles

/-- Without handles and names, all is consistent. -/
theorem consistent_start : Consistent [] start where
  coherent := by
    have hMade : Made [] = fun _ _ => False := by
      funext i c
      exact propext (iff_false_intro List.not_mem_nil)
    have hResigned : Resigned [] = fun _ => False := by
      funext i
      exact propext (iff_false_intro fun ⟨_, h⟩ => List.not_mem_nil h)
    rw [hMade, hResigned]
    exact coherent_pristine
  held :=
    { handle_lt := fun h => by cases h
      made_lt := fun h => absurd h List.not_mem_nil
      resigned_lt := fun ⟨_, h⟩ => absurd h List.not_mem_nil
      stems := fun h => by cases h
      owner := fun h => by cases h
      own := fun h => by cases h }

namespace Consistent

variable (consistent : Consistent trace E)
include consistent

/-- The owner's first call removes the four names of its own ring. -/
theorem unlink_first (hHandle : E.handles.object i = some r) (hMade : Made trace i c)
    (hStands : ¬ Resigned trace i) :
    r.unlink E.shared = (withdrawn c.name E.shared, r.retired, .value true) := by
  rcases consistent.held.own hHandle hMade with ⟨hVisitor, hOwner, hMark, hResigned⟩
  have hName : r.name = c.name := eq_of_visitor Ring.name (fun _ => rfl) hVisitor
  have hSemaphores : r.semaphores = c.semaphores :=
    eq_of_visitor Ring.semaphores (fun _ => rfl) hVisitor
  have hFirst : r.unlinked = false :=
    Bool.eq_false_iff.mpr fun h => hStands (hResigned.mp h)
  rw [← hName]
  refine unlink_of_owner (fun role => ?_) hOwner hMark hFirst
  rw [hName, hSemaphores]
  exact (consistent.coherent.standing hMade hStands).names role

/-- Every other call removes nothing. -/
theorem unlink_again (hHandle : E.handles.object i = some r)
    (hNot : ∀ c, Made trace i c → Resigned trace i) :
    r.unlink E.shared = (E.shared, r, .value false) := by
  apply unlink_of_other
  -- An owner owns what was made under its number, and that was resigned.
  cases hOwner : r.owner with
  | false => exact .inl rfl
  | true =>
    rcases consistent.held.owner hHandle hOwner with ⟨c, hMade⟩
    rcases consistent.held.own hHandle hMade with ⟨_, _, _, hResigned⟩
    exact .inr (hResigned.mpr (hNot c hMade))

/-- The creator's handle removes the names of its ring once, and no other handle removes anything.
-/
theorem unlink_cases (hHandle : E.handles.object i = some r) :
    (∃ c, Made trace i c ∧ ¬ Resigned trace i ∧
      r.unlink E.shared = (withdrawn c.name E.shared, r.retired, .value true)) ∨
    ((∀ c, Made trace i c → Resigned trace i) ∧
      r.unlink E.shared = (E.shared, r, .value false)) := by
  by_cases hFirst : ∃ c, Made trace i c ∧ ¬ Resigned trace i
  · obtain ⟨c, hMade, hStands⟩ := hFirst
    exact .inl ⟨c, hMade, hStands, consistent.unlink_first hHandle hMade hStands⟩
  · have hAgain : ∀ c, Made trace i c → Resigned trace i := fun c hMade => by
      by_contra hStands
      exact hFirst ⟨c, hMade, hStands⟩
    exact .inr ⟨hAgain, consistent.unlink_again hHandle hAgain⟩

/-- Every handle is mounted, because the creation is that it stems from. -/
theorem mounted (hHandle : E.handles.object i = some r) : r.Mounted E.shared := by
  rcases consistent.held.stems hHandle with ⟨j, c, hMade, hVisitor⟩
  have hSame := eq_of_visitor (fun r => r.Mounted E.shared)
    (fun _ => propext ⟨fun h => ⟨h.existing, h.size, h.fits, h.distinct⟩,
      fun h => ⟨h.existing, h.size, h.fits, h.distinct⟩⟩) hVisitor
  exact hSame ▸ consistent.coherent.mounted hMade

/-! ## One step -/

/-- Unlinking keeps the estate consistent. -/
theorem unlinked {reply : Reply Bool} (hHandle : E.handles.object i = some r) :
    Consistent (trace ++ [.unlinked i reply])
      ⟨(r.unlink E.shared).1, E.handles.set i (some (r.unlink E.shared).2.1)⟩ := by
  -- Either the names go now, or they are gone since the first time.
  rcases consistent.unlink_cases hHandle with ⟨c, hMade, hStands, hUnlink⟩ | ⟨hAgain, hUnlink⟩
  · rw [hUnlink]
    refine ⟨?_, ?_⟩
    · rw [made_unlinked, resigned_unlinked]
      exact consistent.coherent.withdrawn hMade hStands
    · rw [made_unlinked, resigned_unlinked]
      exact consistent.held.unlinked hHandle rfl rfl fun _ => ⟨rfl, rfl⟩
  · rw [hUnlink]
    refine ⟨?_, ?_⟩
    · rw [made_unlinked, resigned_unlinked]
      exact consistent.coherent.resign hAgain
    · rw [made_unlinked, resigned_unlinked]
      refine consistent.held.unlinked hHandle rfl rfl ?_
      rintro ⟨c, hMade⟩
      rcases consistent.held.own hHandle hMade with ⟨_, _, hMark, hResigned⟩
      have hDone := hResigned.mpr (hAgain c hMade)
      exact ⟨hMark.trans hDone, hDone⟩

/-- What makes no history changes nothing in what has to hold. -/
theorem snoc (hCreated : ∀ i c, event ≠ .created i c)
    (hUnlinked : ∀ i reply, event ≠ .unlinked i reply) : Consistent (trace ++ [event]) E := by
  rcases history_snoc trace hCreated hUnlinked with ⟨hMade, hResigned⟩
  refine ⟨?_, ?_⟩
  · rw [hMade, hResigned]
    exact consistent.coherent
  · rw [hMade, hResigned]
    exact consistent.held

/-- What is done inside a ring keeps the estate consistent. -/
theorem transferred {s : Shared} (hHandle : E.handles.object i = some r)
    (touches : r.Touches E.shared s) : Consistent trace ⟨s, E.handles⟩ :=
  ⟨consistent.coherent.touched touches (consistent.held.stems hHandle), consistent.held⟩

/-- Looking at the indices counts the mutex at most. -/
theorem look_touches (hHandle : E.handles.object i = some r) :
    r.Touches E.shared (r.indices E.shared).1 :=
  touches_recounted (consistent.mounted hHandle) (recounted_indices (consistent.mounted hHandle))

/-- Every step keeps the estate consistent. -/
theorem step (step : Step E event E') : Consistent (trace ++ [event]) E' := by
  -- On the step; the names change only when a ring is created or unlinked.
  cases step with
  | create name g hCreate =>
    obtain ⟨hLarge, hVacant, rfl, rfl⟩ := create_eq_value_iff.mp hCreate
    refine ⟨?_, ?_⟩
    · rw [made_created, resigned_created]
      exact consistent.coherent.founded consistent.held.not_made_count hLarge hVacant
        consistent.held.not_resigned_count
    · rw [made_created, resigned_created]
      exact consistent.held.created rfl rfl rfl
  | createInVain name g hCreate hVain =>
    obtain ⟨_, _, hIntact⟩ := intact_of_vain hCreate hVain
    have hKept : Consistent trace ⟨_, E.handles⟩ :=
      ⟨consistent.coherent.intact hIntact, consistent.held⟩
    exact hKept.snoc (fun _ _ => nofun) fun _ _ => nofun
  | openNamed name policy hOpen =>
    obtain ⟨rfl, i, c, ⟨hMade, _⟩, _, rfl⟩ :=
      consistent.coherent.openNamed_eq_value_iff_standing.mp hOpen
    have hAdded : Consistent trace ⟨E.shared, E.handles.add (some c.visitor)⟩ :=
      ⟨consistent.coherent, consistent.held.opened hMade⟩
    exact hAdded.snoc (fun _ _ => nofun) fun _ _ => nofun
  | openInVain name policy hOpen hVain =>
    obtain rfl := (congrArg Prod.fst hOpen).symm.trans (fst_openNamed name policy E.shared)
    exact consistent.snoc (fun _ _ => nofun) fun _ _ => nofun
  | unlink hHandle => exact consistent.unlinked hHandle
  | @drop i r hHandle =>
    have hDropped : Consistent trace ⟨E.shared, E.handles.set i none⟩ :=
      ⟨consistent.coherent, consistent.held.dropped⟩
    rw [close_eq]
    exact hDropped.snoc (fun _ _ => nofun) fun _ _ => nofun
  | write payload patience hHandle =>
    have hTouches := write_touches (consistent.mounted hHandle) payload patience
    exact (consistent.transferred hHandle hTouches).snoc (fun _ _ => nofun)
      fun _ _ => nofun
  | read patience hHandle =>
    have hTouches := read_touches (consistent.mounted hHandle) patience
    exact (consistent.transferred hHandle hTouches).snoc (fun _ _ => nofun)
      fun _ _ => nofun
  | look hHandle =>
    have hTouches := consistent.look_touches hHandle
    exact (consistent.transferred hHandle hTouches).snoc (fun _ _ => nofun)
      fun _ _ => nofun

end Consistent

/-- Every run keeps the estate consistent. -/
theorem consistent_of_run (run : Run Step start trace E) : Consistent trace E := by
  induction run with
  | nil => exact consistent_start
  | snoc _ step ih => exact ih.step step

/-! ## What stays as it was -/

/-- All files of a ring are the same in two worlds, byte for byte. -/
def Untouched (c : Ring) (s s' : Shared) : Prop :=
  ∀ p, s'.object (c.part p) = s.object (c.part p)

/-- A message is transferred, or the indices are looked at, through a handle on the ring of `c`. -/
def ActsOn (E : Estate) (event : Event) (c : Ring) : Prop :=
  ∃ i r, (event = .transferred i ∨ event = .looked i) ∧ E.handles.object i = some r ∧
    r.visitor = c.visitor

theorem untouched_refl {s : Shared} : Untouched c s s :=
  fun _ => rfl

namespace Consistent

variable (consistent : Consistent trace E)
include consistent

/-- A transfer leaves every ring that its handle does not stem from. -/
theorem untouched_of_touches {s : Shared} (hMade : Made trace i c)
    (hHandle : E.handles.object j = some r) (hOther : r.visitor ≠ c.visitor)
    (touches : r.Touches E.shared s) : Untouched c E.shared s := by
  obtain ⟨k, d, hMade', hVisitor⟩ := consistent.held.stems hHandle
  have hPart : ∀ p, r.part p = d.part p :=
    fun p => eq_of_visitor (fun r => r.part p) (fun r => part_visitor r p) hVisitor
  -- The ring of the handle was made under another number, so it shares no file with this one.
  have hApart : i ≠ k := by
    rintro rfl
    exact hOther (by rw [hVisitor, consistent.coherent.unique hMade hMade'])
  exact fun p => touches.others _ fun q hId =>
    hApart (consistent.coherent.apart hMade hMade' (hId.trans (hPart q)))

/-- Removing names leaves all bytes. -/
theorem untouched_of_unlink (hHandle : E.handles.object i = some r) :
    Untouched c E.shared (r.unlink E.shared).1 := by
  rcases consistent.unlink_cases hHandle with ⟨d, _, _, hUnlink⟩ | ⟨_, hUnlink⟩
  · rw [hUnlink]
    exact fun _ => rfl
  · rw [hUnlink]
    exact untouched_refl

/-- Whatever happens, only what is done through a handle on a ring changes its files. -/
theorem untouched_of_step (step : Step E event E') (hMade : Made trace i c)
    (hOther : ¬ ActsOn E event c) : Untouched c E.shared E'.shared := by
  have hThere := (consistent.coherent.mounted hMade).existing
  -- On the step; creating uses new files, and transfers stay within the files of their own ring.
  cases step with
  | create name g hCreate =>
    obtain ⟨_, _, rfl, rfl⟩ := create_eq_value_iff.mp hCreate
    exact fun p => object_founded (hThere p)
  | createInVain name g hCreate hVain =>
    obtain ⟨_, _, hIntact⟩ := intact_of_vain hCreate hVain
    exact fun p => hIntact.object _ (hThere p)
  | openNamed name policy hOpen =>
    obtain ⟨rfl, _⟩ := opened_of_openNamed hOpen
    exact untouched_refl
  | openInVain name policy hOpen hVain =>
    obtain rfl := (congrArg Prod.fst hOpen).symm.trans (fst_openNamed name policy E.shared)
    exact untouched_refl
  | unlink hHandle => exact consistent.untouched_of_unlink hHandle
  | drop hHandle =>
    rw [close_eq]
    exact untouched_refl
  | @write j r payload patience hHandle =>
    exact consistent.untouched_of_touches hMade hHandle
      (fun h => hOther ⟨j, r, .inl rfl, hHandle, h⟩)
      (write_touches (consistent.mounted hHandle) payload patience)
  | @read j r patience hHandle =>
    exact consistent.untouched_of_touches hMade hHandle
      (fun h => hOther ⟨j, r, .inl rfl, hHandle, h⟩)
      (read_touches (consistent.mounted hHandle) patience)
  | @look j r hHandle =>
    exact consistent.untouched_of_touches hMade hHandle
      (fun h => hOther ⟨j, r, .inr rfl, hHandle, h⟩) (consistent.look_touches hHandle)

/-- What is done through one handle acts on one creation at most. -/
theorem acts_on_one (hMade : Made trace i c) (hMade' : Made trace j d)
    (hActs : ActsOn E event c) (hActs' : ActsOn E event d) : i = j := by
  obtain ⟨k, r, hEvent, hHandle, hVisitor⟩ := hActs
  obtain ⟨k', r', hEvent', hHandle', hVisitor'⟩ := hActs'
  have hSame : k = k' := by
    rcases hEvent with rfl | rfl <;> rcases hEvent' with h | h <;> cases h <;> rfl
  subst hSame
  rw [hHandle, Option.some.injEq] at hHandle'
  rw [← hHandle', hVisitor] at hVisitor'
  exact consistent.coherent.apart hMade hMade'
    (eq_of_visitor (fun r => r.part .segment) (fun _ => rfl) hVisitor')

end Consistent

/-! ## What names lead to -/

/-- The name leads to a segment that a creation made. -/
def LeadsToSegment (trace : List Event) (E : Estate) (n : RingName) : Prop :=
  ∃ i c, Made trace i c ∧ E.shared.named (Segment.file n.text) = some c.segment.id

/-- The name leads to a semaphore that a creation made, for whatever role. -/
def LeadsToSemaphore (trace : List Event) (E : Estate) (n : RingName) (role : SemaphoreRole) :
    Prop :=
  ∃ i c role', Made trace i c ∧
    E.shared.named (Semaphore.file (SemaphoreName.ofRing n.text role)) =
      some (c.semaphores.playing role').id

namespace Consistent

variable (consistent : Consistent trace E)
include consistent

/-- A name leads to a segment only if that is a segment of this name. -/
theorem standing_of_segment {n : RingName} (h : LeadsToSegment trace E n) :
    ∃ i c, Standing trace i c ∧ c.name = n := by
  obtain ⟨i, c, hMade, hNamed⟩ := h
  obtain ⟨hStands, hFile⟩ :=
    consistent.coherent.standing_of_named (p := .segment) hMade hNamed
  exact ⟨i, c, ⟨hMade, hStands⟩, (Part.file_segment_inj.mp hFile).symm⟩

/-- A semaphore that can be found belongs to a ring that stands. -/
theorem standing_of_semaphore {n : RingName} {role : SemaphoreRole}
    (h : LeadsToSemaphore trace E n role) : ∃ i c, Standing trace i c ∧ c.name = n := by
  obtain ⟨i, c, role', hMade, hNamed⟩ := h
  obtain ⟨hStands, hFile⟩ :=
    consistent.coherent.standing_of_named (p := .semaphore role') hMade hNamed
  exact ⟨i, c, ⟨hMade, hStands⟩, (Part.file_semaphore_inj.mp hFile).1.symm⟩

/-- A ring's segment can be found if and only if its semaphores can. -/
theorem segment_iff_semaphores (n : RingName) :
    LeadsToSegment trace E n ↔ ∀ role, LeadsToSemaphore trace E n role := by
  constructor
  · intro h role
    obtain ⟨i, c, ⟨hMade, hStands⟩, rfl⟩ := consistent.standing_of_segment h
    exact ⟨i, c, role, hMade, consistent.coherent.named_part hMade hStands (.semaphore role)⟩
  · intro h
    obtain ⟨i, c, ⟨hMade, hStands⟩, rfl⟩ := consistent.standing_of_semaphore (h .free)
    exact ⟨i, c, hMade, consistent.coherent.named_part hMade hStands .segment⟩

end Consistent

/-! ## Every course of events -/

/-- From `s` to `s'` the four names of a ring, and no others, were taken from its files. -/
structure Strikes (c : Ring) (s s' : Shared) : Prop where
  led : ∀ p : Part, s.named (p.file c.name) = some (c.part p)
  gone : ∀ p : Part, s'.named (p.file c.name) = none
  other : ∀ file, (∀ p : Part, file ≠ p.file c.name) → s'.named file = s.named file
  objects : s'.object = s.object

/-- Withdrawing removes the four names and nothing else. -/
theorem strikes_withdrawn {s : Shared} (opened : Opened c.name s c.visitor) :
    Strikes c s (withdrawn c.name s) where
  led p := (opened.named p).trans (congrArg some (part_visitor c p))
  gone := named_withdrawn
  other _ := named_withdrawn_other
  objects := rfl

/-- What holds of names, files and handles after any course of events. -/
structure Orderly (trace : List Event) (E : Estate) : Prop where
  /-- The name of a segment leads to one exactly when the three that are made of it lead to
  semaphores. -/
  together : ∀ n : RingName, LeadsToSegment trace E n ↔ ∀ role, LeadsToSemaphore trace E n role
  /-- Then the four files stem from one creation of the name. -/
  one_creation : ∀ n : RingName, LeadsToSegment trace E n →
    ∃ i c, Standing trace i c ∧ c.name = n ∧ ∀ p : Part, E.shared.named (p.file n) = some (c.part p)
  /-- Nothing is in the directory but the files of rings that stand, each under its own name. -/
  accounted : ∀ file id, E.shared.named file = some id →
    ∃ i c p, Standing trace i c ∧ file = p.file c.name ∧ id = c.part p
  /-- No file belongs to two creations, and the files of one creation are four. -/
  apart : ∀ i j c d p q, Made trace i c → Made trace j d → c.part p = d.part q → i = j ∧ p = q
  /-- Every handle belongs to a creation, whose owner it is if that returned it. -/
  stems : ∀ i r, E.handles.object i = some r →
    (∃ j c, Made trace j c ∧ r.visitor = c.visitor) ∧ (r.owner = true ↔ ∃ c, Made trace i c)
  untouched : ∀ event E' i c, Step E event E' → Made trace i c → ¬ ActsOn E event c →
    Untouched c E.shared E'.shared
  acts_on_one : ∀ event i j c d, Made trace i c → Made trace j d → ActsOn E event c →
    ActsOn E event d → i = j
  opens : ∀ n policy s r, openNamed n policy E.shared = (s, .value r) ↔
    s = E.shared ∧ ∃ i c, Standing trace i c ∧ c.name = n ∧ r = c.visitor
  /-- The owner's first call removes the names. -/
  removes : ∀ i r c, E.handles.object i = some r → Standing trace i c →
    ∃ s, r.unlink E.shared = (s, r.retired, .value true) ∧ Strikes c E.shared s
  /-- No other call removes anything. -/
  spares : ∀ i r, E.handles.object i = some r → (∀ c, ¬ Standing trace i c) →
    r.unlink E.shared = (E.shared, r, .value false)

/-- It is not so that a file is where a name of a segment leads exactly when there are files where
the three names made of it lead. A single ring has a semaphore where the segment of another name
would be, and there are no semaphores of that name. -/
theorem files_not_always_together :
    ∃ E, Run Step start [.created 0 Sample.ring] E ∧
      ¬ ∀ n : RingName, (E.shared.named (Segment.file n.text)).isSome ↔
        ∀ role, (E.shared.named (Semaphore.file (SemaphoreName.ofRing n.text role))).isSome := by
  refine ⟨_, .snoc .nil (.create Sample.name Sample.geometry Sample.create_eq_value), ?_⟩
  intro together
  -- The file of the semaphore `free` is where that segment would be.
  have hThere : (Sample.world.named (Segment.file Sample.lookalike.text)).isSome := by
    rw [Sample.file_lookalike, Sample.world, named_founded]
    rfl
  have hMissing : Sample.world.named
      (Semaphore.file (SemaphoreName.ofRing Sample.lookalike.text .free)) = none := by
    decide
  have hSome := (together Sample.lookalike).mp hThere .free
  rw [hMissing] at hSome
  cases hSome

/-- From the empty directory on, names and files stay in order, whatever rings are created,
opened, used, removed and dropped, by however many handles, and under whatever names. -/
theorem runs_orderly (run : Run Step start trace E) : Orderly trace E := by
  have consistent := consistent_of_run run
  have coherent := consistent.coherent
  refine
    { together := consistent.segment_iff_semaphores
      one_creation := ?_
      accounted := ?_
      apart := ?_
      stems := ?_
      untouched := fun _ _ _ _ => consistent.untouched_of_step
      acts_on_one := fun _ _ _ _ _ => consistent.acts_on_one
      opens := fun _ _ _ _ => coherent.openNamed_eq_value_iff_standing
      removes := ?_
      spares := ?_ }
  · intro n hSegment
    obtain ⟨i, c, ⟨hMade, hStands⟩, rfl⟩ := consistent.standing_of_segment hSegment
    exact ⟨i, c, ⟨hMade, hStands⟩, rfl, coherent.named_part hMade hStands⟩
  · intro file id hNamed
    obtain ⟨i, c, p, hMade, hStands, hRest⟩ := coherent.named hNamed
    exact ⟨i, c, p, ⟨hMade, hStands⟩, hRest⟩
  · intro i j c d p q hMade hMade' hId
    obtain ⟨hNumber, _, hPart⟩ := coherent.part_inj hMade hMade' hId
    exact ⟨hNumber, hPart⟩
  · intro i r hHandle
    refine ⟨consistent.held.stems hHandle, consistent.held.owner hHandle, ?_⟩
    rintro ⟨c, hMade⟩
    exact (consistent.held.own hHandle hMade).2.1
  · rintro i r c hHandle ⟨hMade, hStands⟩
    exact ⟨_, consistent.unlink_first hHandle hMade hStands,
      strikes_withdrawn (coherent.standing hMade hStands)⟩
  · intro i r hHandle hNot
    refine consistent.unlink_again hHandle fun c hMade => ?_
    by_contra hStands
    exact hNot c ⟨hMade, hStands⟩

/-- The small ring is created, a name that one of its semaphores has taken is tried, and the small
ring is removed and created again. -/
def recreation : List Event :=
  [.created 0 Sample.ring, .notCreated Sample.lookalike Sample.geometry, .unlinked 0 (.value true),
    .created 1 (founder Sample.name Sample.geometry (withdrawn Sample.name Sample.world))]

theorem run_recreation : ∃ E, Run Step start recreation E := by
  let E₁ : Estate := ⟨Sample.world, start.handles.add (some Sample.ring)⟩
  have hUnlink : Sample.ring.unlink Sample.world =
      (withdrawn Sample.name Sample.world, Sample.ring.retired, .value true) :=
    unlink_of_owner (fun role => by cases role <;> rfl) rfl rfl rfl
  -- After the names were removed they are vacant again.
  have hVacant : Vacant Sample.name (withdrawn Sample.name Sample.world) :=
    ⟨Sample.vacant.plain, named_withdrawn⟩
  have create : Step start (.created 0 Sample.ring) E₁ :=
    .create Sample.name Sample.geometry Sample.create_eq_value
  have inVain : Step E₁ (.notCreated Sample.lookalike Sample.geometry) E₁ :=
    .createInVain Sample.lookalike Sample.geometry Sample.create_lookalike (by simp)
  have unlink : Step E₁ (.unlinked 0 (Sample.ring.unlink Sample.world).2.2)
      ⟨(Sample.ring.unlink Sample.world).1,
        E₁.handles.set 0 (some (Sample.ring.unlink Sample.world).2.1)⟩ := .unlink rfl
  rw [hUnlink] at unlink
  exact ⟨_, .snoc (.snoc (.snoc (.snoc .nil create) inVain) unlink)
    (.create Sample.name Sample.geometry (create_of_vacant (by decide) hVacant))⟩

/-- Two rings that had the same name one after the other. -/
theorem runs_orderly_recreation :
    ∃ E, Run Step start recreation E ∧ Orderly recreation E := by
  rcases run_recreation with ⟨E, run⟩
  exact ⟨E, run, runs_orderly run⟩

end Estate

end Ring
end RingBus
