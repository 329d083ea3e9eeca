import Mathlib.Logic.Relation
import RingBus.Host.Shared

/-!
# What may happen to shared files

Segments and semaphores belong to nobody: any process may overwrite the bytes of a file, which is
also how units are taken and given, create files under free names and remove names. This module
defines these single changes and shows what survives every sequence of them: names lead to different
existing files, and a file keeps its size.
-/

namespace RingBus

/-- Any number of steps of a system; the events stand in the order in which they happen. -/
inductive Run {State Event : Type} (step : State → Event → State → Prop) :
    State → List Event → State → Prop
  | nil {s : State} : Run step s [] s
  | snoc {s s' s'' : State} {trace : List Event} {event : Event} :
      Run step s trace s' → step s' event s'' → Run step s (trace ++ [event]) s''

/-- A run may begin with one step more. -/
theorem Run.head {State Event : Type} {step : State → Event → State → Prop} {s s' s'' : State}
    {trace : List Event} {event : Event} :
    step s event s' → Run step s' trace s'' → Run step s (event :: trace) s'' := by
  intro hStep run
  induction run with
  | nil => exact .snoc .nil hStep
  | snoc _ hLast ih => exact .snoc ih hLast

/-- A run goes on where another ended. -/
theorem Run.trans {State Event : Type} {step : State → Event → State → Prop} {s s' s'' : State}
    {trace trace' : List Event} :
    Run step s trace s' → Run step s' trace' s'' → Run step s (trace ++ trace') s'' := by
  intro run run'
  induction run' with
  | nil => rwa [List.append_nil]
  | snoc _ hLast ih =>
    rw [← List.append_assoc]
    exact .snoc ih hLast

namespace Catalog

variable {α : Type}

/-- Every name leads to an object that there has been, and no two names lead to the same one. -/
structure Sound (c : Catalog α) : Prop where
  lt_count : ∀ {name id}, c.named name = some id → id < c.count
  injective : ∀ {name name' id}, c.named name = some id → c.named name' = some id → name = name'

theorem sound_empty [Inhabited α] : (empty : Catalog α).Sound where
  lt_count h := by cases h
  injective h := by cases h

namespace Sound

variable {c : Catalog α} (sound : c.Sound)
include sound

theorem set (id : Nat) (a : α) : (c.set id a).Sound :=
  ⟨sound.lt_count, sound.injective⟩

theorem unlink (name : String) : (c.unlink name).Sound where
  lt_count {n id} h := by
    by_cases hn : n = name
    · simp [hn] at h
    · exact sound.lt_count ((c.named_unlink_other hn).symm.trans h)
  injective {n n' id} h h' := by
    by_cases hn : n = name
    · simp [hn] at h
    · by_cases hn' : n' = name
      · simp [hn'] at h'
      · exact sound.injective ((c.named_unlink_other hn).symm.trans h)
          ((c.named_unlink_other hn').symm.trans h')

theorem insert (name : String) (a : α) : (c.insert name a).Sound where
  lt_count {n id} h := by
    rw [count_insert]
    by_cases hn : n = name
    · subst hn
      rw [named_insert_same] at h
      cases h
      exact Nat.lt_succ_self _
    · rw [named_insert_other _ _ hn] at h
      exact Nat.lt_succ_of_lt (sound.lt_count h)
  injective {n n' id} h h' := by
    by_cases hn : n = name
    · by_cases hn' : n' = name
      · exact hn.trans hn'.symm
      · -- The new object has a number that no older name leads to.
        subst hn
        rw [named_insert_same] at h
        rw [named_insert_other _ _ hn'] at h'
        cases h
        exact absurd (sound.lt_count h') (Nat.lt_irrefl _)
    · rw [named_insert_other _ _ hn] at h
      by_cases hn' : n' = name
      · subst hn'
        rw [named_insert_same] at h'
        cases h'
        exact absurd (sound.lt_count h) (Nat.lt_irrefl _)
      · rw [named_insert_other _ _ hn'] at h'
        exact sound.injective h h'

end Sound

end Catalog

namespace Shared

/-- A world in which nobody has created anything. -/
def pristine : Shared :=
  Catalog.empty

/-- A single change that some process makes. The bytes may become anything. -/
inductive Step : Shared → Shared → Prop
  | create {s : Shared} (file : String) (m : Memory) :
      s.named file = none → Step s (s.insert file m)
  | unlink {s : Shared} (file : String) : Step s (s.unlink file)
  | overwrite {s : Shared} (id : Nat) (byte : Nat → UInt8) :
      Step s (s.set id ⟨(s.object id).size, byte⟩)

/-- Any number of changes, by anyone and in any order. -/
def Evolves : Shared → Shared → Prop :=
  Relation.ReflTransGen Step

/-- A world that some history leads to. -/
def Possible (s : Shared) : Prop :=
  Evolves pristine s

variable {s s' : Shared} {id : Nat}

/-- A replacement of bytes by as many others is a change that any process may make. -/
theorem evolves_set {m : Memory} (h : m.size = (s.object id).size) : Evolves s (s.set id m) := by
  obtain ⟨size, byte⟩ := m
  cases h
  exact Relation.ReflTransGen.single (.overwrite id byte)

/-- No single change makes two names lead to one file, or a name to none. -/
theorem sound_of_step (sound : s.Sound) (step : Step s s') : s'.Sound := by
  cases step with
  | create file m free => exact sound.insert file m
  | unlink file => exact sound.unlink file
  | overwrite id byte => exact sound.set id _

/-- Names lead to different existing files after any changes. -/
theorem sound_of_evolves (sound : s.Sound) (h : Evolves s s') : s'.Sound := by
  induction h with
  | refl => exact sound
  | tail _ step ih => exact sound_of_step ih step

/-- In a possible world the names lead to different files, which exist. -/
theorem Possible.sound (h : Possible s) : s.Sound :=
  sound_of_evolves Catalog.sound_empty h

/-- A file that exists goes on existing and keeps its size, whether or not it has a name. -/
theorem size_of_step (step : Step s s') (h : id < s.count) :
    id < s'.count ∧ (s'.object id).size = (s.object id).size := by
  cases step with
  | create file m free =>
    exact ⟨Nat.lt_succ_of_lt h, by rw [Catalog.object_insert_of_lt _ _ _ h]⟩
  | unlink file => exact ⟨h, rfl⟩
  | overwrite i byte =>
    refine ⟨h, ?_⟩
    by_cases hId : id = i
    · subst hId
      simp
    · simp [hId]

/-- Files stay and keep their sizes through any changes. -/
theorem size_of_evolves (h : Evolves s s') (existing : id < s.count) :
    id < s'.count ∧ (s'.object id).size = (s.object id).size := by
  induction h with
  | refl => exact ⟨existing, rfl⟩
  | tail _ step ih =>
    rcases size_of_step step ih.1 with ⟨hCount, hSize⟩
    exact ⟨hCount, hSize.trans ih.2⟩

end Shared
end RingBus
