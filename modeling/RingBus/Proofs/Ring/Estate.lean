import RingBus.Proofs.Ring.Footprint

/-!
# Many rings

Everything that processes do with rings and nothing else: they create rings, open them, transfer
messages, remove names and drop handles, under any names and in any order. Handles are numbered as
they appear, so the course of events tells which ring a handle belongs to and which handle is its
owner.
-/

namespace RingBus
namespace Ring

/-- The shared files, and the handles that have not been dropped. -/
structure Estate where
  shared : Shared
  handles : Numbered (Option Ring)

namespace Estate

/-- One thing that happens. -/
inductive Event
  /-- A ring was created; `r` is what its creator got, under number `i`. -/
  | created (i : Nat) (r : Ring)
  | notCreated (name : RingName) (g : Geometry)
  /-- A ring was opened; the handle got number `i`. -/
  | opened (i : Nat) (name : RingName)
  | notOpened (name : RingName)
  /-- Somebody asked for the names to be removed. -/
  | unlinked (i : Nat) (reply : Reply Bool)
  | dropped (i : Nat)
  /-- A message was written or read, or it was tried. -/
  | transferred (i : Nat)
  | looked (i : Nat)

/-- Nothing was created yet. -/
def start : Estate :=
  ⟨Shared.pristine, ⟨0, fun _ => none⟩⟩

/-- What can happen. -/
inductive Step : Estate → Event → Estate → Prop
  | create {E : Estate} {s : Shared} {r : Ring} (name : RingName) (g : Geometry) :
      create name g E.shared = (s, .value r) →
      Step E (.created E.handles.count r) ⟨s, E.handles.add (some r)⟩
  | createInVain {E : Estate} {s : Shared} {reply : Reply Ring} (name : RingName) (g : Geometry) :
      create name g E.shared = (s, reply) → (∀ r, reply ≠ .value r) →
      Step E (.notCreated name g) ⟨s, E.handles⟩
  | openNamed {E : Estate} {s : Shared} {r : Ring} (name : RingName) (policy : RetryPolicy) :
      openNamed name policy E.shared = (s, .value r) →
      Step E (.opened E.handles.count name) ⟨s, E.handles.add (some r)⟩
  | openInVain {E : Estate} {s : Shared} {reply : Reply Ring} (name : RingName)
      (policy : RetryPolicy) :
      openNamed name policy E.shared = (s, reply) → (∀ r, reply ≠ .value r) →
      Step E (.notOpened name) ⟨s, E.handles⟩
  | unlink {E : Estate} {i : Nat} {r : Ring} :
      E.handles.object i = some r →
      Step E (.unlinked i (r.unlink E.shared).2.2)
        ⟨(r.unlink E.shared).1, E.handles.set i (some (r.unlink E.shared).2.1)⟩
  | drop {E : Estate} {i : Nat} {r : Ring} :
      E.handles.object i = some r → Step E (.dropped i) ⟨r.close E.shared, E.handles.set i none⟩
  | write {E : Estate} {i : Nat} {r : Ring} (payload : ByteArray) (patience : Patience) :
      E.handles.object i = some r →
      Step E (.transferred i) ⟨(r.write payload patience E.shared).1, E.handles⟩
  | read {E : Estate} {i : Nat} {r : Ring} (patience : Patience) :
      E.handles.object i = some r →
      Step E (.transferred i) ⟨(r.read patience E.shared).1, E.handles⟩
  | look {E : Estate} {i : Nat} {r : Ring} :
      E.handles.object i = some r → Step E (.looked i) ⟨(r.indices E.shared).1, E.handles⟩

/-! ## What the course of events tells -/

/-- A creation returned `c` under number `i`. -/
def Made (trace : List Event) (i : Nat) (c : Ring) : Prop :=
  .created i c ∈ trace

/-- The names were asked to be removed through handle number `i`. -/
def Resigned (trace : List Event) (i : Nat) : Prop :=
  ∃ reply, .unlinked i reply ∈ trace

/-- A creation returned `c` under number `i`, and its names were not removed since. -/
def Standing (trace : List Event) (i : Nat) (c : Ring) : Prop :=
  Made trace i c ∧ ¬ Resigned trace i

section

variable {trace : List Event} {event : Event} {i j : Nat} {c d : Ring}

theorem made_snoc : Made (trace ++ [event]) i c ↔ Made trace i c ∨ event = .created i c := by
  simp only [Made, List.mem_append, List.mem_singleton, eq_comm]

theorem resigned_snoc :
    Resigned (trace ++ [event]) i ↔ Resigned trace i ∨ ∃ reply, event = .unlinked i reply := by
  simp only [Resigned, List.mem_append, List.mem_singleton, exists_or, eq_comm]

/-- Only creations and removals of names make history. -/
theorem history_snoc (trace : List Event) (hCreated : ∀ i c, event ≠ .created i c)
    (hUnlinked : ∀ i reply, event ≠ .unlinked i reply) :
    Made (trace ++ [event]) = Made trace ∧ Resigned (trace ++ [event]) = Resigned trace := by
  refine ⟨?_, ?_⟩
  · funext i c
    rw [made_snoc]
    exact propext (or_iff_left (hCreated i c))
  · funext i
    rw [resigned_snoc]
    exact propext (or_iff_left fun ⟨reply, h⟩ => hUnlinked i reply h)

theorem made_created :
    Made (trace ++ [.created j d]) = fun i c => Made trace i c ∨ (i = j ∧ c = d) := by
  funext i c
  rw [made_snoc]
  simp only [Event.created.injEq, eq_comm]

theorem resigned_created : Resigned (trace ++ [.created j d]) = Resigned trace := by
  funext i
  rw [resigned_snoc]
  exact propext (or_iff_left fun ⟨_, h⟩ => Event.noConfusion h)

theorem made_unlinked {reply : Reply Bool} :
    Made (trace ++ [.unlinked j reply]) = Made trace := by
  funext i c
  rw [made_snoc]
  exact propext (or_iff_left fun h => Event.noConfusion h)

theorem resigned_unlinked {reply : Reply Bool} :
    Resigned (trace ++ [.unlinked j reply]) = fun i => Resigned trace i ∨ i = j := by
  funext i
  rw [resigned_snoc]
  simp only [Event.unlinked.injEq, exists_and_left, exists_eq', and_true, eq_comm]

end

end Estate

end Ring
end RingBus
