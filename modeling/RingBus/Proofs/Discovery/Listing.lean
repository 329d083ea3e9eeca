import Mathlib.Data.List.Basic
import RingBus.Discovery.Registry

/-!
# One key at a time

Seen from one key, whatever happens to a registry is one of three moves: a participant joins, an
endpoint leaves, or nothing happens.

* `Listing.Distinct`: no endpoint is listed twice, which every move preserves.
* `Listing.mem_enlist`, `Listing.mem_without`: who is listed afterwards.
* `Move`: what a move does to the participants, and who is told about whom.
-/

namespace RingBus

/-! ## Participants under one key -/

namespace Listing

/-- No endpoint is listed twice, however it is spelled. -/
def Distinct (l : List Participant) : Prop :=
  l.Pairwise fun p q => p.endpoint.key ≠ q.endpoint.key

variable {l : List Participant} {p q : Participant} {e : Endpoint}

theorem beq_eq_false_iff {a b : Endpoint} : (a == b) = false ↔ a.key ≠ b.key := by
  rw [← Bool.not_eq_true, Endpoint.beq_iff]

theorem mem_without : q ∈ without e l ↔ q ∈ l ∧ q.endpoint.key ≠ e.key := by
  simp only [without, List.mem_filter, Bool.not_eq_true', beq_eq_false_iff]

theorem enlist_ne_nil : enlist p l ≠ [] := by
  cases l with
  | nil => exact List.cons_ne_nil _ _
  | cons q rest =>
    unfold enlist
    split <;> exact List.cons_ne_nil _ _

theorem enlist_of_not_listed :
    ¬ (∃ q ∈ l, q.endpoint.key = p.endpoint.key) → enlist p l = l ++ [p] := by
  intro h
  induction l with
  | nil => rfl
  | cons q rest ih =>
    have hOther : ¬ (q.endpoint == p.endpoint) = true := by
      intro hSame
      exact h ⟨q, .head _, Endpoint.beq_iff.mp hSame⟩
    have hRest : ¬ ∃ q ∈ rest, q.endpoint.key = p.endpoint.key := by
      rintro ⟨q, hq, hKey⟩
      exact h ⟨q, .tail _ hq, hKey⟩
    rw [enlist, if_neg hOther, ih hRest, List.cons_append]

/-- Registering again changes no endpoint but in its spelling. -/
theorem keys_enlist_of_listed :
    (∃ q ∈ l, q.endpoint.key = p.endpoint.key) →
      (enlist p l).map (·.endpoint.key) = l.map (·.endpoint.key) := by
  rintro ⟨q, hMem, hKey⟩
  induction l with
  | nil => cases hMem
  | cons r rest ih =>
    unfold enlist
    split
    next hSame => rw [List.map_cons, List.map_cons, Endpoint.beq_iff.mp hSame]
    next hOther =>
      rcases List.mem_cons.mp hMem with rfl | hMem
      · exact absurd (Endpoint.beq_iff.mpr hKey) hOther
      · rw [List.map_cons, List.map_cons, ih hMem]

theorem distinct_iff_nodup : Distinct l ↔ (l.map (·.endpoint.key)).Nodup := by
  rw [Distinct, List.Nodup, List.pairwise_map]

/-- Nobody is listed twice after a registration. -/
theorem Distinct.enlist (h : Distinct l) (p : Participant) : Distinct (enlist p l) := by
  by_cases hListed : ∃ q ∈ l, q.endpoint.key = p.endpoint.key
  · rw [distinct_iff_nodup, keys_enlist_of_listed hListed]
    exact distinct_iff_nodup.mp h
  · rw [enlist_of_not_listed hListed]
    refine List.pairwise_append.mpr ⟨h, List.pairwise_singleton _ _, ?_⟩
    intro q hMem p' hp' hKey
    rw [List.mem_singleton.mp hp'] at hKey
    exact hListed ⟨q, hMem, hKey⟩

theorem Distinct.without (h : Distinct l) (e : Endpoint) : Distinct (without e l) :=
  h.sublist List.filter_sublist

/-- Whoever registers replaces its own entry and leaves the others. -/
theorem mem_enlist (h : Distinct l) :
    q ∈ enlist p l ↔ q = p ∨ q ∈ l ∧ q.endpoint.key ≠ p.endpoint.key := by
  induction l with
  | nil => simp [enlist]
  | cons r rest ih =>
    obtain ⟨hHead, hRest⟩ := List.pairwise_cons.mp h
    unfold enlist
    split
    next hSame =>
      -- The others stand behind the entry that is replaced.
      have hKey := Endpoint.beq_iff.mp hSame
      constructor
      · intro hq
        rcases List.mem_cons.mp hq with hNew | hBehind
        · exact .inl hNew
        · exact .inr ⟨.tail _ hBehind, fun hq => hHead q hBehind (hKey.trans hq.symm)⟩
      · rintro (rfl | ⟨hOld, hOther⟩)
        · exact .head _
        · rcases List.mem_cons.mp hOld with rfl | hBehind
          · exact absurd hKey hOther
          · exact .tail _ hBehind
    next hOther =>
      have hKey : r.endpoint.key ≠ p.endpoint.key := by
        intro hKey
        exact hOther (Endpoint.beq_iff.mpr hKey)
      rw [List.mem_cons, ih hRest, List.mem_cons]
      constructor
      · rintro (rfl | hNew | ⟨hOld, hq⟩)
        · exact .inr ⟨.inl rfl, hKey⟩
        · exact .inl hNew
        · exact .inr ⟨.inr hOld, hq⟩
      · rintro (hNew | ⟨rfl | hOld, hq⟩)
        · exact .inr (.inl hNew)
        · exact .inl rfl
        · exact .inr (.inr ⟨hOld, hq⟩)

/-- An endpoint that is listed is found exactly once. -/
theorem Distinct.filter_eq_singleton (h : Distinct l) :
    p ∈ l → l.filter (·.endpoint == p.endpoint) = [p] := by
  intro hMem
  induction l with
  | nil => cases hMem
  | cons q rest ih =>
    obtain ⟨hHead, hRest⟩ := List.pairwise_cons.mp h
    rcases List.mem_cons.mp hMem with rfl | hMem
    · -- It stands in front; nobody behind it has its endpoint.
      have hNone : rest.filter (·.endpoint == p.endpoint) = [] := by
        apply List.filter_eq_nil_iff.mpr
        intro q hq hSame
        exact hHead q hq (Endpoint.beq_iff.mp hSame).symm
      simp [hNone, Endpoint.beq_iff.mpr rfl]
    · have hOther : (q.endpoint == p.endpoint) = false :=
        beq_eq_false_iff.mpr (hHead p hMem)
      simpa [hOther] using ih hRest hMem

/-- Taking an endpoint off shortens the list if somebody has its path. -/
theorem length_without_ne_iff :
    (without e l).length ≠ l.length ↔ ∃ p ∈ l, p.endpoint.key = e.key := by
  rw [without, ne_eq, List.length_filter_eq_length_iff]
  simp [beq_eq_false_iff]

end Listing

/-! ## Moves -/

/-- What an action amounts to under one key. -/
inductive Move
  | joins (p : Participant)
  | leaves (e : Endpoint)
  | rests

namespace Move

/-- The participants after a move. -/
def apply : Move → List Participant → List Participant
  | .joins p, l => Listing.enlist p l
  | .leaves e, l => Listing.without e l
  | .rests, l => l

/-- What is told to whom on the occasion of a move: the newcomer hears of the others, then they
hear of the newcomer. -/
def told (key : ServiceKey) : Move → List Participant → List Notification
  | .joins p, l =>
    (Listing.without p.endpoint l).map (fun q => ⟨p.endpoint, ⟨.peer, key, q⟩⟩) ++
      (Listing.without p.endpoint l).map (fun q => ⟨q.endpoint, ⟨.peer, key, p⟩⟩)
  | .leaves _, _ => []
  | .rests, _ => []

/-- No move makes anybody be listed twice. -/
theorem distinct_apply {l : List Participant} (m : Move) :
    Listing.Distinct l → Listing.Distinct (m.apply l) := by
  intro h
  cases m with
  | joins p => exact h.enlist p
  | leaves e => exact h.without e
  | rests => exact h

end Move

/-! ## Two participants

Statements about all participants are shown at work on these. -/

namespace Listing.Sample

/-- The key under which they meet. -/
def meeting : ServiceKey :=
  ⟨"k", by decide, by decide, by decide⟩

def ann : Participant :=
  ⟨⟨"/a", by decide, by decide, by decide⟩, none⟩

def bob : Participant :=
  ⟨⟨"/b", by decide, by decide, by decide⟩, none⟩

def cid : Participant :=
  ⟨⟨"/c", by decide, by decide, by decide⟩, none⟩

/-- Where their daemon is. -/
def desk : Endpoint :=
  ⟨"/d", by decide, by decide, by decide⟩

/-- The same participant, spelled differently and with a ring. -/
def bobAgain : Participant :=
  ⟨⟨"//b/.", by decide, by decide, by decide⟩, some ⟨"/bobs", by constructor <;> decide⟩⟩

end Listing.Sample

end RingBus
