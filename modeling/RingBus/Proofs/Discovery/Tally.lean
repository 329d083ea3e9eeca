import Mathlib.Algebra.BigOperators.Finprod
import Mathlib.Data.Set.Card
import RingBus.Proofs.Discovery.Actions

/-!
# Counting registrations

The numbers that a registry gives of itself, told by the participants under its keys.

* `Registry.Kept`: no key is kept without participants, which every action preserves.
* `Registry.Tallied`: what the numbers of a registry are.
* `Registry.tallied`: they are that for every registry that keeps no key in vain and lists no
  endpoint twice under one key.
-/

namespace RingBus

namespace Listing

variable {l : List Participant} {e : Endpoint}

/-- Taking an endpoint off takes one participant away, if it was listed. -/
theorem Distinct.length_sub_length_without (h : Distinct l) :
    l.length - (Listing.without e l).length = if l.any (·.endpoint == e) then 1 else 0 := by
  -- The list is made of those with the endpoint, one at most, and of those without.
  have hLength : l.length =
      (l.filter (·.endpoint == e)).length + (Listing.without e l).length :=
    l.length_eq_length_filter_add (·.endpoint == e)
  by_cases hListed : l.any (·.endpoint == e)
  · obtain ⟨p, hMem, hSame⟩ := List.any_eq_true.mp hListed
    have hOnce : l.filter (·.endpoint == e) = [p] := by
      rw [← h.filter_eq_singleton hMem]
      apply List.filter_congr
      intro q _
      rw [Bool.eq_iff_iff, Endpoint.beq_iff, Endpoint.beq_iff, Endpoint.beq_iff.mp hSame]
    rw [if_pos hListed, hLength, hOnce, List.length_singleton, Nat.add_sub_cancel]
  · have hNone : l.filter (·.endpoint == e) = [] := by
      apply List.filter_eq_nil_iff.mpr
      intro q hMem hSame
      exact hListed (List.any_eq_true.mpr ⟨q, hMem, hSame⟩)
    rw [if_neg hListed, hLength, hNone, List.length_nil, Nat.add_sub_cancel]

end Listing

theorem Service.sum_map_ite (listed : Service → Bool) (services : List Service) :
    (services.map fun s => if listed s then 1 else 0).sum = (services.filter listed).length := by
  induction services with
  | nil => rfl
  | cons s rest ih =>
    by_cases hListed : listed s
    · simp [hListed, ih, Nat.add_comm]
    · simp [hListed, ih]

namespace Registry

variable {r : Registry} {key : ServiceKey} {e : Endpoint}

/-- No key is kept without participants. -/
def Kept (r : Registry) : Prop :=
  ∀ s ∈ r.services, s.participants ≠ []

theorem kept_empty : empty.Kept := by
  intro s hs
  cases hs

theorem Kept.put (h : r.Kept) {l : List Participant} (hSome : l ≠ []) : (r.put key l).Kept := by
  intro s hs
  rcases Service.mem_put hs with rfl | hOld
  · exact hSome
  · exact h s hOld

theorem Kept.drop (h : r.Kept) : (r.drop key).Kept := by
  intro s hs
  exact h s (List.mem_filter.mp hs).1

/-- A key goes with its last participant. -/
theorem Kept.deregister (h : r.Kept) : (r.deregister key e).Kept := by
  cases hFound : r.service? key with
  | none =>
    rw [deregister_of_none hFound]
    exact h
  | some s =>
    rw [deregister_of_some hFound]
    split
    next => exact h.drop
    next hLeft =>
      apply h.put
      intro hNone
      exact hLeft (List.isEmpty_iff.mpr hNone)

/-- Eviction drops the keys that it leaves without participants. -/
theorem kept_evict : (r.evict e).Kept := by
  intro s hs
  obtain ⟨_, _, _, hSome⟩ := mem_services_evict.mp hs
  exact hSome

/-- No action keeps a key without participants. -/
theorem Kept.act (h : r.Kept) (a : Action) : (r.act a).1.Kept := by
  cases a with
  | register key p => exact h.put Listing.enlist_ne_nil
  | deregister key e => exact h.deregister
  | evict e => exact kept_evict
  | handle m =>
    rcases m with ⟨command, key, p⟩
    cases command with
    | register => exact h.put Listing.enlist_ne_nil
    | deregister => exact h.deregister
    | peer => exact h

theorem exists_of_peers_ne_nil : r.peers key ≠ [] → ∃ s ∈ r.services, s.key = key := by
  intro hSome
  by_contra hNot
  exact hSome (peers_of_not_kept hNot)

/-- A key has participants if and only if it is kept. -/
theorem Kept.peers_ne_nil_iff (h : r.Kept) :
    r.peers key ≠ [] ↔ ∃ s ∈ r.services, s.key = key := by
  constructor
  · exact exists_of_peers_ne_nil
  · rintro ⟨s, hs, rfl⟩
    rw [peers_of_mem hs]
    exact h s hs

/-- No key stands twice, so as many keys as services have a property. -/
theorem ncard_keys {services : List Service} (apart : Service.Apart services)
    {keys : Set ServiceKey} :
    (∀ key, key ∈ keys ↔ ∃ s ∈ services, s.key = key) → keys.ncard = services.length := by
  intro h
  have hKeys : keys = (services.map Service.key).toFinset := by
    ext key
    simp [h]
  rw [hKeys, Set.ncard_coe_finset,
    List.toFinset_card_of_nodup (List.pairwise_map.mpr apart), List.length_map]

/-- What the numbers of a registry are. -/
structure Tallied (r : Registry) : Prop where
  kept : r.Kept
  serviceCount : r.serviceCount = {key | r.peers key ≠ []}.ncard
  size : r.size = ∑ᶠ key, (r.peers key).length
  isEmpty : r.isEmpty = true ↔ r.size = 0
  withdraw : ∀ key e, (r.withdraw key e).2 = true ↔ ∃ p ∈ r.peers key, p.endpoint.key = e.key
  forget : ∀ e, (r.forget e).2 = {key | ∃ p ∈ r.peers key, p.endpoint.key = e.key}.ncard

theorem size_eq_sum (r : Registry) :
    r.size = (r.services.map fun s => s.participants.length).sum := by
  rw [size, List.sum_eq_foldr, List.foldr_map]

/-- The number of registrations is the sum over all keys. -/
theorem size_eq_finsum (r : Registry) : r.size = ∑ᶠ key, (r.peers key).length := by
  have hSupport : (Function.support fun key => (r.peers key).length) ⊆
      (r.services.map Service.key).toFinset := by
    -- A key that is not kept adds nothing.
    intro key hKey
    have hSome : r.peers key ≠ [] := by
      intro hNone
      exact hKey (congrArg List.length hNone)
    simpa using exists_of_peers_ne_nil hSome
  calc r.size
    _ = (r.services.map fun s => (r.peers s.key).length).sum := by
        rw [size_eq_sum, List.map_congr_left]
        intro s hs
        rw [peers_of_mem hs]
    _ = ((r.services.map Service.key).map fun key => (r.peers key).length).sum := by
        rw [List.map_map]
        rfl
    _ = ∑ key ∈ (r.services.map Service.key).toFinset, (r.peers key).length :=
        (List.sum_toFinset _ (List.pairwise_map.mpr r.apart)).symm
    _ = ∑ᶠ key, (r.peers key).length := (finsum_eq_sum_of_support_subset _ hSupport).symm

theorem Kept.isEmpty_iff (h : r.Kept) : r.isEmpty = true ↔ r.size = 0 := by
  rw [isEmpty, List.isEmpty_iff, size_eq_sum, List.sum_eq_zero_iff_forall_eq_nat]
  constructor
  · intro hEmpty n hn
    rw [hEmpty] at hn
    cases hn
  · intro hZero
    apply List.eq_nil_iff_forall_not_mem.mpr
    intro s hs
    exact h s hs (List.eq_nil_of_length_eq_zero (hZero _ (List.mem_map_of_mem hs)))

/-- As many registrations go away as services list the endpoint. -/
theorem count_eq_length_filter (distinct : ∀ key, Listing.Distinct (r.peers key)) :
    (r.forget e).2 = (r.services.filter (·.participants.any (·.endpoint == e))).length := by
  have hOnce : ∀ s ∈ r.services, s.participants.length - (s.without e).participants.length =
      if s.participants.any (·.endpoint == e) then 1 else 0 := by
    intro s hs
    have hDistinct := distinct s.key
    rw [peers_of_mem hs] at hDistinct
    exact hDistinct.length_sub_length_without
  calc (r.forget e).2
    _ = (r.services.map fun s =>
          s.participants.length - (s.without e).participants.length).sum := by
        rw [forget, List.sum_eq_foldr, List.foldr_map]
    _ = (r.services.map fun s =>
          if s.participants.any (·.endpoint == e) then 1 else 0).sum := by
        rw [List.map_congr_left hOnce]
    _ = (r.services.filter (·.participants.any (·.endpoint == e))).length :=
        Service.sum_map_ite _ r.services

/-- Forgetting an endpoint tells under how many keys it was listed. -/
theorem forget_eq_ncard (distinct : ∀ key, Listing.Distinct (r.peers key)) :
    (r.forget e).2 = {key | ∃ p ∈ r.peers key, p.endpoint.key = e.key}.ncard := by
  rw [count_eq_length_filter distinct]
  apply Eq.symm
  -- Services and keys correspond, so the services that list the endpoint may be counted instead.
  apply ncard_keys (r.apart.filter _)
  intro key
  constructor
  · rintro ⟨p, hMem, hSame⟩
    obtain ⟨s, hs, rfl⟩ := exists_of_peers_ne_nil (List.ne_nil_of_mem hMem)
    rw [peers_of_mem hs] at hMem
    have hListed : s.participants.any (·.endpoint == e) = true :=
      List.any_eq_true.mpr ⟨p, hMem, Endpoint.beq_iff.mpr hSame⟩
    exact ⟨s, List.mem_filter.mpr ⟨hs, hListed⟩, rfl⟩
  · rintro ⟨s, hs, rfl⟩
    obtain ⟨hMem, hListed⟩ := List.mem_filter.mp hs
    obtain ⟨p, hp, hSame⟩ := List.any_eq_true.mp hListed
    exact ⟨p, by rwa [peers_of_mem hMem], Endpoint.beq_iff.mp hSame⟩

/-- All numbers that a registry tells are those of its listings. -/
theorem tallied (kept : r.Kept) (distinct : ∀ key, Listing.Distinct (r.peers key)) :
    r.Tallied where
  kept := kept
  serviceCount := (ncard_keys r.apart fun _ => kept.peers_ne_nil_iff).symm
  size := r.size_eq_finsum
  isEmpty := kept.isEmpty_iff
  withdraw := by
    intro key e
    exact lists_iff
  forget := by
    intro e
    exact forget_eq_ncard distinct

end Registry

end RingBus
