import Mathlib.Data.List.Nodup
import RingBus.Proofs.Discovery.Listing

/-!
# What happens to a registry

A registry keeps the participants of every key. An action on it is a move under each key, and what
is sent is sent on the occasion of that move.

* `Registry.peers_put_same`, `Registry.peers_put_other` and their like: what a change of the
  services does to the participants under a key.
* `Registry.Action`: everything that can happen to a registry.
* `Registry.peers_act`, `Registry.sent_act`: an action changes the participants under a key, and
  makes the daemon tell somebody about them, exactly as its move under that key does.
-/

namespace RingBus

/-! ## Services -/

namespace Service

variable {key key' : ServiceKey} {l : List Participant}

theorem find?_put_same (services : List Service) :
    (put key l services).find? (·.key = key) = some ⟨key, l⟩ := by
  induction services with
  | nil => simp [put]
  | cons s rest ih => by_cases hKey : s.key = key <;> simp [put, hKey, ih]

theorem find?_put_other (services : List Service) :
    key' ≠ key →
      (put key l services).find? (·.key = key') = services.find? (·.key = key') := by
  intro hOther
  induction services with
  | nil => simp [put, hOther.symm]
  | cons s rest ih =>
    by_cases hKey : s.key = key
    · simp [put, hKey, hOther.symm]
    · by_cases hKey' : s.key = key' <;> simp [put, hKey, hKey', hOther, ih]

/-- Keys that stand apart belong to one service each. -/
theorem Apart.eq_of_key_eq {services : List Service} {s t : Service} (h : Apart services) :
    s ∈ services → t ∈ services → s.key = t.key → s = t := by
  intro hs ht hKey
  have hNodup : (services.map Service.key).Nodup := List.pairwise_map.mpr h
  exact List.inj_on_of_nodup_map hNodup hs ht hKey

end Service

/-! ## The participants under a key -/

namespace Registry

variable {r : Registry} {key key' : ServiceKey} {l : List Participant} {p : Participant}
  {e : Endpoint} {s : Service}

theorem service?_eq_some_iff : r.service? key = some s ↔ s ∈ r.services ∧ s.key = key := by
  constructor
  · intro h
    exact ⟨List.mem_of_find?_eq_some h, by simpa using List.find?_some h⟩
  · rintro ⟨hMem, hKey⟩
    cases hFound : r.service? key with
    | none =>
      have hNot := List.find?_eq_none.mp hFound s hMem
      exact absurd (decide_eq_true hKey) hNot
    | some t =>
      -- No key stands twice, so the one found is the one given.
      have hKey' : t.key = key := by simpa using List.find?_some hFound
      have hSame := r.apart.eq_of_key_eq (List.mem_of_find?_eq_some hFound) hMem
        (hKey'.trans hKey.symm)
      rw [hSame]

theorem peers_of_mem : s ∈ r.services → r.peers s.key = s.participants := by
  intro h
  rw [peers, service?_eq_some_iff.mpr ⟨h, rfl⟩]

theorem peers_of_not_kept : ¬ (∃ s ∈ r.services, s.key = key) → r.peers key = [] := by
  intro h
  have hNone : r.service? key = none := by
    apply List.find?_eq_none.mpr
    intro s hs hKey
    exact h ⟨s, hs, of_decide_eq_true hKey⟩
  rw [peers, hNone]

theorem peers_put_same : (r.put key l).peers key = l := by
  rw [peers, service?, put, Service.find?_put_same]

theorem peers_put_other : key' ≠ key → (r.put key l).peers key' = r.peers key' := by
  intro h
  rw [peers, service?, put, Service.find?_put_other _ h, peers, service?]

theorem peers_drop_same : (r.drop key).peers key = [] := by
  apply peers_of_not_kept
  rintro ⟨s, hs, hKey⟩
  exact of_decide_eq_true (List.mem_filter.mp hs).2 hKey

theorem peers_drop_other : key' ≠ key → (r.drop key).peers key' = r.peers key' := by
  intro hOther
  have hFound : (r.drop key).service? key' = r.service? key' := by
    rw [service?, drop, List.find?_filter, service?]
    congr 1
    funext s
    by_cases hKey : s.key = key' <;> simp [hKey, hOther]
  rw [peers, hFound, peers]

theorem deregister_of_none : r.service? key = none → r.deregister key e = r := by
  intro h
  rw [deregister, withdraw, h]

theorem deregister_of_some :
    r.service? key = some s →
      r.deregister key e = if (Listing.without e s.participants).isEmpty then r.drop key
        else r.put key (Listing.without e s.participants) := by
  intro h
  rw [deregister, withdraw, h]

/-- Deregistering takes the endpoint off the key. -/
theorem peers_deregister_same :
    (r.deregister key e).peers key = Listing.without e (r.peers key) := by
  cases hFound : r.service? key with
  | none =>
    rw [deregister_of_none hFound, peers, hFound]
    rfl
  | some s =>
    have hPeers : r.peers key = s.participants := by rw [peers, hFound]
    rw [deregister_of_some hFound, hPeers]
    split
    next hLeft => rw [peers_drop_same, List.isEmpty_iff.mp hLeft]
    next => exact peers_put_same

/-- Deregistering under a key changes no other key. -/
theorem peers_deregister_other :
    key' ≠ key → (r.deregister key e).peers key' = r.peers key' := by
  intro hOther
  cases hFound : r.service? key with
  | none => rw [deregister_of_none hFound]
  | some s =>
    rw [deregister_of_some hFound]
    split
    · exact peers_drop_other hOther
    · exact peers_put_other hOther

theorem mem_services_evict :
    s ∈ (r.evict e).services ↔ ∃ t ∈ r.services, t.without e = s ∧ s.participants ≠ [] := by
  rw [evict, forget, List.mem_filter, List.mem_map]
  simp only [Bool.not_eq_true', List.isEmpty_eq_false_iff]
  constructor
  · rintro ⟨⟨t, hMem, rfl⟩, hSome⟩
    exact ⟨t, hMem, rfl, hSome⟩
  · rintro ⟨t, hMem, rfl, hSome⟩
    exact ⟨⟨t, hMem, rfl⟩, hSome⟩

/-- Eviction takes the endpoint off every key. -/
theorem peers_evict : (r.evict e).peers key = Listing.without e (r.peers key) := by
  by_cases hKept : ∃ s ∈ (r.evict e).services, s.key = key
  · obtain ⟨s, hMem, rfl⟩ := hKept
    obtain ⟨t, hBefore, rfl, -⟩ := mem_services_evict.mp hMem
    rw [peers_of_mem hMem]
    exact congrArg (Listing.without e) (peers_of_mem hBefore).symm
  · -- The key was not kept before either, or nobody is left under it.
    rw [peers_of_not_kept hKept]
    cases hFound : r.service? key with
    | none =>
      rw [peers, hFound]
      rfl
    | some s =>
      obtain ⟨hMem, hKey⟩ := service?_eq_some_iff.mp hFound
      have hLeft : (s.without e).participants = [] := by
        by_contra hLeft
        exact hKept ⟨s.without e, mem_services_evict.mpr ⟨s, hMem, rfl, hLeft⟩, hKey⟩
      rw [← hKey, peers_of_mem hMem]
      exact hLeft.symm

/-- A key lists an endpoint if one of its participants shares the path. -/
theorem lists_iff : r.lists key e = true ↔ ∃ p ∈ r.peers key, p.endpoint.key = e.key := by
  cases hFound : r.service? key with
  | none => simp [lists, withdraw, peers, hFound]
  | some s =>
    rw [lists, withdraw, peers, hFound]
    exact bne_iff_ne.trans Listing.length_without_ne_iff

/-! ## Actions -/

/-- Everything that can happen to a registry. -/
inductive Action
  | register (key : ServiceKey) (p : Participant)
  | deregister (key : ServiceKey) (e : Endpoint)
  | evict (e : Endpoint)
  | handle (m : Message)

/-- The registry after an action, and what has to be sent. -/
def act (r : Registry) : Action → Registry × List Notification
  | .register key p => r.register key p
  | .deregister key e => (r.deregister key e, [])
  | .evict e => (r.evict e, [])
  | .handle m => r.handle m

/-- What an action amounts to under a key. -/
def Action.under (key : ServiceKey) : Action → Move
  | .register key' p => if key' = key then .joins p else .rests
  | .deregister key' e => if key' = key then .leaves e else .rests
  | .evict e => .leaves e
  | .handle m =>
    match m.command with
    | .register => if m.key = key then .joins m.participant else .rests
    | .deregister => if m.key = key then .leaves m.participant.endpoint else .rests
    | .peer => .rests

/-- Seen from one key, a registration is a participant that joins, or nothing. -/
theorem peers_register (key' : ServiceKey) (p : Participant) :
    (r.register key' p).1.peers key =
      (if key' = key then Move.joins p else .rests).apply (r.peers key) := by
  by_cases h : key' = key
  · subst h
    rw [if_pos rfl]
    exact peers_put_same
  · rw [if_neg h]
    exact peers_put_other (Ne.symm h)

/-- Seen from one key, a deregistration is an endpoint that leaves, or nothing. -/
theorem peers_deregister (key' : ServiceKey) (e : Endpoint) :
    (r.deregister key' e).peers key =
      (if key' = key then Move.leaves e else .rests).apply (r.peers key) := by
  by_cases h : key' = key
  · subst h
    rw [if_pos rfl]
    exact peers_deregister_same
  · rw [if_neg h]
    exact peers_deregister_other (Ne.symm h)

/-- Seen from a key, an action does what its move does. -/
theorem peers_act (a : Action) : (r.act a).1.peers key = (a.under key).apply (r.peers key) := by
  cases a with
  | register key' p => exact peers_register key' p
  | deregister key' e => exact peers_deregister key' e
  | evict e => exact peers_evict
  | handle m =>
    rcases m with ⟨command, key', p⟩
    cases command with
    | register => exact peers_register key' p
    | deregister => exact peers_deregister key' p.endpoint
    | peer => rfl

/-- Seen from one key, a registration sends what the key's move tells. -/
theorem sent_register (key' : ServiceKey) (p : Participant) :
    (r.register key' p).2.filter (fun n => n.message.key = key) =
      (if key' = key then Move.joins p else .rests).told key (r.peers key) := by
  -- All notifications of a registration bear the key that was registered.
  have hKey : ∀ n ∈ (r.register key' p).2, n.message.key = key' := by
    intro n hn
    rcases List.mem_append.mp hn with hNewcomer | hOthers
    · obtain ⟨q, -, rfl⟩ := List.mem_map.mp hNewcomer
      rfl
    · obtain ⟨q, -, rfl⟩ := List.mem_map.mp hOthers
      rfl
  by_cases h : key' = key
  · subst h
    rw [if_pos rfl]
    apply List.filter_eq_self.mpr
    intro n hn
    exact decide_eq_true (hKey n hn)
  · rw [if_neg h]
    apply List.filter_eq_nil_iff.mpr
    intro n hn hSame
    exact h ((hKey n hn).symm.trans (of_decide_eq_true hSame))

/-- Everything that is sent on the occasion of an action concerns the key of its move. -/
theorem sent_act (a : Action) :
    (r.act a).2.filter (fun n => n.message.key = key) = (a.under key).told key (r.peers key) := by
  cases a with
  | register key' p => exact sent_register key' p
  | deregister key' e =>
    simp only [act, Action.under]
    split <;> rfl
  | evict e => rfl
  | handle m =>
    rcases m with ⟨command, key', p⟩
    cases command with
    | register => exact sent_register key' p
    | deregister =>
      simp only [act, handle, Action.under]
      split <;> rfl
    | peer => rfl

/-- Something is sent only when a participant registers, and it is sent about a peer. -/
theorem mem_handle_iff {m : Message} {n : Notification} :
    n ∈ (r.handle m).2 ↔ m.command = .register ∧
      ∃ q ∈ Listing.without m.participant.endpoint (r.peers m.key),
        n = ⟨m.participant.endpoint, ⟨.peer, m.key, q⟩⟩ ∨
          n = ⟨q.endpoint, ⟨.peer, m.key, m.participant⟩⟩ := by
  rcases m with ⟨command, key, p⟩
  cases command with
  | register =>
    simp only [handle, register, List.mem_append, List.mem_map, true_and, and_or_left, exists_or,
      eq_comm]
  | deregister => simp [handle]
  | peer => simp [handle]

end Registry

end RingBus
