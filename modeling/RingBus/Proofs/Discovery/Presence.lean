import RingBus.Proofs.Discovery.Advertising
import RingBus.Proofs.Discovery.Requests

/-!
# Who can come to be listed

An endpoint comes to be listed under a key by a registration and in no other way. What a daemon
sends, what it receives without acting on it and whom it forgets brings nobody in.

* `Listing.Has`: an endpoint is among the participants, however it is spelled.
* `Daemon.has_take_iff`: what one input does to that.
* `Daemon.has_outlook_of_append`: whoever arrives in the outlook was registered by a datagram that
  has come in.
* `Daemon.has_outlook_serve`: serving brings nobody in, also where it makes the daemon forget.
* `Daemon.ComesTo`: the registry once everything that waits has been served.
-/

namespace RingBus

namespace Listing

variable {l : List Participant} {p : Participant} {e : Endpoint} {k : Path.Key}

/-- The list has a participant with this path. -/
def Has (l : List Participant) (k : Path.Key) : Prop :=
  ∃ p ∈ l, p.endpoint.key = k

theorem has_without_iff : Has (without e l) k ↔ Has l k ∧ k ≠ e.key := by
  constructor
  · rintro ⟨q, hMem, rfl⟩
    obtain ⟨hMem, hOther⟩ := mem_without.mp hMem
    exact ⟨⟨q, hMem, rfl⟩, hOther⟩
  · rintro ⟨⟨q, hMem, rfl⟩, hOther⟩
    exact ⟨q, mem_without.mpr ⟨hMem, hOther⟩, rfl⟩

theorem has_iff_mem_map : Has l k ↔ k ∈ l.map (·.endpoint.key) := by
  rw [Has, List.mem_map]

theorem has_enlist_iff : Has (enlist p l) k ↔ p.endpoint.key = k ∨ Has l k := by
  by_cases hListed : Has l p.endpoint.key
  · -- Only the spelling may have changed.
    rw [has_iff_mem_map, keys_enlist_of_listed hListed, ← has_iff_mem_map]
    exact ⟨.inr, fun h => h.elim (· ▸ hListed) id⟩
  · rw [enlist_of_not_listed hListed]
    simp only [Has, List.mem_append, List.mem_singleton, or_and_right, exists_or, exists_eq_left]
    exact or_comm

end Listing

namespace Move

/-- A move brings in whoever joins, and takes off whoever leaves. -/
theorem has_apply_iff {m : Move} {l : List Participant} {k : Path.Key} :
    Listing.Has (m.apply l) k ↔
      (∃ p, m = .joins p ∧ p.endpoint.key = k) ∨
        Listing.Has l k ∧ ¬ ∃ e, m = .leaves e ∧ e.key = k := by
  cases m with
  | joins p => simp [apply, Listing.has_enlist_iff]
  | leaves e => simp [apply, Listing.has_without_iff, ne_comm]
  | rests => simp [apply]

end Move

namespace Daemon

variable {d d' : Daemon} {h h' : Host} {key : ServiceKey} {k : Path.Key} {x : Input}
  {inputs : List Input}

/-- A path is listed after an input if the input registers it, or if it was listed and the input
does not remove it. -/
theorem has_take_iff :
    Listing.Has ((d.take x).registry.peers key) k ↔
      (∃ p, x.Registers key p ∧ p.endpoint.key = k) ∨
        Listing.Has (d.registry.peers key) k ∧ ¬ x.Removes key k := by
  rw [peers_take, Move.has_apply_iff]
  simp only [Input.registers_iff, Input.removes_iff]

/-- Whoever is listed after a history was listed before, or was registered on the way. -/
theorem has_after :
    Listing.Has ((d.after inputs).registry.peers key) k →
      Listing.Has (d.registry.peers key) k ∨
        ∃ x ∈ inputs, ∃ p, x.Registers key p ∧ p.endpoint.key = k := by
  intro hHas
  induction inputs using List.reverseRecOn with
  | nil => exact .inl hHas
  | append_singleton inputs x ih =>
    rw [after_snoc, has_take_iff] at hHas
    rcases hHas with hNew | ⟨hOld, -⟩
    · exact .inr ⟨x, by simp, hNew⟩
    · exact (ih hOld).imp_right fun ⟨x, hMem, hRegisters⟩ =>
        ⟨x, List.mem_append_left _ hMem, hRegisters⟩

/-- If fewer are listed before a history, fewer are listed after it. -/
theorem has_after_mono
    (hFewer : ∀ k, Listing.Has (d'.registry.peers key) k → Listing.Has (d.registry.peers key) k)
    (inputs : List Input) :
    Listing.Has ((d'.after inputs).registry.peers key) k →
      Listing.Has ((d.after inputs).registry.peers key) k := by
  induction inputs using List.reverseRecOn generalizing k with
  | nil => exact hFewer k
  | append_singleton inputs x ih =>
    rw [after_snoc, after_snoc, has_take_iff, has_take_iff]
    exact Or.imp_right (And.imp_left ih)

/-! ## What waits for the daemon -/

theorem outlook_congr
    (hQueue : (h'.sockets.object d.socket).queue = (h.sockets.object d.socket).queue) :
    d.outlook h' key = d.outlook h key := by
  rw [outlook, queued, hQueue, outlook, queued]

/-- What comes in behind the others brings in those whom it registers. -/
theorem has_outlook_of_append {sent : List ByteArray}
    (hQueue : (h'.sockets.object d.socket).queue = (h.sockets.object d.socket).queue ++ sent) :
    Listing.Has (d.outlook h' key) k →
      Listing.Has (d.outlook h key) k ∨
        ∃ bytes ∈ sent, ∃ p, Datagram.parse bytes = .ok ⟨.register, key, p⟩ ∧
          p.endpoint.key = k := by
  intro hHas
  rw [outlook, queued, hQueue, List.map_append, after, List.foldl_append] at hHas
  refine (has_after hHas).imp_right ?_
  rintro ⟨x, hMem, p, ⟨bytes, rfl, hParse⟩, hKey⟩
  obtain ⟨sent', hSent, hBytes⟩ := List.mem_map.mp hMem
  cases hBytes
  exact ⟨sent', hSent, p, Datagram.parse_extract_ok hParse, hKey⟩

/-! ## Serving -/

/-- Sending notifications brings nobody in. -/
theorem has_deliver {σ : Type} (send : σ → Notification → σ × Outcome) (evicts : Bool)
    (ns : List Notification) (state : σ) (r : Registry) :
    Listing.Has ((deliver send evicts ns state r).2.peers key) k →
      Listing.Has (r.peers key) k := by
  induction ns generalizing state r with
  | nil => exact id
  | cons n rest ih =>
    intro hHas
    have hFirst := ih _ _ hHas
    split at hFirst
    · rw [Registry.peers_evict] at hFirst
      exact (Listing.has_without_iff.mp hFirst).1
    · exact hFirst

/-- Serving a datagram leads at most to what was to be expected. A daemon that forgets may come to
list fewer. -/
theorem has_outlook_serveNext? (hServe : d.serveNext? h = some (d', h')) :
    Listing.Has (d'.outlook h' key) k → Listing.Has (d.outlook h key) k := by
  intro hHas
  cases hQueue : (h.sockets.object d.socket).queue with
  | nil =>
    rw [serveNext?, Host.receive?_of_nil _ hQueue] at hServe
    cases hServe
  | cons first rest =>
    rw [serveNext?_eq_attend, Host.receive?_of_queue _ hQueue] at hServe
    rw [outlook_cons hQueue]
    simp only [Option.map_some, Option.some.injEq, attend, Prod.swap_prod_mk, Prod.mk.injEq]
      at hServe
    generalize first.extract 0 Datagram.bufferSize = bytes at hServe ⊢
    obtain ⟨rfl, rfl⟩ := hServe
    have undisturbed : (d.take (.datagram bytes)).Undisturbed (h.relieved d.socket rest)
        (deliver Host.notify (d.handle bytes).1.evicts (d.handle bytes).2
          (h.relieved d.socket rest) (d.handle bytes).1.registry).1 :=
      undisturbed_deliver fun _ => idle_of_mem_handle
    rw [← undisturbed.outlook key]
    -- The registry is the one that the datagram makes, less those whom the daemon forgets.
    exact has_after_mono (fun k => has_deliver _ _ _ _ _) _ hHas

end Daemon
end RingBus
