import RingBus.Proofs.Discovery.History
import RingBus.Proofs.Discovery.RoundTrip

/-!
# Whom a forgetful daemon still announces

What has to be sent about a datagram is settled before the first notification goes out, and every
notification that finds nobody takes its recipient off the registry. So the registry at the moment
of a notification may no longer list whom the notification names.

* `Daemon.attend`: one datagram is acted on and its notifications are sent, over any world that
  tells what becomes of each of them.
* `Daemon.midway`, `Daemon.SendsAt`: the moments at which the notifications about a datagram go
  out.
* `Daemon.mem_peers_midway`: who is still listed at such a moment.
-/

namespace RingBus

/-- The registry lists whom the notification names, under the key that it names. -/
def Notification.Truthful (n : Notification) (r : Registry) : Prop :=
  n.message.participant ∈ r.peers n.message.key

namespace Listing

variable {l : List Participant} {p q : Participant}

/-- Whoever registers is listed. -/
theorem mem_enlist_self : p ∈ enlist p l := by
  induction l with
  | nil => exact .head _
  | cons q rest ih =>
    unfold enlist
    split
    · exact .head _
    · exact .tail _ ih

/-- Whoever else was listed remains so after a registration. -/
theorem mem_enlist_of_mem_without : q ∈ without p.endpoint l → q ∈ enlist p l := by
  intro h
  obtain ⟨hMem, hOther⟩ := mem_without.mp h
  -- Enlisting replaces at most the entry of its own endpoint, which is not this one.
  induction l with
  | nil => cases hMem
  | cons r rest ih =>
    unfold enlist
    split
    next hSame =>
      rcases List.mem_cons.mp hMem with rfl | hBehind
      · exact absurd (Endpoint.beq_iff.mp hSame) hOther
      · exact .tail _ hBehind
    next =>
      rcases List.mem_cons.mp hMem with rfl | hBehind
      · exact .head _
      · exact .tail _ (ih (mem_without.mpr ⟨hBehind, hOther⟩) hBehind)

end Listing

/-! ## Before anything is sent -/

namespace Registry

variable {r : Registry} {m : Message} {n : Notification}

theorem peers_handle_register (key : ServiceKey) (p : Participant) :
    (r.handle ⟨.register, key, p⟩).1.peers key = Listing.enlist p (r.peers key) :=
  peers_put_same

/-- At first the registry lists everyone who is named. -/
theorem truthful_of_mem_handle : n ∈ (r.handle m).2 → n.Truthful (r.handle m).1 := by
  intro h
  obtain ⟨hRegister, q, hq, hn⟩ := mem_handle_iff.mp h
  rcases m with ⟨_, key, p⟩
  cases hRegister
  rcases hn with rfl | rfl
  · -- The newcomer hears of somebody who was there before.
    rw [Notification.Truthful, peers_handle_register]
    exact Listing.mem_enlist_of_mem_without hq
  · -- Somebody hears of the newcomer.
    rw [Notification.Truthful, peers_handle_register]
    exact Listing.mem_enlist_self

end Registry

namespace Daemon

variable {σ : Type} (send : σ → Notification → σ × Outcome)

/-! ## One datagram after the other -/

/-- Acts on one datagram and sends what has to be sent. -/
def attend (w : σ × Daemon) (datagram : ByteArray) : σ × Daemon :=
  let (d, notifications) := w.2.handle datagram
  let (state, registry) := deliver send d.evicts notifications w.1 d.registry
  (state, { d with registry })

/-- The state and the daemon after it attended to some datagrams, one after the other. -/
def attendAll (w : σ × Daemon) (datagrams : List ByteArray) : σ × Daemon :=
  datagrams.foldl (attend send) w

/-- Serving a datagram is attending to it with the sockets of the host. -/
theorem serveNext?_eq_attend (d : Daemon) (h : Host) :
    d.serveNext? h = (h.receive? d.socket Datagram.bufferSize).map fun received =>
      (attend Host.notify (received.1, d) received.2).swap := by
  unfold serveNext?
  cases h.receive? d.socket Datagram.bufferSize with
  | none => rfl
  | some received => rfl

theorem evicts_handle (d : Daemon) (datagram : ByteArray) :
    (d.handle datagram).1.evicts = d.evicts := by
  obtain ⟨_, hHandle⟩ := exists_handle d datagram
  rw [hHandle]

/-- Nothing that is attended to changes whether a daemon evicts. -/
theorem evicts_attendAll (w : σ × Daemon) (datagrams : List ByteArray) :
    (attendAll send w datagrams).2.evicts = w.2.evicts := by
  induction datagrams generalizing w with
  | nil => rfl
  | cons datagram rest ih => exact (ih (attend send w datagram)).trans (evicts_handle _ _)

/-! ## The moments of a delivery -/

/-- The world and the registry after the first `i` notifications about a datagram were sent. -/
def midway (w : σ × Daemon) (datagram : ByteArray) (i : Nat) : σ × Registry :=
  let (d, notifications) := w.2.handle datagram
  deliver send d.evicts (notifications.take i) w.1 d.registry

/-- The notification number `i` about a datagram, and what sending it comes to. -/
def SendsAt (w : σ × Daemon) (datagram : ByteArray) (i : Nat) (n : Notification)
    (outcome : Outcome) : Prop :=
  (w.2.handle datagram).2[i]? = some n ∧ (send (midway send w datagram i).1 n).2 = outcome

/-- Delivering two lists of notifications is delivering the second after the first. -/
theorem deliver_append (evicts : Bool) (before after : List Notification) (state : σ)
    (r : Registry) :
    deliver send evicts (before ++ after) state r =
      deliver send evicts after (deliver send evicts before state r).1
        (deliver send evicts before state r).2 := by
  induction before generalizing state r with
  | nil => rfl
  | cons n rest ih => exact ih _ _

variable {send} {w : σ × Daemon} {datagram : ByteArray} {i : Nat} {n : Notification}
  {outcome : Outcome} {key : ServiceKey} {p : Participant}

theorem midway_zero :
    midway send w datagram 0 = (w.1, (w.2.handle datagram).1.registry) :=
  rfl

/-- The next send goes on from where the sends before it left the registry. -/
theorem midway_succ (hAt : (w.2.handle datagram).2[i]? = some n) :
    midway send w datagram (i + 1) =
      deliver send w.2.evicts [n] (midway send w datagram i).1 (midway send w datagram i).2 := by
  simp only [midway, List.take_add_one, hAt, Option.toList_some, deliver_append, evicts_handle]

/-- One notification takes its recipient off the registry if it finds nobody. -/
theorem mem_peers_deliver_singleton {state : σ} {r : Registry} :
    p ∈ (deliver send true [n] state r).2.peers key ↔
      p ∈ r.peers key ∧
        ((send state n).2 = .unreachable → n.recipient.key ≠ p.endpoint.key) := by
  simp only [deliver, Bool.true_and]
  by_cases hOutcome : (send state n).2 = .unreachable
  · rw [if_pos (beq_iff_eq.mpr hOutcome), Registry.peers_evict, Listing.mem_without, ne_comm,
      forall_prop_of_true hOutcome]
  · rw [if_neg (mt beq_iff_eq.mp hOutcome), forall_prop_of_false hOutcome, and_true]

/-- Somebody is still listed at a moment of the delivery if no notification to it found nobody. -/
theorem mem_peers_midway (hEvicts : w.2.evicts = true)
    (hLength : i ≤ (w.2.handle datagram).2.length) :
    p ∈ (midway send w datagram i).2.peers key ↔
      p ∈ (w.2.handle datagram).1.registry.peers key ∧
        ∀ j < i, ∀ n, SendsAt send w datagram j n .unreachable →
          n.recipient.key ≠ p.endpoint.key := by
  -- On the number of notifications sent so far; each one costs its recipient the place at most.
  induction i with
  | zero =>
    rw [midway_zero]
    exact (and_iff_left fun j hj => absurd hj (Nat.not_lt_zero j)).symm
  | succ i ih =>
    have hAt : (w.2.handle datagram).2[i]? = some _ := List.getElem?_eq_getElem hLength
    rw [midway_succ hAt, hEvicts, mem_peers_deliver_singleton, ih (Nat.le_of_succ_le hLength),
      and_assoc, and_congr_right_iff]
    intro hListed
    constructor
    · rintro ⟨hBefore, hNow⟩ j hj n hSends
      rcases Nat.lt_succ_iff_lt_or_eq.mp hj with hj | rfl
      · exact hBefore j hj n hSends
      · -- The notification of this moment is the one that stands here.
        obtain rfl : _ = n := Option.some.inj (hAt.symm.trans hSends.1)
        exact hNow hSends.2
    · intro h
      exact ⟨fun j hj => h j (Nat.lt_succ_of_lt hj),
        fun hOutcome => h i (Nat.lt_succ_self i) _ ⟨hAt, hOutcome⟩⟩

/-! ## Who is announced -/

/-- Every notification names somebody whom the registry lists when all are still to be sent. -/
theorem truthful_of_mem_handle {d : Daemon} :
    n ∈ (d.handle datagram).2 → n.Truthful (d.handle datagram).1.registry := by
  intro h
  cases hParse : Datagram.parse datagram with
  | ok m =>
    rw [handle_of_ok hParse] at h ⊢
    exact Registry.truthful_of_mem_handle h
  | error _ =>
    rw [handle_of_error hParse] at h
    cases h

/-- Whatever goes out about a datagram goes out because a participant registered with it. Before
the first notification that names the newcomer, all go to the newcomer. -/
theorem newcomer_of_mem_handle {d : Daemon} :
    n ∈ (d.handle datagram).2 →
      ∃ p, Datagram.parse datagram = .ok ⟨.register, n.message.key, p⟩ ∧
        (d.handle datagram).2.Pairwise fun m n =>
          n.message.participant = p ∨
            m.recipient = p.endpoint ∧ n.message.participant.endpoint.key ≠ p.endpoint.key := by
  intro h
  cases hParse : Datagram.parse datagram with
  | error _ =>
    rw [handle_of_error hParse] at h
    cases h
  | ok m =>
    rw [handle_of_ok hParse] at h ⊢
    obtain ⟨hRegister, q, -, hn⟩ := Registry.mem_handle_iff.mp h
    rcases m with ⟨_, key, p⟩
    cases hRegister
    have hKey : n.message.key = key := by
      rcases hn with rfl | rfl <;> rfl
    refine ⟨p, by rw [hKey], List.pairwise_append.mpr ⟨?_, ?_, ?_⟩⟩
    · -- Two notifications to the newcomer.
      refine List.pairwise_map.mpr (List.pairwise_of_forall_mem_list ?_)
      intro _ _ q hq
      exact .inr ⟨rfl, (Listing.mem_without.mp hq).2⟩
    · exact List.pairwise_map.mpr (List.pairwise_of_forall_mem_list fun _ _ _ _ => .inl rfl)
    · -- The second one is to another participant, so it names the newcomer.
      intro m _ n hn
      obtain ⟨q, -, rfl⟩ := List.mem_map.mp hn
      exact .inl rfl

/-- Over every course of a daemon that forgets, with every reachability of the endpoints: a
notification names somebody who is listed at that moment, but for one case. The participant that
just registered is still announced after a notification to it found nobody. -/
theorem announced_iff_reached (d : Daemon) (hEvicts : d.evicts = true) (state : σ)
    (datagrams : List ByteArray) (datagram : ByteArray) (i : Nat) (n : Notification)
    (outcome : Outcome) :
    let w := attendAll send (state, d) datagrams
    SendsAt send w datagram i n outcome →
      (n.Truthful (midway send w datagram i).2 ↔
        ¬ ∃ j < i, ∃ m, SendsAt send w datagram j m .unreachable ∧
          (m.recipient == n.message.participant.endpoint) = true) ∧
      (¬ n.Truthful (midway send w datagram i).2 →
        Datagram.parse datagram = .ok ⟨.register, n.message.key, n.message.participant⟩) := by
  intro w hSends
  have hForgets : w.2.evicts = true := (evicts_attendAll send (state, d) datagrams).trans hEvicts
  obtain ⟨hLength, hAt⟩ := List.getElem?_eq_some_iff.mp hSends.1
  have hMem : n ∈ (w.2.handle datagram).2 := hAt ▸ List.getElem_mem hLength
  have hFirst : n.message.participant ∈
      (w.2.handle datagram).1.registry.peers n.message.key := truthful_of_mem_handle hMem
  have hIff : n.Truthful (midway send w datagram i).2 ↔
      ¬ ∃ j < i, ∃ m, SendsAt send w datagram j m .unreachable ∧
        (m.recipient == n.message.participant.endpoint) = true := by
    rw [Notification.Truthful, mem_peers_midway hForgets hLength.le,
      and_iff_right hFirst]
    simp only [Endpoint.beq_iff, not_exists, not_and, ne_eq]
  refine ⟨hIff, ?_⟩
  intro hNot
  -- An earlier notification to the same participant was lost; compare the two by their order.
  obtain ⟨j, hj, m, hLost, hSame⟩ := not_not.mp (mt hIff.mpr hNot)
  obtain ⟨p, hParse, hOrder⟩ := newcomer_of_mem_handle hMem
  obtain ⟨hLength', hAt'⟩ := List.getElem?_eq_some_iff.mp hLost.1
  have hPair := List.pairwise_iff_getElem.mp hOrder j i hLength' hLength hj
  rw [hAt, hAt'] at hPair
  rcases hPair with hNewcomer | ⟨hTo, hOther⟩
  · rw [hParse, hNewcomer]
  · -- What was lost went to the newcomer, so it is the newcomer that is named.
    rw [hTo, Endpoint.beq_iff] at hSame
    exact absurd hSame.symm hOther

/-! ### Bob registers from nowhere -/

open Listing.Sample

/-- A daemon that forgets, and Ann with a socket. Bob has none. -/
def absence : Host × Daemon :=
  let (h, _) := (Host.fresh []).takeOver desk.text
  ((h.takeOver ann.endpoint.text).1, ⟨0, desk, Registry.empty, true⟩)

/-- The registration of a participant, in writing. -/
def registration (p : Participant) : ByteArray :=
  (⟨.register, meeting, p⟩ : Message).encode

theorem attendAll_absence :
    attendAll Host.notify absence [registration ann] =
      (absence.1, (absence.2.handle (registration ann)).1) := by
  have hHandle := handle_of_ok (d := absence.2) (Message.parse_encode ⟨.register, meeting, ann⟩)
  rw [attendAll, List.foldl_cons, List.foldl_nil, attend, registration, hHandle]
  rfl

theorem handle_absence :
    (((absence.2.handle (registration ann)).1).handle (registration bob)).2 =
      [⟨bob.endpoint, ⟨.peer, meeting, ann⟩⟩, ⟨ann.endpoint, ⟨.peer, meeting, bob⟩⟩] := by
  rw [registration, handle_of_ok (Message.parse_encode _), registration,
    handle_of_ok (Message.parse_encode _)]
  rfl

theorem sendsAt_absence_zero :
    SendsAt Host.notify (attendAll Host.notify absence [registration ann]) (registration bob) 0
      ⟨bob.endpoint, ⟨.peer, meeting, ann⟩⟩ .unreachable := by
  rw [attendAll_absence]
  refine ⟨by rw [handle_absence]; rfl, ?_⟩
  rw [midway_zero]
  decide

theorem sendsAt_absence_one :
    SendsAt Host.notify (attendAll Host.notify absence [registration ann]) (registration bob) 1
      ⟨ann.endpoint, ⟨.peer, meeting, bob⟩⟩ .sent := by
  rw [attendAll_absence]
  have hFirst : (absence.2.handle (registration ann)).1.handle (registration bob) |>.2[0]? =
      some ⟨bob.endpoint, ⟨.peer, meeting, ann⟩⟩ := by
    rw [handle_absence]
    rfl
  refine ⟨by rw [handle_absence]; rfl, ?_⟩
  rw [midway_succ hFirst, midway_zero]
  decide

/-- Ann hears of Bob at a moment at which Bob is no longer listed. -/
theorem not_always_truthful :
    ¬ ∀ (h : Host) (socket : Nat) (endpoint : Endpoint) (datagrams : List ByteArray)
        (datagram : ByteArray) (i : Nat) (n : Notification),
      let w := attendAll Host.notify (h, ⟨socket, endpoint, Registry.empty, true⟩) datagrams
      SendsAt Host.notify w datagram i n .sent →
        n.Truthful (midway Host.notify w datagram i).2 := by
  intro hAlways
  -- The notification to Bob, number 0, found nobody; number 1 goes to Ann all the same.
  have hListed := hAlways absence.1 absence.2.socket absence.2.endpoint [registration ann]
    (registration bob) 1 _ sendsAt_absence_one
  have hLength : 1 ≤ ((attendAll Host.notify absence [registration ann]).2.handle
      (registration bob)).2.length := by
    rw [attendAll_absence, handle_absence]
    decide
  have hForgets : (attendAll Host.notify absence [registration ann]).2.evicts = true :=
    evicts_attendAll _ _ _
  exact ((mem_peers_midway hForgets hLength).mp hListed).2 0 Nat.one_pos _ sendsAt_absence_zero rfl

/-- It is Bob who is announced unlisted, and because nobody was found at his endpoint. -/
theorem announced_iff_reached_absence :
    let w := attendAll Host.notify absence [registration ann]
    SendsAt Host.notify w (registration bob) 1 ⟨ann.endpoint, ⟨.peer, meeting, bob⟩⟩ .sent ∧
      ¬ Notification.Truthful ⟨ann.endpoint, ⟨.peer, meeting, bob⟩⟩
        (midway Host.notify w (registration bob) 1).2 := by
  intro w
  refine ⟨sendsAt_absence_one, ?_⟩
  intro hListed
  have hReached := (announced_iff_reached absence.2 rfl absence.1
    [registration ann] (registration bob) 1 _ .sent sendsAt_absence_one).1.mp hListed
  exact hReached ⟨0, Nat.one_pos, _, sendsAt_absence_zero, Endpoint.beq_iff.mpr rfl⟩

end Daemon
end RingBus
