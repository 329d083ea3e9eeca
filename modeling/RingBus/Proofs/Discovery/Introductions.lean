import RingBus.Proofs.Discovery.Isolation

/-!
# Who is introduced to whom

A registration introduces the newcomer to everyone else under its key, and everyone else to the
newcomer. Nobody is introduced twice, and nobody to itself, although endpoints may be spelled in
many ways and whoever registers again is still listed when it does.

* `Registry.distinct_after`: no registry that is ever reached lists an endpoint twice.
* `Registry.addressed_once`, `Registry.named_once`: of all that is sent about a registration, one
  notification goes to each of the others, and one names it.
* `Registry.Introduces`: all that a registration makes the daemon send.
-/

namespace RingBus

theorem Listing.without_eq_filter (e : Endpoint) (l : List Participant) :
    Listing.without e l = l.filter fun q => decide (q.endpoint.key ≠ e.key) := by
  apply List.filter_congr
  intro q _
  rw [Bool.eq_iff_iff, Bool.not_eq_true', Listing.beq_eq_false_iff, decide_eq_true_iff]

namespace Registry

variable {r : Registry} {key : ServiceKey} {p q : Participant} {n : Notification}

/-- Nobody is listed twice after any actions. -/
theorem distinct_after (actions : List Action) :
    (∀ key, Listing.Distinct (r.peers key)) →
      ∀ key, Listing.Distinct ((r.after actions).peers key) := by
  intro h
  induction actions generalizing r with
  | nil => exact h
  | cons a rest ih =>
    apply ih
    intro key
    -- Seen from one key, an action is a move, and every move keeps endpoints apart.
    rw [peers_act]
    exact (a.under key).distinct_apply (h key)

theorem distinct_empty (key : ServiceKey) : Listing.Distinct (empty.peers key) :=
  List.Pairwise.nil

/-! ## What is sent -/

/-- A registration sends the newcomer word of each of the others, and then each of them word of the
newcomer. -/
theorem register_sent :
    (r.register key p).2 =
      (Listing.without p.endpoint (r.peers key)).map (fun q => ⟨p.endpoint, ⟨.peer, key, q⟩⟩) ++
        (Listing.without p.endpoint (r.peers key)).map
          (fun q => ⟨q.endpoint, ⟨.peer, key, p⟩⟩) :=
  rfl

section

variable {l : List Participant} {e : Endpoint} {who : Notification → Endpoint}
  {about : Participant → Notification}

/-- Of notifications about each of the others, one concerns each of them. -/
theorem filter_others (distinct : Listing.Distinct l) (hq : q ∈ Listing.without e l)
    (hWho : ∀ q', who (about q') = q'.endpoint) :
    ((Listing.without e l).map about).filter (fun n => who n == q.endpoint) = [about q] := by
  have hOnce := (distinct.without e).filter_eq_singleton hq
  rw [List.filter_map]
  simp only [Function.comp_def, hWho, hOnce, List.map_cons, List.map_nil]

/-- Notifications that concern the newcomer concern none of the others. -/
theorem filter_newcomer (hq : q ∈ Listing.without e l) (hWho : ∀ q', who (about q') = e) :
    ((Listing.without e l).map about).filter (fun n => who n == q.endpoint) = [] := by
  have hOther : (e == q.endpoint) = false :=
    Listing.beq_eq_false_iff.mpr (Listing.mem_without.mp hq).2.symm
  rw [List.filter_map]
  simp only [Function.comp_def, hWho, hOther, List.filter_false, List.map_nil]

end

/-- Each of the others is sent one notification, about the newcomer. -/
theorem addressed_once (distinct : Listing.Distinct (r.peers key)) :
    q ∈ Listing.without p.endpoint (r.peers key) →
      (r.register key p).2.filter (·.recipient == q.endpoint) =
        [⟨q.endpoint, ⟨.peer, key, p⟩⟩] := by
  intro hq
  -- What is replayed goes to the newcomer alone, so only what is announced is left.
  rw [register_sent, List.filter_append, filter_newcomer hq fun _ => rfl,
    filter_others distinct hq fun _ => rfl]
  rfl

/-- Each of the others is named in one notification, to the newcomer. -/
theorem named_once (distinct : Listing.Distinct (r.peers key)) :
    q ∈ Listing.without p.endpoint (r.peers key) →
      (r.register key p).2.filter (·.message.participant.endpoint == q.endpoint) =
        [⟨p.endpoint, ⟨.peer, key, q⟩⟩] := by
  intro hq
  -- What is announced names the newcomer alone, so only what is replayed is left.
  rw [register_sent, List.filter_append, filter_others distinct hq fun _ => rfl,
    filter_newcomer hq fun _ => rfl]
  rfl

/-- Nobody hears of itself, however it spells its endpoint. -/
theorem recipient_ne_named :
    n ∈ (r.register key p).2 → n.recipient.key ≠ n.message.participant.endpoint.key := by
  intro hn
  rw [register_sent] at hn
  rcases List.mem_append.mp hn with hReplayed | hAnnounced
  · obtain ⟨q, hq, rfl⟩ := List.mem_map.mp hReplayed
    exact (Listing.mem_without.mp hq).2.symm
  · obtain ⟨q, hq, rfl⟩ := List.mem_map.mp hAnnounced
    exact (Listing.mem_without.mp hq).2

/-- Registrations send nothing but word of peers. -/
theorem command_of_mem_register : n ∈ (r.register key p).2 → n.message.command = .peer := by
  intro hn
  obtain ⟨-, q, -, hNotification⟩ := mem_handle_iff (m := ⟨.register, key, p⟩).mp hn
  rcases hNotification with rfl | rfl <;> rfl

/-! ## Every registration -/

/-- What is `sent` when `p` registers under a key where it finds `others`, and `r` is the registry
afterwards: first the newcomer hears of each of them, then each of them hears of the newcomer. -/
structure Introduces (key : ServiceKey) (p : Participant) (others : List Participant)
    (r : Registry) (sent : List Notification) : Prop where
  length : sent.length = 2 * others.length
  replayed : sent.take others.length = others.map fun q => ⟨p.endpoint, ⟨.peer, key, q⟩⟩
  announced : sent.drop others.length = others.map fun q => ⟨q.endpoint, ⟨.peer, key, p⟩⟩
  addressed : ∀ q ∈ others,
    sent.filter (·.recipient == q.endpoint) = [⟨q.endpoint, ⟨.peer, key, p⟩⟩]
  named : ∀ q ∈ others,
    sent.filter (·.message.participant.endpoint == q.endpoint) = [⟨p.endpoint, ⟨.peer, key, q⟩⟩]
  apart : ∀ n ∈ sent, n.recipient.key ≠ n.message.participant.endpoint.key
  /-- Both ends are listed afterwards under this very key, spelled as in the notification. -/
  together : ∀ n ∈ sent, n.message.command = .peer ∧ n.message.key = key ∧ r.Together n
  /-- The others are all who are listed afterwards beside the newcomer. -/
  others_iff : ∀ q, q ∈ others ↔ q ∈ r.peers key ∧ q.endpoint.key ≠ p.endpoint.key

/-- A registration introduces the newcomer and the others to each other. -/
theorem introduces (distinct : Listing.Distinct (r.peers key)) (p : Participant) :
    Introduces key p (Listing.without p.endpoint (r.peers key)) (r.register key p).1
      (r.register key p).2 where
  length := by
    rw [register_sent, List.length_append, List.length_map, List.length_map, Nat.two_mul]
  replayed := by
    rw [register_sent, List.take_left' (List.length_map _)]
  announced := by
    rw [register_sent, List.drop_left' (List.length_map _)]
  addressed := fun _ => addressed_once distinct
  named := fun _ => named_once distinct
  apart := fun _ => recipient_ne_named
  together := by
    intro n hn
    obtain ⟨hKey, hTogether⟩ := together_of_mem_handle (m := ⟨.register, key, p⟩) hn
    exact ⟨command_of_mem_register hn, hKey, hTogether⟩
  others_iff := by
    intro q
    -- The newcomer is listed now, but does not count among the others.
    have hListed : (r.register key p).1.peers key = Listing.enlist p (r.peers key) :=
      peers_handle_register key p
    rw [hListed, Listing.mem_enlist distinct, Listing.mem_without]
    constructor
    · rintro ⟨hMem, hOther⟩
      exact ⟨.inr ⟨hMem, hOther⟩, hOther⟩
    · rintro ⟨rfl | hBefore, hOther⟩
      · exact absurd rfl hOther
      · exact hBefore

/-- In whatever registry a participant registers, it and the others under the key are introduced to
each other exactly once, in the order in which the others registered. -/
theorem introduces_everyone (actions : List Action) (key : ServiceKey) (p : Participant) :
    let r := empty.after actions
    Introduces key p ((r.peers key).filter fun q => decide (q.endpoint.key ≠ p.endpoint.key))
      (r.register key p).1 (r.register key p).2 := by
  intro r
  rw [← Listing.without_eq_filter]
  exact introduces (distinct_after actions distinct_empty key) p

/-! ### Bob comes back under another spelling -/

open Listing.Sample

namespace Sample

/-- Bob is between Ann and Cid, and under another key as well. -/
def gathering : List Action :=
  [.register meeting ann, .register meeting bob, .register elsewhere bob, .register meeting cid]

end Sample

/-- Cid hears of Bob once, and is named to Bob once. -/
theorem introduces_everyone_rejoined :
    let sent := ((empty.after Sample.gathering).register meeting bobAgain).2
    sent.length = 4 ∧
      sent.filter (·.recipient == cid.endpoint) =
        [⟨cid.endpoint, ⟨.peer, meeting, bobAgain⟩⟩] ∧
      sent.filter (·.message.participant.endpoint == cid.endpoint) =
        [⟨bobAgain.endpoint, ⟨.peer, meeting, cid⟩⟩] := by
  have hAll := introduces_everyone Sample.gathering meeting bobAgain
  dsimp only at hAll
  -- Bob himself stands between the two, under the spelling that he used before.
  have hOthers : ((empty.after Sample.gathering).peers meeting).filter
      (fun q => decide (q.endpoint.key ≠ bobAgain.endpoint.key)) = [ann, cid] := by
    rfl
  have hCid : cid ∈ [ann, cid] := .tail _ (.head _)
  rw [hOthers] at hAll
  exact ⟨hAll.length, hAll.addressed cid hCid, hAll.named cid hCid⟩

end Registry
end RingBus
