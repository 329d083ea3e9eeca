import RingBus.Proofs.Discovery.Introductions
import RingBus.Proofs.Discovery.Requests

/-!
# A delivery evicts exactly the unreachable

The registry changes in the middle of a delivery, while the notifications that are still to be sent
were computed from its earlier state. Still every notification goes out once and in its turn, and
what is left of the registry depends on nothing but the set of endpoints at which nobody was found.

* `Sent.FindsNobody`: the answers of the kernel that cost an endpoint its place.
* `Registry.sparing`: a registry without everyone at some endpoints, all of them removed at once.
* `Daemon.via`, `Daemon.recorded`: any sockets, and the same ones with a record of what was sent.
* `Daemon.Delivers`: what a delivery does, in terms of its record.
-/

namespace RingBus

/-- There is no file at the endpoint, or nobody listens there. -/
def Sent.FindsNobody (s : Sent) : Prop :=
  s = .failed (.kernel .noEntry) ∨ s = .failed (.kernel .refused)

instance : DecidablePred Sent.FindsNobody :=
  fun _ => inferInstanceAs (Decidable (_ ∨ _))

theorem Outcome.ofSent_eq_unreachable_iff {s : Sent} :
    ofSent s = .unreachable ↔ s.FindsNobody := by
  rw [Sent.FindsNobody]
  cases s with
  | delivered => simp [ofSent]
  | queueFull => simp [ofSent]
  | failed e =>
    cases e with
    | kernel errno => cases errno <;> simp [ofSent]
    | unusable _ _ => simp [ofSent]
    | custom _ _ => simp [ofSent]

/-! ## Removing many endpoints -/

/-- The participants at none of some endpoints. -/
def Listing.sparing (gone : List Endpoint) (l : List Participant) : List Participant :=
  l.filter fun p => decide (∀ e ∈ gone, e.key ≠ p.endpoint.key)

/-- Endpoints may be taken off one by one. -/
theorem Listing.sparing_without (e : Endpoint) (gone : List Endpoint) (l : List Participant) :
    sparing gone (without e l) = sparing (e :: gone) l := by
  rw [sparing, without_eq_filter, List.filter_filter]
  apply List.filter_congr
  intro p _
  rw [Bool.eq_iff_iff, Bool.and_eq_true, decide_eq_true_iff, decide_eq_true_iff,
    decide_eq_true_iff, List.forall_mem_cons]
  exact and_comm.trans (and_congr_left' ne_comm)

theorem Listing.sparing_nil (l : List Participant) : sparing [] l = l := by
  simp [sparing]

namespace Service

variable {services : List Service} {gone gone' : List Endpoint} {e : Endpoint}

/-- The service without everyone at some endpoints. -/
def sparing (gone : List Endpoint) (s : Service) : Service :=
  { s with participants := Listing.sparing gone s.participants }

/-- Whether anybody is left under the key. -/
def isKept (s : Service) : Bool :=
  !s.participants.isEmpty

/-- The services without everyone at some endpoints. A key goes with its last participant. -/
def spare (gone : List Endpoint) (services : List Service) : List Service :=
  (services.map (sparing gone)).filter isKept

theorem Apart.spare (h : Apart services) (gone : List Endpoint) : Apart (spare gone services) :=
  List.Pairwise.filter _ (List.pairwise_map.mpr h)

theorem spare_nil (kept : ∀ s ∈ services, s.participants ≠ []) : spare [] services = services := by
  have hSame : services.map (sparing []) = services := by
    refine (List.map_congr_left fun s _ => ?_).trans (List.map_id services)
    rw [sparing, Listing.sparing_nil, id]
  rw [spare, hSame]
  apply List.filter_eq_self.mpr
  intro s hs
  simpa [isKept] using kept s hs

/-- Removing one endpoint and then others is removing all of them. -/
theorem spare_without :
    spare gone ((services.map (without e)).filter isKept) = spare (e :: gone) services := by
  have hTwice : sparing gone ∘ without e = sparing (e :: gone) := by
    funext s
    simp only [Function.comp_apply, sparing, without, Listing.sparing_without]
  -- A key that goes with the first endpoint would have gone with the others as well.
  have hGone : ∀ s : Service,
      ((s.without e).sparing gone).isKept = true → (s.without e).isKept = true := by
    intro s hKept
    cases hLeft : (s.without e).participants with
    | nil => simp [isKept, sparing, Listing.sparing, hLeft] at hKept
    | cons p rest => simp [isKept, hLeft]
  have hFirst : (services.map (without e)).filter isKept =
      (services.filter (isKept ∘ without e)).map (without e) := List.filter_map
  calc spare gone ((services.map (without e)).filter isKept)
    _ = ((services.filter (isKept ∘ without e)).map (sparing gone ∘ without e)).filter isKept := by
        rw [spare, hFirst, List.map_map]
    _ = (services.filter fun s => ((s.without e).sparing gone).isKept &&
          (s.without e).isKept).map (sparing gone ∘ without e) := by
        rw [List.filter_map, List.filter_filter]
        rfl
    _ = (services.filter (isKept ∘ (sparing gone ∘ without e))).map (sparing gone ∘ without e) := by
        congr 1
        apply List.filter_congr
        intro s _
        rw [Bool.eq_iff_iff, Bool.and_eq_true]
        exact and_iff_left_of_imp (hGone s)
    _ = spare (e :: gone) services := by
        rw [← List.filter_map, hTwice, spare]

end Service

namespace Registry

variable {r : Registry} {key : ServiceKey} {e : Endpoint} {gone gone' : List Endpoint}

/-- The registry without everyone at some endpoints. -/
def sparing (r : Registry) (gone : List Endpoint) : Registry :=
  ⟨Service.spare gone r.services, r.apart.spare gone⟩

theorem eq_of_services {r r' : Registry} : r.services = r'.services → r = r' := by
  intro h
  cases r
  cases r'
  cases h
  rfl

theorem sparing_nil (kept : r.Kept) : r.sparing [] = r :=
  eq_of_services (Service.spare_nil kept)

theorem sparing_evict : (r.evict e).sparing gone = r.sparing (e :: gone) :=
  eq_of_services Service.spare_without

/-- Only the paths that are evicted count, not their spelling or order. -/
theorem sparing_congr (h : ∀ k, (∃ e ∈ gone, e.key = k) ↔ ∃ e ∈ gone', e.key = k) :
    r.sparing gone = r.sparing gone' := by
  have hListing : ∀ l, Listing.sparing gone l = Listing.sparing gone' l := by
    intro l
    apply List.filter_congr
    intro p _
    have hSame := not_congr (h p.endpoint.key)
    simpa using hSame
  have hService : Service.sparing gone = Service.sparing gone' := by
    funext s
    rw [Service.sparing, Service.sparing, hListing]
  apply eq_of_services
  change Service.spare gone r.services = Service.spare gone' r.services
  rw [Service.spare, Service.spare, hService]

/-- Endpoint after endpoint, in whatever order, comes to the same as all at once. -/
theorem evict_foldl (kept : r.Kept) : gone.foldl Registry.evict r = r.sparing gone := by
  induction gone generalizing r with
  | nil => exact (sparing_nil kept).symm
  | cons e gone ih => rw [List.foldl_cons, ih kept_evict, sparing_evict]

/-- The registry never keeps a key without participants, whoever is evicted. -/
theorem kept_sparing : (r.sparing gone).Kept := by
  intro s hs
  simpa [Service.isKept] using (List.mem_filter.mp hs).2

/-- Under each key, those remain who were not evicted. -/
theorem peers_sparing (kept : r.Kept) :
    (r.sparing gone).peers key = Listing.sparing gone (r.peers key) := by
  induction gone generalizing r with
  | nil => rw [sparing_nil kept, Listing.sparing_nil]
  | cons e gone ih => rw [← sparing_evict, ih kept_evict, peers_evict, Listing.sparing_without]

theorem kept_after (actions : List Action) : r.Kept → (r.after actions).Kept := by
  intro kept
  induction actions generalizing r with
  | nil => exact kept
  | cons a rest ih => exact ih (kept.act a)

end Registry

namespace Daemon

variable {σ : Type} {r : Registry} {ns : List Notification} {state : σ}

/-! ## Sockets and their record -/

/-- Sending over sockets that answer like the kernel. -/
def via (transmit : σ → Notification → σ × Sent) (state : σ) (n : Notification) : σ × Outcome :=
  ((transmit state n).1, .ofSent (transmit state n).2)

/-- The same sockets, with a record of what was sent and what became of it. -/
def recorded (transmit : σ → Notification → σ × Sent) (w : σ × List (Notification × Sent))
    (n : Notification) : (σ × List (Notification × Sent)) × Sent :=
  (((transmit w.1 n).1, w.2 ++ [(n, (transmit w.1 n).2)]), (transmit w.1 n).2)

/-- Sockets whose answers are settled beforehand. -/
def scripted (answers : List Sent) (_ : Notification) : List Sent × Sent :=
  (answers.tail, answers.headD .delivered)

/-- Each notification, and what becomes of it when all of them are sent. -/
def attempts (transmit : σ → Notification → σ × Sent) :
    List Notification → σ → List (Notification × Sent)
  | [], _ => []
  | n :: rest, state => (n, (transmit state n).2) :: attempts transmit rest (transmit state n).1

/-- Nobody was found when something was sent to an endpoint, under whatever spelling. -/
def Missed (record : List (Notification × Sent)) (k : Path.Key) : Prop :=
  ∃ a ∈ record, a.2.FindsNobody ∧ a.1.recipient.key = k

instance (record : List (Notification × Sent)) : DecidablePred (Missed record) :=
  fun _ => inferInstanceAs (Decidable (∃ a ∈ record, _ ∧ _))

/-- The endpoints at which nobody was found, in the order in which that came out. -/
def missed (record : List (Notification × Sent)) : List Endpoint :=
  (record.filter fun a => decide a.2.FindsNobody).map (·.1.recipient)

/-- The endpoints to be evicted are those that a notification missed. -/
theorem exists_mem_missed_iff {record : List (Notification × Sent)} {k : Path.Key} :
    (∃ e ∈ missed record, e.key = k) ↔ Missed record k := by
  constructor
  · rintro ⟨e, he, hKey⟩
    obtain ⟨a, ha, rfl⟩ := List.mem_map.mp he
    obtain ⟨hMem, hNobody⟩ := List.mem_filter.mp ha
    exact ⟨a, hMem, of_decide_eq_true hNobody, hKey⟩
  · rintro ⟨a, hMem, hNobody, hKey⟩
    exact ⟨a.1.recipient,
      List.mem_map_of_mem (List.mem_filter.mpr ⟨hMem, decide_eq_true hNobody⟩), hKey⟩

section

variable (transmit : σ → Notification → σ × Sent)

/-- Each notification is attempted once, in order. -/
theorem map_fst_attempts (ns : List Notification) (state : σ) :
    (attempts transmit ns state).map Prod.fst = ns := by
  induction ns generalizing state with
  | nil => rfl
  | cons n rest ih => rw [attempts, List.map_cons, ih]

/-- Every assignment of answers to the notifications comes from some sockets. -/
theorem attempts_scripted (answers : List Sent) :
    answers.length = ns.length → attempts scripted ns answers = ns.zip answers := by
  intro hLength
  induction ns generalizing answers with
  | nil => rfl
  | cons n rest ih =>
    cases answers with
    | nil => cases hLength
    | cons answer answers =>
      rw [attempts, List.zip_cons_cons]
      exact congrArg _ (ih answers (Nat.succ.inj hLength))

/-- Keeping a record changes nothing, and the record is of all the attempts. -/
theorem deliver_recorded (evicts : Bool) (log : List (Notification × Sent)) :
    deliver (via (recorded transmit)) evicts ns (state, log) r =
      (((deliver (via transmit) evicts ns state r).1, log ++ attempts transmit ns state),
        (deliver (via transmit) evicts ns state r).2) := by
  induction ns generalizing state log r with
  | nil => rw [attempts, List.append_nil]; rfl
  | cons n rest ih =>
    rw [attempts, List.append_cons]
    exact ih _

/-- The registry loses one endpoint after the other, as it comes out that nobody is there. -/
theorem deliver_evicting :
    (deliver (via transmit) true ns state r).2 =
      (missed (attempts transmit ns state)).foldl Registry.evict r := by
  induction ns generalizing state r with
  | nil => rfl
  | cons n rest ih =>
    rw [deliver, attempts]
    by_cases hNobody : (transmit state n).2.FindsNobody
    · simp [ih, via, missed, hNobody, Outcome.ofSent_eq_unreachable_iff]
    · simp [ih, via, missed, hNobody, Outcome.ofSent_eq_unreachable_iff]

end

/-! ## Every delivery -/

/-- What a delivery of `ns` does that is on `record` and takes the registry from `r` to `r'`. -/
structure Delivers (evicts : Bool) (ns : List Notification) (record : List (Notification × Sent))
    (r r' : Registry) : Prop where
  /-- Each of them is sent once and in its turn, whatever became of those before it. -/
  attempted : record.map Prod.fst = ns
  evicted : evicts = true → ∀ key, r'.peers key =
    (r.peers key).filter fun p => decide (¬ Missed record p.endpoint.key)
  kept : r'.Kept
  unchanged : evicts = false ∨ (∀ a ∈ record, ¬ a.2.FindsNobody) → r' = r
  spared : ∀ key, ∀ p ∈ r.peers key,
    (∀ a ∈ record, a.1.recipient.key = p.endpoint.key → ¬ a.2.FindsNobody) → p ∈ r'.peers key

theorem sparing_missed (record : List (Notification × Sent)) (l : List Participant) :
    Listing.sparing (missed record) l =
      l.filter fun p => decide (¬ Missed record p.endpoint.key) := by
  apply List.filter_congr
  intro p _
  rw [Bool.eq_iff_iff, decide_eq_true_iff, decide_eq_true_iff, ← exists_mem_missed_iff]
  simp

/-- A daemon that evicts ends with everyone evicted whom a notification missed. -/
theorem deliver_evicting_eq_sparing (transmit : σ → Notification → σ × Sent) (kept : r.Kept) :
    (deliver (via transmit) true ns state r).2 =
      r.sparing (missed (attempts transmit ns state)) := by
  rw [deliver_evicting, Registry.evict_foldl kept]

/-- Delivery attempts every notification, and evicts whom it missed if the daemon does evict. -/
theorem delivers (transmit : σ → Notification → σ × Sent) (kept : r.Kept) (evicts : Bool) :
    Delivers evicts ns (attempts transmit ns state) r
      (deliver (via transmit) evicts ns state r).2 := by
  cases evicts with
  | false =>
    rw [registry_deliver]
    exact
      { attempted := map_fst_attempts transmit ns state
        evicted := nofun
        kept := kept
        unchanged := fun _ => rfl
        spared := fun _ _ hp _ => hp }
  | true =>
    -- The registry in the end is known, so all that is left is to say it key by key.
    rw [deliver_evicting_eq_sparing transmit kept]
    have hPeers : ∀ key, (r.sparing (missed (attempts transmit ns state))).peers key =
        (r.peers key).filter
          fun p => decide (¬ Missed (attempts transmit ns state) p.endpoint.key) := by
      intro key
      rw [Registry.peers_sparing kept, sparing_missed]
    refine
      { attempted := map_fst_attempts transmit ns state
        evicted := fun _ => hPeers
        kept := Registry.kept_sparing
        unchanged := ?_
        spared := ?_ }
    · rintro (hNever | hFound)
      · cases hNever
      · -- Where everybody was found, nobody is missing, and nobody is removed.
        have hNone : missed (attempts transmit ns state) = [] := by
          simpa [missed] using hFound
        rw [hNone, Registry.sparing_nil kept]
    · intro key p hp hReached
      rw [hPeers, List.mem_filter, decide_eq_true_iff]
      refine ⟨hp, ?_⟩
      rintro ⟨a, ha, hNobody, hKey⟩
      exact hReached a ha hKey hNobody

/-- In whatever registry a delivery begins and whatever becomes of its notifications, every one of
them is attempted, and with eviction exactly those at whose endpoints nobody was found go. It does
not matter when that came out, how often, or on the occasion of which notification. -/
--  false =>|Without eviction both registries are the one before.
theorem evicts_exactly_unreachable (actions : List Registry.Action) (evicts : Bool)
    (ns : List Notification) (transmit : σ → Notification → σ × Sent) (state : σ) :
    let r := Registry.empty.after actions
    let done := deliver (via (recorded transmit)) evicts ns (state, []) r
    Delivers evicts ns done.1.2 r done.2 ∧
      deliver (via transmit) evicts ns state r = (done.1.1, done.2) ∧
      (∀ (τ : Type) (transmit' : τ → Notification → τ × Sent) (state' : τ)
          (ns' : List Notification),
        let done' := deliver (via (recorded transmit')) evicts ns' (state', []) r
        (∀ k, Missed done'.1.2 k ↔ Missed done.1.2 k) → done'.2 = done.2) ∧
      (∀ answers, answers.length = ns.length →
        (deliver (via (recorded scripted)) evicts ns (answers, []) r).1.2 = ns.zip answers) ∧
      Host.notify = via fun h n => h.send n.recipient.text n.message.encode := by
  intro r done
  have kept : r.Kept := Registry.kept_after actions Registry.kept_empty
  -- A delivery that keeps account goes like one that does not, and the account is the list of
  -- attempts.
  have hDone : done = (((deliver (via transmit) evicts ns state r).1, attempts transmit ns state),
      (deliver (via transmit) evicts ns state r).2) := deliver_recorded transmit evicts []
  rw [hDone]
  refine ⟨delivers transmit kept evicts, rfl, ?_, ?_, rfl⟩
  · intro τ transmit' state' ns' done' hSame
    have hDone' : done' = (((deliver (via transmit') evicts ns' state' r).1,
        attempts transmit' ns' state'), (deliver (via transmit') evicts ns' state' r).2) :=
      deliver_recorded transmit' evicts []
    rw [hDone'] at hSame ⊢
    cases evicts with
    | false => exact (registry_deliver _ _ _ _).trans (registry_deliver _ _ _ _).symm
    | true =>
      simp only [deliver_evicting_eq_sparing _ kept]
      -- With eviction each is spared of those who were missed, and these have the same paths.
      apply Registry.sparing_congr
      intro k
      rw [exists_mem_missed_iff, exists_mem_missed_iff]
      exact hSame k
  · intro answers hLength
    rw [deliver_recorded, List.nil_append]
    exact attempts_scripted answers hLength

/-! ### Bob is gone and Ann is slow -/

open Listing.Sample

namespace Sample

/-- Three notifications on the occasion of which something goes wrong. -/
def rounds : List (Notification × Sent) :=
  [(⟨ann.endpoint, ⟨.peer, meeting, bob⟩⟩, .queueFull),
    (⟨bobAgain.endpoint, ⟨.peer, meeting, ann⟩⟩, .failed (.kernel .refused)),
    (⟨ann.endpoint, ⟨.peer, meeting, bobAgain⟩⟩, .failed (.kernel .notDirectory))]

end Sample

/-- Bob loses both his places, although his endpoint was spelled differently. Ann, whom only a full
queue and another failure kept from hearing of him, and Cid stay where they are. -/
theorem evicts_exactly_unreachable_respelled :
    let r := Registry.empty.after Registry.Sample.gathering
    let done := deliver (via (recorded scripted)) true (Sample.rounds.map Prod.fst)
      (Sample.rounds.map Prod.snd, []) r
    done.1.2 = Sample.rounds ∧ done.2.peers meeting = [ann, cid] ∧
      done.2.peers Registry.Sample.elsewhere = [] ∧ done.2.serviceCount = 1 := by
  intro r done
  obtain ⟨hDelivers, -, -, hScripted, -⟩ := evicts_exactly_unreachable Registry.Sample.gathering
    true (Sample.rounds.map Prod.fst) scripted (Sample.rounds.map Prod.snd)
  have hRecord : done.1.2 = Sample.rounds := hScripted _ rfl
  have hEvicted := hDelivers.evicted rfl
  refine ⟨hRecord, ?_, ?_, by rfl⟩
  · exact (hEvicted meeting).trans (by rfl)
  · exact (hEvicted Registry.Sample.elsewhere).trans (by rfl)

end Daemon
end RingBus
