import RingBus.Proofs.Discovery.Quiescence

/-!
# Clients and daemon agree

Clients remember where they are registered, and the daemon lists them. The two are linked by
datagrams only, which may wait while other clients call and the daemon serves.

* `Assembly.Step`: one call of a client, one datagram served, or something elsewhere on the host.
  While a client withdraws from all keys, others may act between its requests.
* `Assembly.Orderly`: what the clients remember is the outlook of the daemon.
* `Assembly.Withdrawn`: a client has set out to withdraw from all keys and not registered since.
* `Assembly.run_deregisterAll`: withdrawing from all keys in one go is such a run, too.
* `Assembly.Orderly.exists_drained`: the daemon can always serve until nothing waits.
-/

namespace RingBus

/-! ## What a client remembers -/

namespace Client

/-- The client as it remembers these registrations. -/
def remembering (c : Client) (registrations : List (ServiceKey × Option RingName)) : Client :=
  ⟨c.socket, c.endpoint, c.daemon, registrations⟩

/-- The client remembers to be registered under a key as this participant. -/
def Notes (c : Client) (key : ServiceKey) (p : Participant) : Prop :=
  p.endpoint = c.endpoint ∧ (key, p.ring) ∈ c.registrations

variable {c : Client} {key key' : ServiceKey} {ring : Option RingName} {p : Participant}

/-- A client that forgets a key remembers all its other registrations. -/
theorem notes_forget : (c.forget key).Notes key' p ↔ key' ≠ key ∧ c.Notes key' p := by
  simp only [Notes, forget, List.mem_filter, decide_eq_true_eq]
  tauto

/-- A client remembers its last registration under a key, and all those under other keys. -/
theorem notes_enrolled :
    (c.enrolled key ring).Notes key' p ↔
      (key' = key ∧ p = ⟨c.endpoint, ring⟩) ∨ key' ≠ key ∧ c.Notes key' p := by
  rcases p with ⟨e, r⟩
  simp only [Notes, enrolled, forget, List.mem_append, List.mem_filter, List.mem_singleton,
    decide_eq_true_eq, Prod.mk.injEq, Participant.mk.injEq]
  tauto

theorem nodup_forget (h : (c.registrations.map Prod.fst).Nodup) :
    ((c.forget key).registrations.map Prod.fst).Nodup :=
  h.sublist (List.filter_sublist.map _)

theorem nodup_enrolled (h : (c.registrations.map Prod.fst).Nodup) :
    ((c.enrolled key ring).registrations.map Prod.fst).Nodup := by
  rw [enrolled, List.map_append, List.map_singleton, List.nodup_append]
  refine ⟨nodup_forget h, List.nodup_singleton _, ?_⟩
  intro key' hMem key'' hKey
  obtain ⟨r, hr, rfl⟩ := List.mem_map.mp hMem
  rw [List.mem_singleton.mp hKey]
  exact of_decide_eq_true (List.mem_filter.mp hr).2

/-- Withdrawing changes nothing of a client but what it remembers. -/
theorem exists_remembering_deregisterEach (keys : List ServiceKey) (c : Client) (h : Host) :
    ∃ registrations, (deregisterEach keys c h).1 = c.remembering registrations := by
  induction keys generalizing c h with
  | nil => exact ⟨c.registrations, rfl⟩
  | cons key rest ih =>
    obtain ⟨registrations, hRest⟩ := ih (c.deregister key h).1 (c.deregister key h).2.1
    rw [deregisterEach, hRest]
    rcases c.deregister_cases key h with ⟨_, _, _, hDone⟩ | ⟨_, _, _, hDone⟩ | ⟨_, _, _, hDone⟩
    · rw [hDone]
      exact ⟨registrations, rfl⟩
    · rw [hDone]
      exact ⟨registrations, rfl⟩
    · rw [hDone]
      exact ⟨registrations, rfl⟩

end Client

/-! ## A daemon among its clients -/

/-- A client, and the keys that it still has to withdraw from while it withdraws from all. -/
structure Member where
  client : Client
  leaving : List ServiceKey

/-- A daemon and its clients, in the order in which they came. -/
structure Assembly where
  host : Host
  daemon : Daemon
  members : Numbered (Option Member)

namespace Assembly

/-- What happens in an assembly. -/
inductive Event
  | joined (i : Nat)
  | registered (i : Nat) (key : ServiceKey) (ring : Option RingName) (asked : Asked)
  | deregistered (i : Nat) (key : ServiceKey) (asked : Asked)
  /-- Member number `i` sets out to withdraw from all keys. -/
  | leaves (i : Nat)
  | withdrew (i : Nat) (key : ServiceKey) (asked : Asked)
  | looked (i : Nat)
  | served
  | elsewhere

/-- A call that finds the daemon's queue full has not returned yet, so it is no step. -/
inductive Step : Assembly → Event → Assembly → Prop
  | join {A : Assembly} {h : Host} {c : Client} (e daemon : Endpoint) :
    daemon.key = A.daemon.endpoint.key →
      (∀ j m, A.members.object j = some m → m.client.endpoint.key ≠ e.key) →
      Client.bindAt e daemon A.host = (h, .ok c) → A.daemon.Posted h →
      Step A (.joined A.members.count) ⟨h, A.daemon, A.members.add (some ⟨c, []⟩)⟩
  | register {A : Assembly} {i : Nat} {c c' : Client} {h : Host} {asked : Asked}
      (key : ServiceKey) (ring : Option RingName) :
    A.members.object i = some ⟨c, []⟩ → c.register key ring A.host = (c', h, asked) →
      asked ≠ .blocked →
      Step A (.registered i key ring asked) ⟨h, A.daemon, A.members.set i (some ⟨c', []⟩)⟩
  | deregister {A : Assembly} {i : Nat} {c c' : Client} {h : Host} {asked : Asked}
      (key : ServiceKey) :
    A.members.object i = some ⟨c, []⟩ → c.deregister key A.host = (c', h, asked) →
      asked ≠ .blocked →
      Step A (.deregistered i key asked) ⟨h, A.daemon, A.members.set i (some ⟨c', []⟩)⟩
  | leave {A : Assembly} {i : Nat} {c : Client} :
    A.members.object i = some ⟨c, []⟩ →
      Step A (.leaves i)
        ⟨A.host, A.daemon, A.members.set i (some ⟨c, c.registrations.map Prod.fst⟩)⟩
  | withdraw {A : Assembly} {i : Nat} {c c' : Client} {key : ServiceKey}
      {rest : List ServiceKey} {h : Host} {asked : Asked} :
    A.members.object i = some ⟨c, key :: rest⟩ → c.deregister key A.host = (c', h, asked) →
      asked ≠ .blocked →
      Step A (.withdrew i key asked) ⟨h, A.daemon, A.members.set i (some ⟨c', rest⟩)⟩
  | look {A : Assembly} {i : Nat} {m : Member} (n : Nat) :
    A.members.object i = some m →
      Step A (.looked i) ⟨(m.client.receivePeer? n A.host).1, A.daemon, A.members⟩
  | serve {A : Assembly} {d : Daemon} {h : Host} :
    A.daemon.serveNext? A.host = some (d, h) → Step A .served ⟨h, d, A.members⟩
  | elsewhere {A : Assembly} {h : Host} :
    A.daemon.Undisturbed A.host h → Step A .elsewhere ⟨h, A.daemon, A.members⟩

/-- The daemon without any client. -/
def opening (d : Daemon) (h : Host) : Assembly :=
  ⟨h, d, ⟨0, fun _ => none⟩⟩

/-- The participants under a key once the daemon has served what waits. -/
def outlook (A : Assembly) (key : ServiceKey) : List Participant :=
  A.daemon.outlook A.host key

variable {A A' : Assembly} {event : Event} {trace : List Event} {i j : Nat} {c c' : Client}
  {d : Daemon} {h : Host} {key : ServiceKey} {rest : List ServiceKey} {asked : Asked}
  {m m' : Member} {p : Participant}

/-- What holds of the newcomer and of all others holds of everybody who is then a member. -/
theorem of_added {P : Member → Prop} (hNew : P m)
    (hOld : ∀ j n, A.members.object j = some n → P n)
    (hMember : (A.members.add (some m)).object i = some m') : P m' := by
  rcases Numbered.of_object_add hMember with ⟨_, hSame⟩ | ⟨_, hThere⟩
  · cases hSame
    exact hNew
  · exact hOld _ _ hThere

/-- Some member remembers to be registered under the key as this participant. -/
def Recorded (A : Assembly) (key : ServiceKey) (p : Participant) : Prop :=
  ∃ i m, A.members.object i = some m ∧ m.client.Notes key p

/-- The clients are who they should be, and what they remember is what the daemon is going to list.
-/
structure Orderly (A : Assembly) : Prop where
  posted : A.daemon.Posted A.host
  keeps : A.daemon.evicts = false
  member_lt : ∀ {i m}, A.members.object i = some m → i < A.members.count
  points : ∀ {i m}, A.members.object i = some m → m.client.daemon.key = A.daemon.endpoint.key
  socket_ne : ∀ {i m}, A.members.object i = some m → m.client.socket ≠ A.daemon.socket
  apart : ∀ {i j m m'}, A.members.object i = some m → A.members.object j = some m' →
    m.client.endpoint.key = m'.client.endpoint.key → i = j
  direct : ∀ {i m}, A.members.object i = some m → m.client.registrations ≠ [] →
    m.client.daemon.Direct
  keys : ∀ {i m}, A.members.object i = some m → (m.client.registrations.map Prod.fst).Nodup
  once : ∀ key, Listing.Distinct (A.outlook key)
  listed : ∀ {key p}, p ∈ A.outlook key ↔ A.Recorded key p

namespace Orderly

variable (orderly : Orderly A)
include orderly

/-! ### One member changes -/

/-- A member is recorded as it remembers itself; everyone else has another endpoint. -/
theorem recorded_set (hMember : A.members.object i = some m) {m' : Member} :
    Recorded ⟨h, d, A.members.set i (some m')⟩ key p ↔
      m'.client.Notes key p ∨
        A.Recorded key p ∧ p.endpoint.key ≠ m.client.endpoint.key := by
  constructor
  · rintro ⟨j, n, hOther, hNotes⟩
    rcases Numbered.of_object_set hOther with ⟨_, hSame⟩ | ⟨hNe, hOld⟩
    · cases hSame
      exact .inl hNotes
    · -- Another member wrote it down, and no two members have equal endpoints.
      refine .inr ⟨⟨j, n, hOld, hNotes⟩, fun hKey => hNe ?_⟩
      exact orderly.apart hOld hMember (hNotes.1 ▸ hKey)
  · rintro (hNotes | ⟨⟨j, n, hOld, hNotes⟩, hKey⟩)
    · exact ⟨i, m', Numbered.object_set_same _ _ _, hNotes⟩
    · refine ⟨j, n, (Numbered.object_set_other _ ?_).trans hOld, hNotes⟩
      rintro rfl
      cases hMember.symm.trans hOld
      exact hKey (congrArg Endpoint.key hNotes.1)

/-- Registrations are remembered by the member at hand or by one with another endpoint. -/
theorem recorded_iff (hMember : A.members.object i = some m) :
    A.Recorded key p ↔
      m.client.Notes key p ∨ A.Recorded key p ∧ p.endpoint.key ≠ m.client.endpoint.key := by
  constructor
  · rintro ⟨j, n, hOld, hNotes⟩
    -- Endpoints are apart, so another member's registrations have another path.
    by_cases hSame : j = i
    · subst hSame
      cases hMember.symm.trans hOld
      exact .inl hNotes
    · refine .inr ⟨⟨j, n, hOld, hNotes⟩, fun hKey => hSame ?_⟩
      exact orderly.apart hOld hMember (hNotes.1 ▸ hKey)
  · rintro (hNotes | ⟨hRecorded, _⟩)
    · exact ⟨i, m, hMember, hNotes⟩
    · exact hRecorded

/-- A member remembers something else, and the outlook moves along. -/
theorem changed (hMember : A.members.object i = some m)
    {registrations : List (ServiceKey × Option RingName)} {leaving : List ServiceKey}
    (posted : A.daemon.Posted h) (hDirect : registrations ≠ [] → m.client.daemon.Direct)
    (hKeys : (registrations.map Prod.fst).Nodup)
    (hMoves : ∀ key, ∃ move : Move, A.daemon.outlook h key = move.apply (A.outlook key) ∧
      ∀ p, p ∈ move.apply (A.outlook key) ↔
        (m.client.remembering registrations).Notes key p ∨
          A.Recorded key p ∧ p.endpoint.key ≠ m.client.endpoint.key) :
    Orderly ⟨h, A.daemon,
      A.members.set i (some ⟨m.client.remembering registrations, leaving⟩)⟩ where
  posted := posted
  keeps := orderly.keeps
  member_lt {j n} hOther := by
    rcases Numbered.of_object_set hOther with ⟨rfl, _⟩ | ⟨_, hOld⟩
    · exact orderly.member_lt hMember
    · exact orderly.member_lt hOld
  points {j n} hOther := by
    rcases Numbered.of_object_set hOther with ⟨_, hSame⟩ | ⟨_, hOld⟩
    · cases hSame
      have hPoints := orderly.points hMember
      exact hPoints
    · exact orderly.points hOld
  socket_ne {j n} hOther := by
    rcases Numbered.of_object_set hOther with ⟨_, hSame⟩ | ⟨_, hOld⟩
    · cases hSame
      have hSocket := orderly.socket_ne hMember
      exact hSocket
    · exact orderly.socket_ne hOld
  apart {j k n n'} hOther hOther' hKey := by
    -- The member keeps its endpoint, so whoever was apart from it still is.
    rcases Numbered.of_object_set hOther with ⟨hj, hSame⟩ | ⟨_, hOld⟩
    · rcases Numbered.of_object_set hOther' with ⟨hk, _⟩ | ⟨_, hOld'⟩
      · exact hj.trans hk.symm
      · cases hSame
        exact hj.trans (orderly.apart hMember hOld' hKey)
    · rcases Numbered.of_object_set hOther' with ⟨hk, hSame'⟩ | ⟨_, hOld'⟩
      · cases hSame'
        exact (orderly.apart hOld hMember hKey).trans hk.symm
      · exact orderly.apart hOld hOld' hKey
  direct {j n} hOther := by
    rcases Numbered.of_object_set hOther with ⟨_, hSame⟩ | ⟨_, hOld⟩
    · cases hSame
      exact hDirect
    · exact orderly.direct hOld
  keys {j n} hOther := by
    rcases Numbered.of_object_set hOther with ⟨_, hSame⟩ | ⟨_, hOld⟩
    · cases hSame
      exact hKeys
    · exact orderly.keys hOld
  once key := by
    obtain ⟨move, hOutlook, _⟩ := hMoves key
    change Listing.Distinct (A.daemon.outlook h key)
    rw [hOutlook]
    exact move.distinct_apply (orderly.once key)
  listed {key p} := by
    obtain ⟨move, hOutlook, hMem⟩ := hMoves key
    change p ∈ A.daemon.outlook h key ↔ _
    rw [hOutlook, hMem p, orderly.recorded_set hMember]

/-- A member remembers what it remembered, and the outlook is the same. -/
theorem kept (hMember : A.members.object i = some m) {leaving : List ServiceKey} :
    Orderly ⟨A.host, A.daemon, A.members.set i (some ⟨m.client, leaving⟩)⟩ := by
  refine orderly.changed hMember orderly.posted (orderly.direct hMember) (orderly.keys hMember) ?_
  intro key
  refine ⟨.rests, rfl, fun p => ?_⟩
  exact orderly.listed.trans (orderly.recorded_iff hMember)

/-! ### Requests -/

/-- Whatever a member's daemon path reaches is the daemon. -/
theorem reach_eq (hMember : A.members.object i = some m) {id : Nat} :
    A.host.reach m.client.daemon.text = .ok id →
      id = A.daemon.socket ∧ m.client.daemon.Direct := by
  intro hReach
  have hDirect := Host.direct_of_reach orderly.posted.root hReach
  -- The client's path and the daemon's endpoint are two spellings of one path.
  have hDaemon := Host.reach_of_key orderly.posted.root (orderly.points hMember).symm hDirect
    orderly.posted.reached
  cases hReach.symm.trans hDaemon
  exact ⟨rfl, hDirect⟩

/-- A request to register that reaches the daemon keeps the assembly orderly: the client notes what
the outlook gains. -/
theorem enrolled (hMember : A.members.object i = some ⟨c, rest⟩) {ring : Option RingName}
    (hDirect : c.daemon.Direct) {leaving : List ServiceKey} :
    Orderly ⟨A.host.arrived A.daemon.socket
        (⟨.register, key, ⟨c.endpoint, ring⟩⟩ : Message).encode, A.daemon,
      A.members.set i (some ⟨c.enrolled key ring, leaving⟩)⟩ := by
  refine orderly.changed hMember (Daemon.posted_withSocket (fun _ => rfl) orderly.posted)
    (fun _ => hDirect) (Client.nodup_enrolled (orderly.keys hMember)) ?_
  intro key'
  refine ⟨_, Daemon.outlook_arrived, fun p => ?_⟩
  change _ ↔ (c.enrolled key ring).Notes key' p ∨ _
  rw [Client.notes_enrolled]
  by_cases hKey : key = key'
  · -- Under the key of the request the client takes the place of what it was.
    subst hKey
    simp only [Registry.Action.under, if_true, Move.apply, Listing.mem_enlist (orderly.once key),
      orderly.listed, true_and, ne_eq, not_true_eq_false, false_and, or_false]
  · simp only [Registry.Action.under, if_neg hKey, Move.apply, orderly.listed, Ne.symm hKey,
      false_and, false_or, ne_eq, not_false_eq_true, true_and]
    exact orderly.recorded_iff hMember

/-- A request to withdraw that reaches the daemon keeps the assembly orderly: the client forgets
what the outlook loses. -/
theorem forgotten (hMember : A.members.object i = some ⟨c, rest⟩) {ring : Option RingName}
    {leaving : List ServiceKey} :
    Orderly ⟨A.host.arrived A.daemon.socket
        (⟨.deregister, key, ⟨c.endpoint, ring⟩⟩ : Message).encode, A.daemon,
      A.members.set i (some ⟨c.forget key, leaving⟩)⟩ := by
  have hBefore := orderly.direct hMember
  -- Whoever still has a registration had one before.
  have hDirect : (c.forget key).registrations ≠ [] → c.daemon.Direct := by
    intro hSome
    exact hBefore fun hNone => hSome (congrArg (List.filter _) hNone)
  refine orderly.changed hMember (Daemon.posted_withSocket (fun _ => rfl) orderly.posted)
    hDirect (Client.nodup_forget (orderly.keys hMember)) ?_
  intro key'
  refine ⟨_, Daemon.outlook_arrived, fun p => ?_⟩
  change _ ↔ (c.forget key).Notes key' p ∨ _
  rw [Client.notes_forget]
  by_cases hKey : key = key'
  · subst hKey
    simp only [Registry.Action.under, if_true, Move.apply, Listing.mem_without,
      orderly.listed, ne_eq, not_true_eq_false, false_and, false_or]
  · simp only [Registry.Action.under, if_neg hKey, Move.apply, orderly.listed, Ne.symm hKey,
      ne_eq, not_false_eq_true, true_and]
    exact orderly.recorded_iff hMember

/-- The daemon has another registry, but its outlook is the same, and so are the members. -/
theorem outlasts {d' : Daemon} (hDaemon : ∃ registry, d' = { A.daemon with registry })
    (posted : d'.Posted h) (hOutlook : ∀ key, d'.outlook h key = A.outlook key) :
    Orderly ⟨h, d', A.members⟩ := by
  obtain ⟨registry, rfl⟩ := hDaemon
  exact
    { posted
      keeps := orderly.keeps
      member_lt := orderly.member_lt
      points := orderly.points
      socket_ne := orderly.socket_ne
      apart := orderly.apart
      direct := orderly.direct
      keys := orderly.keys
      once := fun key => by
        rw [outlook, hOutlook]
        exact orderly.once key
      listed := fun {key p} => by
        rw [outlook, hOutlook]
        exact orderly.listed }

/-- What leaves the daemon's outlook alone keeps the assembly orderly. -/
theorem undisturbed (hUndisturbed : A.daemon.Undisturbed A.host h) :
    Orderly ⟨h, A.daemon, A.members⟩ :=
  orderly.outlasts ⟨_, rfl⟩ (hUndisturbed.posted orderly.posted) hUndisturbed.outlook

/-- Serving a datagram keeps the assembly orderly, since the outlook has foreseen it. -/
theorem served {d' : Daemon} (hServe : A.daemon.serveNext? A.host = some (d', h)) :
    Orderly ⟨h, d', A.members⟩ := by
  obtain ⟨hDaemon, posted, hOutlook⟩ :=
    Daemon.serveNext?_outlook orderly.keeps orderly.posted hServe
  exact orderly.outlasts hDaemon posted hOutlook

/-- A client's deregistration keeps the assembly orderly, whether or not the daemon is reached. -/
theorem deregistered (hMember : A.members.object i = some ⟨c, rest⟩)
    (hCall : c.deregister key A.host = (c', h, asked)) {leaving : List ServiceKey} :
    Orderly ⟨h, A.daemon, A.members.set i (some ⟨c', leaving⟩)⟩ := by
  -- Only a request that was sent makes a difference, and then it reached this daemon.
  rcases c.deregister_cases key A.host with ⟨id, _, hReach, hDone⟩ | ⟨_, _, _, hDone⟩ |
    ⟨_, _, _, hDone⟩
  · cases hDone.symm.trans hCall
    obtain ⟨rfl, _⟩ := orderly.reach_eq hMember hReach
    exact orderly.forgotten hMember
  · cases hDone.symm.trans hCall
    exact orderly.kept hMember
  · cases hDone.symm.trans hCall
    exact orderly.kept hMember

/-- A newcomer remembers nothing yet, so nobody has to list it. -/
theorem added (hSocket : c.socket ≠ A.daemon.socket)
    (hPoints : c.daemon.key = A.daemon.endpoint.key) (hNone : c.registrations = [])
    (hApart : ∀ j m, A.members.object j = some m → m.client.endpoint.key ≠ c.endpoint.key) :
    Orderly ⟨A.host, A.daemon, A.members.add (some ⟨c, []⟩)⟩ where
  posted := orderly.posted
  keeps := orderly.keeps
  member_lt hMember := by
    rcases Numbered.of_object_add hMember with ⟨rfl, _⟩ | ⟨_, hOld⟩
    · exact Nat.lt_succ_self _
    · exact Nat.lt_succ_of_lt (orderly.member_lt hOld)
  points hMember := of_added hPoints (fun _ _ => orderly.points) hMember
  socket_ne hMember := of_added hSocket (fun _ _ => orderly.socket_ne) hMember
  apart hMember hMember' hKey := by
    rcases Numbered.of_object_add hMember with ⟨hi, hNew⟩ | ⟨_, hOld⟩
    · rcases Numbered.of_object_add hMember' with ⟨hj, _⟩ | ⟨_, hOld'⟩
      · exact hi.trans hj.symm
      · cases hNew
        exact absurd hKey.symm (hApart _ _ hOld')
    · rcases Numbered.of_object_add hMember' with ⟨_, hNew'⟩ | ⟨_, hOld'⟩
      · cases hNew'
        exact absurd hKey (hApart _ _ hOld)
      · exact orderly.apart hOld hOld' hKey
  direct hMember :=
    of_added (fun hSome => absurd hNone hSome) (fun _ _ => orderly.direct) hMember
  keys hMember :=
    of_added (by simp only [hNone, List.map_nil, List.nodup_nil]) (fun _ _ => orderly.keys) hMember
  once := orderly.once
  listed {key p} := by
    refine orderly.listed.trans ⟨?_, ?_⟩
    · rintro ⟨j, n, hOld, hNotes⟩
      exact ⟨j, n, (Numbered.object_add_other _ (orderly.member_lt hOld).ne).trans hOld, hNotes⟩
    · rintro ⟨j, n, hMember, hNotes⟩
      rcases Numbered.of_object_add hMember with ⟨_, hNew⟩ | ⟨_, hOld⟩
      · cases hNew
        have hNoted := hNotes.2
        rw [hNone] at hNoted
        exact absurd hNoted List.not_mem_nil
      · exact ⟨j, n, hOld, hNotes⟩

/-- A new member keeps the assembly orderly if nobody else has its endpoint. -/
theorem joined {e daemon : Endpoint} (hPoints : daemon.key = A.daemon.endpoint.key)
    (hApart : ∀ j m, A.members.object j = some m → m.client.endpoint.key ≠ e.key)
    (hBind : Client.bindAt e daemon A.host = (h, .ok c)) (posted : A.daemon.Posted h) :
    Orderly ⟨h, A.daemon, A.members.add (some ⟨c, []⟩)⟩ := by
  rcases Client.bindAt_cases A.host e daemon with ⟨π, _, _, hBound⟩ | ⟨_, hRefused⟩
  · cases hBound.symm.trans hBind
    -- Another socket is opened, and the daemon is still reached at its endpoint.
    have orderly' := orderly.undisturbed (Daemon.undisturbed_installed orderly.posted posted)
    exact orderly'.added orderly.posted.socket_lt.ne' hPoints rfl hApart
  · cases hRefused.symm.trans hBind

/-- Every step keeps the assembly orderly. -/
theorem step (step : Step A event A') : Orderly A' := by
  cases step with
  | join e daemon hPoints hApart hBind posted => exact orderly.joined hPoints hApart hBind posted
  | @register i c c' h asked key ring hMember hCall _ =>
    rcases c.register_cases key ring A.host with ⟨id, hReach, hDone⟩ | ⟨_, _, hDone⟩
    · cases hDone.symm.trans hCall
      obtain ⟨rfl, hDirect⟩ := orderly.reach_eq hMember hReach
      exact orderly.enrolled hMember hDirect
    · cases hDone.symm.trans hCall
      exact orderly.kept hMember
  | deregister key hMember hCall _ => exact orderly.deregistered hMember hCall
  | leave hMember => exact orderly.kept hMember
  | withdraw hMember hCall _ => exact orderly.deregistered hMember hCall
  | look n hMember =>
    exact orderly.undisturbed (Client.undisturbed_receivePeer? (orderly.socket_ne hMember) n)
  | serve hServe => exact orderly.served hServe
  | elsewhere hUndisturbed => exact orderly.undisturbed hUndisturbed

end Orderly

/-! ## Withdrawing from all keys -/

/-- The member set out to withdraw from all keys, and did not register after that. -/
def Withdrawn (trace : List Event) (i : Nat) : Prop :=
  ∃ before after, trace = before ++ .leaves i :: after ∧
    ∀ key ring, .registered i key ring .sent ∉ after

/-- Whoever is withdrawn after an event began to withdraw just then, or was withdrawn before and has
not registered. -/
theorem withdrawn_snoc :
    Withdrawn (trace ++ [event]) i →
      event = .leaves i ∨
        (∀ key ring, event ≠ .registered i key ring .sent) ∧ Withdrawn trace i := by
  rintro ⟨before, after, hTrace, hNot⟩
  -- The last event is the one that sets out, or one of those after it.
  rcases List.eq_nil_or_concat after with rfl | ⟨after', event', rfl⟩
  · exact .inl (List.cons.inj (List.append_inj' hTrace rfl).2).1
  · rw [List.concat_eq_append] at hTrace hNot
    rw [← List.cons_append, ← List.append_assoc] at hTrace
    obtain ⟨rfl, hEvent⟩ := List.append_inj' hTrace rfl
    cases hEvent
    refine .inr ⟨?_, before, after', rfl, ?_⟩
    · rintro key ring rfl
      exact hNot key ring (by simp)
    · intro key ring hMem
      exact hNot key ring (List.mem_append_left _ hMem)

/-- Whoever withdraws from all keys has no other registrations than those it is going to withdraw.
-/
def Leaving (trace : List Event) (A : Assembly) : Prop :=
  ∀ i m, Withdrawn trace i → A.members.object i = some m →
    ∀ r ∈ m.client.registrations, r.1 ∈ m.leaving

namespace Leaving

variable (leaving : Leaving trace A)
include leaving

theorem set (hEvent : ∀ j ≠ i, event ≠ .leaves j)
    (hMember : Withdrawn (trace ++ [event]) i →
      ∀ r ∈ m.client.registrations, r.1 ∈ m.leaving) :
    Leaving (trace ++ [event]) ⟨h, d, A.members.set i (some m)⟩ := by
  intro j n hWithdrawn hOther
  rcases Numbered.of_object_set hOther with ⟨rfl, hSame⟩ | ⟨hNe, hOld⟩
  · cases hSame
    exact hMember hWithdrawn
  · rcases withdrawn_snoc hWithdrawn with hLeaves | ⟨_, hBefore⟩
    · exact absurd hLeaves (hEvent j hNe)
    · exact leaving j n hBefore hOld

/-- Nobody sets out and nobody changes. -/
theorem kept (hEvent : ∀ j, event ≠ .leaves j) :
    Leaving (trace ++ [event]) ⟨h, d, A.members⟩ := by
  intro j n hWithdrawn hOld
  rcases withdrawn_snoc hWithdrawn with hLeaves | ⟨_, hBefore⟩
  · exact absurd hLeaves (hEvent j)
  · exact leaving j n hBefore hOld

/-- A newcomer remembers nothing. -/
theorem joined {e daemon : Endpoint} (hBind : Client.bindAt e daemon A.host = (h, .ok c)) :
    Leaving (trace ++ [.joined A.members.count]) ⟨h, A.daemon, A.members.add (some ⟨c, []⟩)⟩ := by
  intro j n hWithdrawn hMember
  rcases Client.bindAt_cases A.host e daemon with ⟨_, _, _, hBound⟩ | ⟨_, hRefused⟩
  · cases hBound.symm.trans hBind
    rcases Numbered.of_object_add hMember with ⟨_, hNew⟩ | ⟨_, hOld⟩
    · cases hNew
      exact nofun
    · rcases withdrawn_snoc hWithdrawn with hLeaves | ⟨_, hBefore⟩
      · cases hLeaves
      · exact leaving j n hBefore hOld
  · cases hRefused.symm.trans hBind

/-- Whoever registers is not withdrawn any more. -/
theorem registered (hMember : A.members.object i = some ⟨c, rest⟩) {ring : Option RingName}
    (hCall : c.register key ring A.host = (c', h, asked)) :
    Leaving (trace ++ [.registered i key ring asked])
      ⟨h, A.daemon, A.members.set i (some ⟨c', rest⟩)⟩ := by
  refine leaving.set (fun _ _ => nofun) fun hWithdrawn => ?_
  rcases withdrawn_snoc hWithdrawn with hLeaves | ⟨hNot, hBefore⟩
  · cases hLeaves
  · rcases c.register_cases key ring A.host with ⟨_, _, hDone⟩ | ⟨_, _, hDone⟩
    · cases hDone.symm.trans hCall
      exact absurd rfl (hNot key ring)
    · cases hDone.symm.trans hCall
      exact leaving _ _ hBefore hMember

/-- What is left after a deregistration was there before. -/
theorem deregistered (hMember : A.members.object i = some ⟨c, rest⟩)
    (hCall : c.deregister key A.host = (c', h, asked)) :
    Leaving (trace ++ [.deregistered i key asked])
      ⟨h, A.daemon, A.members.set i (some ⟨c', rest⟩)⟩ := by
  refine leaving.set (fun _ _ => nofun) fun hWithdrawn => ?_
  rcases withdrawn_snoc hWithdrawn with hLeaves | ⟨_, hBefore⟩
  · cases hLeaves
  · have hNone := leaving _ _ hBefore hMember
    rcases c.deregister_cases key A.host with ⟨_, _, _, hDone⟩ | ⟨_, _, _, hDone⟩ |
      ⟨_, _, _, hDone⟩
    · cases hDone.symm.trans hCall
      exact fun r hr => hNone r (List.mem_filter.mp hr).1
    · cases hDone.symm.trans hCall
      exact hNone
    · cases hDone.symm.trans hCall
      exact hNone

/-- A withdrawal that returned is done with its key: the client forgot it, or the daemon cannot be
reached and there is nothing to withdraw. -/
theorem withdrew (orderly : Orderly A) (hMember : A.members.object i = some ⟨c, key :: rest⟩)
    (hCall : c.deregister key A.host = (c', h, asked)) (hReturned : asked ≠ .blocked) :
    Leaving (trace ++ [.withdrew i key asked])
      ⟨h, A.daemon, A.members.set i (some ⟨c', rest⟩)⟩ := by
  refine leaving.set (fun _ _ => nofun) fun hWithdrawn => ?_
  rcases withdrawn_snoc hWithdrawn with hLeaves | ⟨_, hBefore⟩
  · cases hLeaves
  · have hLeft := leaving _ _ hBefore hMember
    rcases c.deregister_cases key A.host with ⟨_, _, _, hDone⟩ | ⟨_, _, hReach, hDone⟩ |
      ⟨_, _, _, hDone⟩
    · cases hDone.symm.trans hCall
      intro r hr
      obtain ⟨hOld, hOther⟩ := List.mem_filter.mp hr
      exact (List.mem_cons.mp (hLeft r hOld)).resolve_left (of_decide_eq_true hOther)
    · cases hDone.symm.trans hCall
      intro r hr
      -- Whoever has a registration reaches the daemon.
      have hDaemon := Host.reach_of_key orderly.posted.root (orderly.points hMember).symm
        (orderly.direct hMember (List.ne_nil_of_mem hr)) orderly.posted.reached
      cases hReach.symm.trans hDaemon
    · cases hDone.symm.trans hCall
      exact absurd rfl hReturned

/-- Every step keeps what a withdrawing member has still to do: each registration that it remembers
is on its list. -/
theorem step (orderly : Orderly A) (step : Step A event A') :
    Leaving (trace ++ [event]) A' := by
  cases step with
  | join e daemon _ _ hBind _ => exact leaving.joined hBind
  | register key ring hMember hCall _ => exact leaving.registered hMember hCall
  | deregister key hMember hCall _ => exact leaving.deregistered hMember hCall
  | leave hMember =>
    -- Whoever sets out has all its keys on the list.
    refine leaving.set (fun j hNe hEvent => ?_) fun _ r hr => List.mem_map_of_mem hr
    cases hEvent
    exact hNe rfl
  | withdraw hMember hCall hReturned =>
    exact leaving.withdrew orderly hMember hCall hReturned
  | look n hMember => exact leaving.kept fun _ => nofun
  | serve hServe => exact leaving.kept fun _ => nofun
  | elsewhere hUndisturbed => exact leaving.kept fun _ => nofun

end Leaving

/-! ### Without anybody in between -/

/-- One withdrawal goes through if the daemon's queue takes something more, and then it still does.
-/
theorem Orderly.withdraw (orderly : Orderly A)
    (hMember : A.members.object i = some ⟨c, key :: rest⟩)
    (hRoom : (A.host.sockets.object A.daemon.socket).full = false) :
    let done := c.deregister key A.host
    Step A (.withdrew i key done.2.2)
        ⟨done.2.1, A.daemon, A.members.set i (some ⟨done.1, rest⟩)⟩ ∧
      (done.2.1.sockets.object A.daemon.socket).full = false := by
  intro done
  rcases c.deregister_cases key A.host with ⟨id, ring, hReach, hDone⟩ | ⟨_, e, _, hDone⟩ |
    ⟨id, hReach, hFull, hDone⟩
  · obtain ⟨rfl, _⟩ := orderly.reach_eq hMember hReach
    have hSame : done = _ := hDone
    rw [hSame]
    refine ⟨.withdraw hMember hDone (by simp), ?_⟩
    rw [Host.arrived, Host.withSocket, Numbered.object_set_same]
    exact hRoom
  · have hSame : done = _ := hDone
    rw [hSame]
    exact ⟨.withdraw hMember hDone (by simp), hRoom⟩
  · obtain ⟨rfl, _⟩ := orderly.reach_eq hMember hReach
    cases hFull.symm.trans hRoom

/-- Withdrawing from several keys in one go comes to a run of single withdrawals. -/
theorem run_deregisterEach {keys : List ServiceKey} (orderly : Orderly A)
    (hMember : A.members.object i = some ⟨c, keys⟩)
    (hRoom : (A.host.sockets.object A.daemon.socket).full = false) :
    let done := Client.deregisterEach keys c A.host
    ∃ trace, (∀ event ∈ trace, ∃ key asked, event = .withdrew i key asked) ∧
      Run Step A trace ⟨done.2, A.daemon, A.members.set i (some ⟨done.1, []⟩)⟩ := by
  -- On the keys; every withdrawal leaves the assembly orderly and the daemon's queue open.
  induction keys generalizing A c with
  | nil =>
    refine ⟨[], nofun, ?_⟩
    rw [Client.deregisterEach, Numbered.set_of_object hMember]
    exact .nil
  | cons key rest ih =>
    obtain ⟨step, hRoom'⟩ := orderly.withdraw hMember hRoom
    obtain ⟨trace, hWithdrew, run⟩ :=
      ih (orderly.step step) (Numbered.object_set_same _ _ _) hRoom'
    rw [Numbered.set_set] at run
    refine ⟨_ :: trace, ?_, .head step run⟩
    intro event hMem
    rcases List.mem_cons.mp hMem with rfl | hMem
    · exact ⟨key, _, rfl⟩
    · exact hWithdrew event hMem

/-- Withdrawing from all keys in one go is a run, too. -/
theorem run_deregisterAll (orderly : Orderly A) (hMember : A.members.object i = some ⟨c, []⟩)
    (hRoom : (A.host.sockets.object A.daemon.socket).full = false) :
    let done := c.deregisterAll A.host
    ∃ trace, (∀ event ∈ trace, ∃ key asked, event = .withdrew i key asked) ∧
      Run Step A (.leaves i :: trace)
        ⟨done.2, A.daemon, A.members.set i (some ⟨done.1, []⟩)⟩ := by
  have step : Step A (.leaves i) _ := .leave hMember
  obtain ⟨trace, hWithdrew, run⟩ :=
    run_deregisterEach (orderly.step step) (Numbered.object_set_same _ _ _) hRoom
  rw [Numbered.set_set] at run
  exact ⟨trace, hWithdrew, .head step run⟩

/-! ## Until nothing waits -/

/-- Serving goes on until nothing waits any more, whatever waits at first. -/
theorem Orderly.exists_drained (orderly : Orderly A) :
    ∃ trace A', Run Step A trace A' ∧ (∀ event ∈ trace, event = .served) ∧
      A'.members = A.members ∧ (A'.host.sockets.object A'.daemon.socket).queue = [] := by
  obtain ⟨h, d, members⟩ := A
  -- On what a daemon by itself comes to, which is finite.
  generalize hAlone : (⟨h, [d]⟩ : Exchange) = X
  induction X using Exchange.wellFounded_step.induction generalizing h d with
  | _ X ih =>
  subst hAlone
  cases hQueue : (h.sockets.object d.socket).queue with
  | nil => exact ⟨[], _, .nil, nofun, rfl, hQueue⟩
  | cons first rest =>
    have hReceive := Host.receive?_of_queue Datagram.bufferSize hQueue
    have hServe := d.serveNext?_eq_attend h
    rw [hReceive] at hServe
    have step : Step ⟨h, d, members⟩ .served _ := .serve hServe
    have alone := Exchange.Step.serve (X := ⟨h, [d]⟩) (i := 0) rfl hReceive hServe
    obtain ⟨trace, A', run, hServed, hMembers, hDrained⟩ :=
      ih _ ⟨_, alone⟩ _ _ (orderly.step step) rfl
    exact ⟨.served :: trace, A', .head step run, List.forall_mem_cons.mpr ⟨rfl, hServed⟩,
      hMembers, hDrained⟩

/-! ## Whole runs -/

/-- A daemon that was started receives at its path, and has an empty registry and an empty queue. -/
theorem posted_of_bind {h₀ : Host} {endpoint : Endpoint} {evicts : Bool}
    (hRoot : h₀.files.isDirectory [] = true) :
    Daemon.bind endpoint evicts h₀ = (h, .ok d) →
      d.Posted h ∧ d.evicts = evicts ∧ d.registry = Registry.empty ∧
        (h.sockets.object d.socket).queue = [] := by
  intro hBind
  rcases Daemon.bind_cases h₀ endpoint evicts with ⟨π, hPlace, hFile, hBound⟩ | ⟨_, hRefused⟩
  · cases hBound.symm.trans hBind
    -- A socket file in place of a file leaves all directories.
    have hSame : (h₀.installed π).files.SameDirectories h₀.files :=
      Files.sameDirectories_put_socket hFile
    have hSocket : (h₀.installed π).sockets.object h₀.sockets.count = ⟨[], true, false⟩ :=
      Numbered.object_add_count _ _
    refine ⟨⟨?_, ?_, Nat.lt_succ_self _⟩, rfl, rfl, congrArg Socket.queue hSocket⟩
    · rw [hSame.isDirectory, hRoot]
    · refine Host.reach_of_socket (hSame.place?.trans hPlace) endpoint.checkAddress_text
        (if_pos rfl) ?_
      rw [hSocket]
  · cases hRefused.symm.trans hBind

/-- An assembly without members is orderly if the daemon has nothing to serve. -/
theorem orderly_opening (posted : d.Posted h) (hKeeps : d.evicts = false)
    (hEmpty : d.registry = Registry.empty) (hQueue : (h.sockets.object d.socket).queue = []) :
    Orderly (opening d h) := by
  have hOutlook : ∀ key, (opening d h).outlook key = [] := by
    intro key
    rw [outlook, opening, Daemon.outlook_drained hQueue, hEmpty]
    rfl
  exact
    { posted
      keeps := hKeeps
      member_lt := nofun
      points := nofun
      socket_ne := nofun
      apart := nofun
      direct := nofun
      keys := nofun
      once := fun key => hOutlook key ▸ .nil
      listed := fun {key p} => by
        rw [hOutlook]
        exact iff_of_false List.not_mem_nil nofun }

/-- Every run keeps the assembly orderly, and every withdrawal on its way. -/
theorem orderly_of_run (orderly : Orderly (opening d h)) (run : Run Step (opening d h) trace A) :
    Orderly A ∧ Leaving trace A := by
  -- Who is leaving can be seen only while the assembly is orderly, so both go together.
  induction run with
  | nil => exact ⟨orderly, nofun⟩
  | snoc _ step ih => exact ⟨ih.1.step step, ih.2.step ih.1 step⟩

/-- Over every run of one daemon that keeps whom it cannot reach, and of clients of their own
endpoints that call it in any order: as soon as all datagrams are served, each client remembers
every key at most once, and it remembers a key with a ring just if the daemon lists it there with
that ring, once. Whoever has withdrawn from all keys is listed nowhere. A client that withdraws from
all keys without anybody in between remembers none, and has gone on by steps of such a run. -/
theorem clients_and_daemon_agree {h₀ : Host} {endpoint : Endpoint}
    (hRoot : h₀.files.isDirectory [] = true)
    (hBind : Daemon.bind endpoint false h₀ = (h, .ok d)) (run : Run Step (opening d h) trace A)
    (hMember : A.members.object i = some m) :
    ((A.host.sockets.object A.daemon.socket).queue = [] →
      (m.client.registrations.map Prod.fst).Nodup ∧
        (∀ key ring, (key, ring) ∈ m.client.registrations ↔
          ⟨m.client.endpoint, ring⟩ ∈ A.daemon.registry.peers key) ∧
        (∀ key ring, (key, ring) ∈ m.client.registrations →
          (A.daemon.registry.peers key).filter (·.endpoint == m.client.endpoint) =
            [⟨m.client.endpoint, ring⟩]) ∧
        (Withdrawn trace i → m.leaving = [] → ∀ key, ∀ p ∈ A.daemon.registry.peers key,
          p.endpoint.key ≠ m.client.endpoint.key)) ∧
      (m.leaving = [] → (A.host.sockets.object A.daemon.socket).full = false →
        let done := m.client.deregisterAll A.host
        done.1 = m.client.remembering [] ∧
          ∃ later, (∀ event ∈ later, ∃ key asked, event = .withdrew i key asked) ∧
            Run Step (opening d h) (trace ++ .leaves i :: later)
              ⟨done.2, A.daemon, A.members.set i (some ⟨done.1, []⟩)⟩) := by
  obtain ⟨posted, hKeeps, hEmpty, hQueue⟩ := posted_of_bind hRoot hBind
  have orderlyOpening := orderly_opening posted hKeeps hEmpty hQueue
  obtain ⟨orderly, leaving⟩ := orderly_of_run orderlyOpening run
  constructor
  · intro hDrained
    have hOutlook : ∀ key, A.outlook key = A.daemon.registry.peers key :=
      fun key => Daemon.outlook_drained hDrained
    -- Whoever is listed with the endpoint of this member is this member.
    have hListed : ∀ {key p}, p ∈ A.daemon.registry.peers key →
        p.endpoint.key = m.client.endpoint.key → m.client.Notes key p := by
      intro key p hp hSame
      rw [← hOutlook] at hp
      obtain ⟨j, n, hOther, hNotes⟩ := orderly.listed.mp hp
      obtain rfl : j = i := orderly.apart hOther hMember (hNotes.1 ▸ hSame)
      cases hMember.symm.trans hOther
      exact hNotes
    have hIff : ∀ key ring, (key, ring) ∈ m.client.registrations ↔
        ⟨m.client.endpoint, ring⟩ ∈ A.daemon.registry.peers key := by
      intro key ring
      constructor
      · intro hMem
        rw [← hOutlook]
        exact orderly.listed.mpr ⟨i, m, hMember, rfl, hMem⟩
      · intro hMem
        exact (hListed hMem rfl).2
    refine ⟨orderly.keys hMember, hIff, ?_, ?_⟩
    · intro key ring hMem
      have hOnce := orderly.once key
      rw [hOutlook] at hOnce
      have hFound := hOnce.filter_eq_singleton ((hIff key ring).mp hMem)
      exact hFound
    · intro hWithdrawn hDone key p hp hSame
      -- It would be a registration that is still to be withdrawn, and none is.
      have hLeft := leaving i m hWithdrawn hMember (key, p.ring) (hListed hp hSame).2
      rw [hDone] at hLeft
      exact List.not_mem_nil hLeft
  · intro hIdle hRoom done
    have hMember' : A.members.object i = some ⟨m.client, []⟩ := hIdle ▸ hMember
    obtain ⟨later, hWithdrew, run'⟩ := run_deregisterAll orderly hMember' hRoom
    have whole := run.trans run'
    refine ⟨?_, later, hWithdrew, whole⟩
    have hWithdrawn : Withdrawn (trace ++ .leaves i :: later) i :=
      ⟨trace, later, rfl, fun key ring hMem => nomatch hWithdrew _ hMem⟩
    -- Whoever withdrew has nothing but what it is going to withdraw, and that is nothing.
    obtain ⟨-, leaving'⟩ := orderly_of_run orderlyOpening whole
    have hNone : done.1.registrations = [] := List.eq_nil_iff_forall_not_mem.mpr fun r hr =>
      List.not_mem_nil (leaving' i _ hWithdrawn (Numbered.object_set_same _ _ _) r hr)
    obtain ⟨registrations, hDone⟩ :=
      m.client.exists_remembering_deregisterEach (m.client.registrations.map Prod.fst) A.host
    have hDone : done.1 = m.client.remembering registrations := hDone
    rw [hDone] at hNone ⊢
    exact congrArg m.client.remembering hNone

/-! ### Ann and Bob register, and Ann leaves -/

/-- What may come next in a script. -/
inductive Turn
  | joins (e : Endpoint)
  | registers (i : Nat) (key : ServiceKey) (ring : Option RingName)
  | serves

instance : Decidable (d.Posted h) :=
  decidable_of_iff
    (h.files.isDirectory [] = true ∧ h.reach d.endpoint.text = .ok d.socket ∧
      d.socket < h.sockets.count)
    ⟨fun ⟨hRoot, hReach, hSocket⟩ => ⟨hRoot, hReach, hSocket⟩,
      fun posted => ⟨posted.root, posted.reached, posted.socket_lt⟩⟩

/-- What a turn comes to, if it can be taken. -/
def turn? (A : Assembly) : Turn → Option (Event × Assembly)
  | .joins e =>
    if ∀ j < A.members.count, ∀ m ∈ A.members.object j, m.client.endpoint.key ≠ e.key then
      match Client.bindAt e A.daemon.endpoint A.host with
      | (h, .ok c) =>
        if A.daemon.Posted h then
          some (.joined A.members.count, ⟨h, A.daemon, A.members.add (some ⟨c, []⟩)⟩)
        else none
      | (_, .error _) => none
    else none
  | .registers i key ring =>
    match A.members.object i with
    | some ⟨c, []⟩ =>
      let (c, h, asked) := c.register key ring A.host
      if asked = .blocked then none
      else some (.registered i key ring asked, ⟨h, A.daemon, A.members.set i (some ⟨c, []⟩)⟩)
    | _ => none
  | .serves => (A.daemon.serveNext? A.host).map fun (d, h) => (.served, ⟨h, d, A.members⟩)

theorem Orderly.step_of_turn? (orderly : Orderly A) {turn : Turn} :
    A.turn? turn = some (event, A') → Step A event A' := by
  intro hTurn
  -- On the turn; a turn that cannot be taken would have been `none`.
  cases turn with
  | joins e =>
    simp only [turn?] at hTurn
    split at hTurn
    next hApart =>
      split at hTurn
      next h c hBind =>
        split at hTurn
        next posted =>
          cases hTurn
          refine .join e A.daemon.endpoint rfl (fun j m hMember => ?_) hBind posted
          exact hApart j (orderly.member_lt hMember) m hMember
        next => cases hTurn
      next => cases hTurn
    next => cases hTurn
  | registers i key ring =>
    simp only [turn?] at hTurn
    split at hTurn
    next c hMember =>
      split at hTurn
      next => cases hTurn
      next hReturned =>
        cases hTurn
        exact .register key ring hMember rfl hReturned
    next => cases hTurn
  | serves =>
    obtain ⟨⟨d, h⟩, hServe, hEq⟩ := Option.map_eq_some_iff.mp hTurn
    cases hEq
    exact .serve hServe

/-- What a script comes to. Turns that cannot be taken are passed over. -/
def turns : List Turn → Assembly → Assembly
  | [], A => A
  | turn :: rest, A =>
    match A.turn? turn with
    | some (_, A') => turns rest A'
    | none => turns rest A

theorem Orderly.run_turns (orderly : Orderly A) (script : List Turn) :
    ∃ trace, Run Step A trace (turns script A) := by
  induction script generalizing A with
  | nil => exact ⟨[], .nil⟩
  | cons turn rest ih =>
    unfold turns
    split
    next event A' hTurn =>
      have step := orderly.step_of_turn? hTurn
      obtain ⟨trace, run⟩ := ih (orderly.step step)
      exact ⟨event :: trace, .head step run⟩
    next => exact ih orderly

open Listing.Sample

namespace Sample

def receptionist : Daemon :=
  ⟨0, desk, Registry.empty, false⟩

def reception : Host :=
  (Host.fresh []).installed ["d"]

theorem bind_receptionist :
    Daemon.bind desk false (Host.fresh []) = (reception, .ok receptionist) := by
  have hPlace : (Host.fresh []).files.place? desk.text = some ["d"] := by decide
  have hTake := Host.takeOver_of_place (h := Host.fresh []) hPlace (by decide)
  rw [Daemon.bind, hTake]
  rfl

/-- Another key than that under which they meet. -/
def lunch : ServiceKey :=
  ⟨"lunch", by decide, by decide, by decide⟩

def ring : RingName :=
  ⟨"/anns", by constructor <;> decide⟩

def start : Assembly :=
  opening receptionist reception

theorem orderly_start : Orderly start := by
  obtain ⟨posted, hKeeps, hEmpty, hQueue⟩ := posted_of_bind (by decide) bind_receptionist
  exact orderly_opening posted hKeeps hEmpty hQueue

/-- Both register, and Ann does so once more with a ring, and under another key. Nothing but her
first request has been served then. -/
def busy : Assembly :=
  turns [.joins ann.endpoint, .joins bob.endpoint, .registers 0 meeting none, .serves,
    .registers 1 meeting bobAgain.ring, .registers 0 meeting (some ring), .registers 0 lunch none]
    start

theorem run_busy : ∃ trace, Run Step start trace busy :=
  orderly_start.run_turns _

/-- What can be seen of a member that is not withdrawing. -/
def shown? (A : Assembly) (i : Nat) : Option (String × List (ServiceKey × Option RingName)) :=
  match A.members.object i with
  | some ⟨c, []⟩ => some (c.endpoint.text, c.registrations)
  | _ => none

theorem exists_member {e : Endpoint} {registrations : List (ServiceKey × Option RingName)} :
    shown? A i = some (e.text, registrations) →
      ∃ c, A.members.object i = some ⟨c, []⟩ ∧ c.endpoint = e ∧
        c.registrations = registrations := by
  intro hShown
  unfold shown? at hShown
  split at hShown
  next c hMember =>
    obtain ⟨hText, rfl⟩ := Prod.mk.inj (Option.some.inj hShown)
    refine ⟨c, hMember, ?_, rfl⟩
    cases hEndpoint : c.endpoint
    cases e
    simpa [hEndpoint] using hText
  next => cases hShown

set_option maxRecDepth 10000 in
theorem ann_busy :
    shown? busy 0 = some (ann.endpoint.text, [(meeting, some ring), (lunch, none)]) := by
  decide +kernel

set_option maxRecDepth 10000 in
theorem bob_busy : shown? busy 1 = some (bob.endpoint.text, [(meeting, bobAgain.ring)]) := by
  decide +kernel

set_option maxRecDepth 10000 in
theorem room_busy : (busy.host.sockets.object busy.daemon.socket).full = false := by
  decide +kernel

end Sample

/-- Ann and Bob have called, and most of their requests still wait. If they are all served, Ann is
listed with the ring that she named last; if she withdraws from all keys before that, she is listed
nowhere, and Bob still is. -/
theorem clients_and_daemon_agree_parted :
    (∃ trace A, Run Step Sample.start trace A ∧ A.members = Sample.busy.members ∧
      (A.daemon.registry.peers meeting).filter (·.endpoint == ann.endpoint) =
        [⟨ann.endpoint, some Sample.ring⟩]) ∧
    ∃ c trace A, Sample.busy.members.object 0 = some ⟨c, []⟩ ∧ c.endpoint = ann.endpoint ∧
      Run Step Sample.start trace A ∧
        A.members =
            Sample.busy.members.set 0 (some ⟨(c.deregisterAll Sample.busy.host).1, []⟩) ∧
          (∀ key, ∀ p ∈ A.daemon.registry.peers key, p.endpoint.key ≠ ann.endpoint.key) ∧
            (A.daemon.registry.peers meeting).filter (·.endpoint == bob.endpoint) =
              [⟨bob.endpoint, bobAgain.ring⟩] := by
  obtain ⟨trace, run⟩ := Sample.run_busy
  obtain ⟨orderly, -⟩ := orderly_of_run Sample.orderly_start run
  obtain ⟨c, hAnn, hEndpoint, hRegistrations⟩ := Sample.exists_member Sample.ann_busy
  obtain ⟨b, hBob, hBobs, hBobRegistrations⟩ := Sample.exists_member Sample.bob_busy
  constructor
  · obtain ⟨trace', A, run', -, hMembers, hDrained⟩ := orderly.exists_drained
    obtain ⟨hAgree, -⟩ := clients_and_daemon_agree (by decide) Sample.bind_receptionist
      (run.trans run') (hMembers ▸ hAnn)
    obtain ⟨-, -, hOnce, -⟩ := hAgree hDrained
    have hListed := hOnce meeting (some Sample.ring) (hRegistrations ▸ .head _)
    rw [hEndpoint] at hListed
    exact ⟨_, A, run.trans run', hMembers, hListed⟩
  · obtain ⟨-, hLeave⟩ := clients_and_daemon_agree (by decide) Sample.bind_receptionist run hAnn
    obtain ⟨hDone, later, hWithdrew, run'⟩ := hLeave rfl Sample.room_busy
    have hDone : (c.deregisterAll Sample.busy.host).1 = c.remembering [] := hDone
    obtain ⟨orderly', -⟩ := orderly_of_run Sample.orderly_start run'
    obtain ⟨rest, A, run'', hServed, hMembers, hDrained⟩ := orderly'.exists_drained
    have whole := run'.trans run''
    have hWithdrawn : Withdrawn (trace ++ .leaves 0 :: later ++ rest) 0 := by
      refine ⟨trace, later ++ rest, by simp, fun key ring hMem => ?_⟩
      rcases List.mem_append.mp hMem with hLater | hRest
      · exact nomatch hWithdrew _ hLater
      · exact nomatch hServed _ hRest
    have hMember : A.members.object 0 = some ⟨(c.deregisterAll Sample.busy.host).1, []⟩ :=
      hMembers ▸ Numbered.object_set_same _ _ _
    have hOther : A.members.object 1 = some ⟨b, []⟩ :=
      hMembers ▸ (Numbered.object_set_other _ (by decide)).trans hBob
    obtain ⟨hAgree, -⟩ :=
      clients_and_daemon_agree (by decide) Sample.bind_receptionist whole hMember
    obtain ⟨hAgree', -⟩ :=
      clients_and_daemon_agree (by decide) Sample.bind_receptionist whole hOther
    obtain ⟨-, -, -, hNowhere⟩ := hAgree hDrained
    obtain ⟨-, -, hOnce, -⟩ := hAgree' hDrained
    have hStays := hOnce meeting bobAgain.ring (hBobRegistrations ▸ .head _)
    have hGone := hNowhere hWithdrawn rfl
    simp only [hDone, Client.remembering, hEndpoint] at hGone
    rw [hBobs] at hStays
    exact ⟨c, _, A, hAnn, hEndpoint, whole, hMembers, hGone, hStays⟩

end Assembly
end RingBus
