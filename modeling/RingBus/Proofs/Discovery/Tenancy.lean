import RingBus.Proofs.Discovery.Listing
import RingBus.Proofs.Kernel
import RingBus.Proofs.Sockets

/-!
# Whose socket a path leads to

Daemons and clients are started at endpoints and dropped again, in any order. Starting one takes
the place of what is there, and dropping one empties the place of its endpoint, whoever holds it by
then.

* `Neighbourhood.Step`: one party is started, is refused, or is dropped.
* `Neighbourhood.Settled`: the parties that are there are those that were started and not dropped.
* `Neighbourhood.Undermined`: an earlier holder of the place was dropped after the last one had
  started, which is the one way in which the last one becomes unreachable.
-/

namespace RingBus

/-- Somebody with a socket of its own. -/
inductive Party
  | daemon (d : Daemon)
  | client (c : Client)

namespace Party

/-- Where a party is bound. -/
def endpoint : Party → Endpoint
  | daemon d => d.endpoint
  | client c => c.endpoint

/-- The socket of a party. -/
def socket : Party → Nat
  | daemon d => d.socket
  | client c => c.socket

/-- The host after the party was dropped. -/
def close : Party → Host → Host
  | daemon d, h => d.close h
  | client c, h => c.close h

theorem close_eq (p : Party) (h : Host) :
    p.close h = (h.removeFile p.endpoint.text).close p.socket := by
  cases p <;> rfl

end Party

/-- A host, and the parties on it by the order in which they were started. A party that was
dropped leaves its number behind. -/
structure Neighbourhood where
  host : Host
  parties : Numbered (Option Party)

namespace Neighbourhood

/-- What can be seen of a step. -/
inductive Event
  /-- Party number `i` was started at an endpoint. -/
  | bound (i : Nat) (e : Endpoint)
  /-- Nobody could be started at an endpoint. -/
  | refused (e : Endpoint)
  | dropped (i : Nat)

/-- Daemons and clients start at endpoints, or fail to; or one of them is dropped. -/
inductive Step : Neighbourhood → Event → Neighbourhood → Prop
  | startDaemon {N : Neighbourhood} {h : Host} {d : Daemon} (e : Endpoint) (evicts : Bool) :
    Daemon.bind e evicts N.host = (h, .ok d) →
      Step N (.bound N.parties.count e) ⟨h, N.parties.add (some (.daemon d))⟩
  | startClient {N : Neighbourhood} {h : Host} {c : Client} (e daemon : Endpoint) :
    Client.bindAt e daemon N.host = (h, .ok c) →
      Step N (.bound N.parties.count e) ⟨h, N.parties.add (some (.client c))⟩
  | refuseDaemon {N : Neighbourhood} {h : Host} {cause : DiscoveryError} (e : Endpoint)
      (evicts : Bool) :
    Daemon.bind e evicts N.host = (h, .error cause) → Step N (.refused e) ⟨h, N.parties⟩
  | refuseClient {N : Neighbourhood} {h : Host} {cause : DiscoveryError} (e daemon : Endpoint) :
    Client.bindAt e daemon N.host = (h, .error cause) → Step N (.refused e) ⟨h, N.parties⟩
  | drop {N : Neighbourhood} {i : Nat} {p : Party} :
    N.parties.object i = some p →
      Step N (.dropped i) ⟨p.close N.host, N.parties.set i none⟩

/-- A host on which nobody was started. -/
def vacant (h : Host) : Neighbourhood :=
  ⟨h, ⟨0, fun _ => none⟩⟩

/-! ## What a step does -/

variable {N N' : Neighbourhood} {event : Event} {trace before after : List Event} {i j : Nat}
  {e e' : Endpoint} {π : List String} {h : Host} {f : Files} {p q : Party} {path : String}

/-- A step installs a party with a socket of its own, changes nothing, or takes a party away
together with whatever file is at its endpoint. -/
theorem Step.cases (step : Step N event N') :
    (∃ p π, event = .bound N.parties.count p.endpoint ∧
        N.host.files.place? p.endpoint.text = some π ∧ N.host.files.isDirectory π = false ∧
        p.socket = N.host.sockets.count ∧ N' = ⟨N.host.installed π, N.parties.add (some p)⟩) ∨
      (∃ e, event = .refused e ∧ N' = N) ∨
      ∃ i p, event = .dropped i ∧ N.parties.object i = some p ∧
        N' = ⟨(N.host.removeFile p.endpoint.text).close p.socket, N.parties.set i none⟩ := by
  -- Daemons and clients are bound in the same way, so both count as parties.
  cases step with
  | startDaemon e evicts hBind =>
    rcases Daemon.bind_cases N.host e evicts with ⟨π, hPlace, hFile, hBound⟩ | ⟨_, hRefused⟩
    · cases hBind.symm.trans hBound
      exact .inl ⟨.daemon ⟨_, e, Registry.empty, evicts⟩, π, rfl, hPlace, hFile, rfl, rfl⟩
    · cases hBind.symm.trans hRefused
  | startClient e daemon hBind =>
    rcases Client.bindAt_cases N.host e daemon with ⟨π, hPlace, hFile, hBound⟩ | ⟨_, hRefused⟩
    · cases hBind.symm.trans hBound
      exact .inl ⟨.client ⟨_, e, daemon, []⟩, π, rfl, hPlace, hFile, rfl, rfl⟩
    · cases hBind.symm.trans hRefused
  | refuseDaemon e evicts hBind =>
    rcases Daemon.bind_cases N.host e evicts with ⟨_, _, _, hBound⟩ | ⟨_, hRefused⟩
    · cases hBind.symm.trans hBound
    · cases hBind.symm.trans hRefused
      exact .inr (.inl ⟨e, rfl, rfl⟩)
  | refuseClient e daemon hBind =>
    rcases Client.bindAt_cases N.host e daemon with ⟨_, _, _, hBound⟩ | ⟨_, hRefused⟩
    · cases hBind.symm.trans hBound
    · cases hBind.symm.trans hRefused
      exact .inr (.inl ⟨e, rfl, rfl⟩)
  | drop hParty =>
    refine .inr (.inr ⟨_, _, rfl, hParty, ?_⟩)
    rw [Party.close_eq]

/-! ## Who is there -/

/-- The parties fit the events since the tree of files was `f`. Nobody sends anything here, so their
sockets are as they were opened. -/
structure Settled (f : Files) (trace : List Event) (N : Neighbourhood) : Prop where
  directories : f.SameDirectories N.host.files
  bound_lt : ∀ {i e}, .bound i e ∈ trace → i < N.parties.count
  bound_unique : ∀ {i e e'}, .bound i e ∈ trace → .bound i e' ∈ trace → e = e'
  bound_of_party : ∀ {i p}, N.parties.object i = some p → .bound i p.endpoint ∈ trace
  party_of_bound : ∀ {i e}, .bound i e ∈ trace → .dropped i ∉ trace →
    ∃ p, N.parties.object i = some p ∧ p.endpoint = e
  socket_lt : ∀ {i p}, N.parties.object i = some p → p.socket < N.host.sockets.count
  untouched : ∀ {i p}, N.parties.object i = some p →
    N.host.sockets.object p.socket = ⟨[], true, false⟩
  apart : ∀ {i j p q}, N.parties.object i = some p → N.parties.object j = some q →
    p.socket = q.socket → i = j

/-- A neighbourhood without parties is settled. -/
theorem settled_vacant (h : Host) : Settled h.files [] (vacant h) where
  directories := .refl _
  bound_lt hBound := absurd hBound List.not_mem_nil
  bound_unique hBound := absurd hBound List.not_mem_nil
  bound_of_party hParty := by cases hParty
  party_of_bound hBound := absurd hBound List.not_mem_nil
  socket_lt hParty := by cases hParty
  untouched hParty := by cases hParty
  apart hParty := by cases hParty

theorem bound_mem_snoc :
    .bound i e ∈ trace ++ [event] ↔ .bound i e ∈ trace ∨ event = .bound i e := by
  rw [List.mem_append, List.mem_singleton, eq_comm]

namespace Settled

variable (settled : Settled f trace N)
include settled

/-- Whoever starts gets a new socket at the place of its path, and everything else stays settled. -/
theorem installed (hSocket : p.socket = N.host.sockets.count)
    (hFile : N.host.files.isDirectory π = false) :
    Settled f (trace ++ [.bound N.parties.count p.endpoint])
      ⟨N.host.installed π, N.parties.add (some p)⟩ where
  directories :=
    settled.directories.trans (Files.sameDirectories_put_socket hFile).symm
  bound_lt {i e} hBound := by
    rcases bound_mem_snoc.mp hBound with hOld | hNew
    · exact Nat.lt_succ_of_lt (settled.bound_lt hOld)
    · cases hNew
      exact Nat.lt_succ_self _
  bound_unique {i e e'} hBound hBound' := by
    -- The newcomer's number was never given out before.
    rcases bound_mem_snoc.mp hBound with hOld | hNew
    · rcases bound_mem_snoc.mp hBound' with hOld' | hNew'
      · exact settled.bound_unique hOld hOld'
      · cases hNew'
        exact absurd (settled.bound_lt hOld) (Nat.lt_irrefl _)
    · rcases bound_mem_snoc.mp hBound' with hOld' | hNew'
      · cases hNew
        exact absurd (settled.bound_lt hOld') (Nat.lt_irrefl _)
      · cases hNew
        cases hNew'
        rfl
  bound_of_party {i q} hParty := by
    rcases Numbered.of_object_add hParty with ⟨rfl, hNew⟩ | ⟨_, hOld⟩
    · cases hNew
      exact bound_mem_snoc.mpr (.inr rfl)
    · exact bound_mem_snoc.mpr (.inl (settled.bound_of_party hOld))
  party_of_bound {i e} hBound hStays := by
    rcases bound_mem_snoc.mp hBound with hOld | hNew
    · obtain ⟨q, hParty, hEndpoint⟩ :=
        settled.party_of_bound hOld fun hDropped => hStays (List.mem_append_left _ hDropped)
      refine ⟨q, ?_, hEndpoint⟩
      exact (Numbered.object_add_other _ (Nat.ne_of_lt (settled.bound_lt hOld))).trans hParty
    · cases hNew
      exact ⟨p, Numbered.object_add_count _ _, rfl⟩
  socket_lt {i q} hParty := by
    rcases Numbered.of_object_add hParty with ⟨_, hNew⟩ | ⟨_, hOld⟩
    · cases hNew
      exact hSocket ▸ Nat.lt_succ_self _
    · exact Nat.lt_succ_of_lt (settled.socket_lt hOld)
  untouched {i q} hParty := by
    rcases Numbered.of_object_add hParty with ⟨_, hNew⟩ | ⟨_, hOld⟩
    · cases hNew
      rw [hSocket]
      exact Numbered.object_add_count _ _
    · exact (Numbered.object_add_other _ (Nat.ne_of_lt (settled.socket_lt hOld))).trans
        (settled.untouched hOld)
  apart {i j q r} hParty hParty' hSame := by
    -- The number of the new socket is none of the earlier ones.
    rcases Numbered.of_object_add hParty with ⟨hi, hNew⟩ | ⟨_, hOld⟩
    · rcases Numbered.of_object_add hParty' with ⟨hj, _⟩ | ⟨_, hOld'⟩
      · exact hi.trans hj.symm
      · cases hNew
        exact absurd (hSocket.symm.trans hSame) (Nat.ne_of_gt (settled.socket_lt hOld'))
    · rcases Numbered.of_object_add hParty' with ⟨_, hNew'⟩ | ⟨_, hOld'⟩
      · cases hNew'
        exact absurd (hSame.trans hSocket) (Nat.ne_of_lt (settled.socket_lt hOld))
      · exact settled.apart hOld hOld' hSame

/-- Whoever is dropped takes the file at its path away, whosever it is, and everything else stays
settled. -/
theorem dropped (hParty : N.parties.object j = some q) :
    Settled f (trace ++ [.dropped j])
      ⟨(N.host.removeFile q.endpoint.text).close q.socket, N.parties.set j none⟩ where
  directories := settled.directories.trans (Files.sameDirectories_remove _ _).symm
  bound_lt {i e} hBound := by
    rcases bound_mem_snoc.mp hBound with hOld | hNew
    · exact settled.bound_lt hOld
    · cases hNew
  bound_unique {i e e'} hBound hBound' := by
    rcases bound_mem_snoc.mp hBound with hOld | hNew
    · rcases bound_mem_snoc.mp hBound' with hOld' | hNew'
      · exact settled.bound_unique hOld hOld'
      · cases hNew'
    · cases hNew
  bound_of_party {i p} h := by
    rcases Numbered.of_object_set h with ⟨_, hNone⟩ | ⟨_, hOld⟩
    · cases hNone
    · exact bound_mem_snoc.mpr (.inl (settled.bound_of_party hOld))
  -- Whoever was bound and has not been dropped is another party than the one dropped now.
  party_of_bound {i e} hBound hStays := by
    rw [List.mem_append, List.mem_singleton, not_or] at hStays
    rcases bound_mem_snoc.mp hBound with hOld | hNew
    · obtain ⟨p, hThere, hEndpoint⟩ := settled.party_of_bound hOld hStays.1
      have hOther : i ≠ j := fun hSame => hStays.2 (hSame ▸ rfl)
      exact ⟨p, (Numbered.object_set_other _ hOther).trans hThere, hEndpoint⟩
    · cases hNew
  socket_lt {i p} h := by
    rcases Numbered.of_object_set h with ⟨_, hNone⟩ | ⟨_, hOld⟩
    · cases hNone
    · exact settled.socket_lt hOld
  untouched {i p} h := by
    rcases Numbered.of_object_set h with ⟨_, hNone⟩ | ⟨hOther, hOld⟩
    · cases hNone
    · -- Only the socket of the one who left is closed.
      have hApart : p.socket ≠ q.socket := fun hSame => hOther (settled.apart hOld hParty hSame)
      exact (Numbered.object_set_other _ hApart).trans (settled.untouched hOld)
  apart {i k p r} h h' := by
    rcases Numbered.of_object_set h with ⟨_, hNone⟩ | ⟨_, hOld⟩
    · cases hNone
    · rcases Numbered.of_object_set h' with ⟨_, hNone'⟩ | ⟨_, hOld'⟩
      · cases hNone'
      · exact settled.apart hOld hOld'

theorem refused : Settled f (trace ++ [.refused e]) N := by
  have hBound : ∀ {i e'}, .bound i e' ∈ trace ++ [.refused e] ↔ .bound i e' ∈ trace := by
    intro i e'
    simp
  exact
    { directories := settled.directories
      bound_lt := fun h => settled.bound_lt (hBound.mp h)
      bound_unique := fun h h' => settled.bound_unique (hBound.mp h) (hBound.mp h')
      bound_of_party := fun h => hBound.mpr (settled.bound_of_party h)
      party_of_bound := fun h hStays => settled.party_of_bound (hBound.mp h) fun hDropped =>
        hStays (List.mem_append_left _ hDropped)
      socket_lt := settled.socket_lt
      untouched := settled.untouched
      apart := settled.apart }

/-- Every step keeps the neighbourhood settled. -/
theorem step (step : Step N event N') : Settled f (trace ++ [event]) N' := by
  rcases step.cases with ⟨p, π, rfl, _, hFile, hSocket, rfl⟩ | ⟨e, rfl, rfl⟩ |
    ⟨i, p, rfl, hParty, rfl⟩
  · exact settled.installed hSocket hFile
  · exact settled.refused
  · exact settled.dropped hParty

end Settled

/-- Every run leaves the neighbourhood settled. -/
theorem settled_of_run (run : Run Step (vacant h) trace N) : Settled h.files trace N := by
  induction run with
  | nil => exact settled_vacant h
  | snoc _ step ih => exact ih.step step

/-! ## The last one at a place -/

/-- Somebody who was started at the place before was dropped after the last one had started. -/
def Undermined (f : Files) (π : List String) (before after : List Event) : Prop :=
  ∃ j e, .bound j e ∈ before ∧ f.place? e.text = some π ∧ .dropped j ∈ after

/-- Party number `i` was the last one that was started at a place, and is there. Its file is, too,
unless it was undermined. -/
structure Holds (f : Files) (π : List String) (before : List Event) (i : Nat) (e : Endpoint)
    (after : List Event) (N : Neighbourhood) (p : Party) : Prop where
  party : N.parties.object i = some p
  endpoint : p.endpoint = e
  undermined : Undermined f π before after → N.host.files.entry π = none
  file : ¬ Undermined f π before after → N.host.files.entry π = some (.socket p.socket)

namespace Holds

/-- A place is undermined when somebody who was bound there before the last is dropped. -/
theorem undermined_snoc :
    Undermined f π before (after ++ [event]) ↔
      Undermined f π before after ∨
        ∃ j e, .bound j e ∈ before ∧ f.place? e.text = some π ∧ event = .dropped j := by
  simp only [Undermined, List.mem_append, List.mem_singleton, and_or_left, exists_or, eq_comm]

theorem not_isDirectory (holds : Holds f π before i e after N p) :
    N.host.files.isDirectory π = false := by
  rw [← Bool.not_eq_true, Files.isDirectory_iff]
  intro hDirectory
  by_cases hUndermined : Undermined f π before after
  · cases hDirectory.symm.trans (holds.undermined hUndermined)
  · cases hDirectory.symm.trans (holds.file hUndermined)

theorem mem_trace : .bound i e ∈ before ++ .bound i e :: after :=
  List.mem_append_right _ (.head _)

/-- A step that drops no earlier party of the place, and leaves the file. -/
theorem kept (holds : Holds f π before i e after N p)
    (hNot : ∀ j e', .bound j e' ∈ before → f.place? e'.text = some π → event ≠ .dropped j)
    (hParty : N'.parties.object i = N.parties.object i)
    (hEntry : N'.host.files.entry π = N.host.files.entry π) :
    Holds f π before i e (after ++ [event]) N' p := by
  -- The event does not undermine the place, so nothing has changed about that.
  have hSame : Undermined f π before (after ++ [event]) ↔ Undermined f π before after := by
    rw [undermined_snoc]
    refine or_iff_left ?_
    rintro ⟨j, e', hBefore, hHere, hDropped⟩
    exact hNot j e' hBefore hHere hDropped
  refine ⟨hParty.trans holds.party, holds.endpoint, ?_, ?_⟩
  · intro hUndermined
    exact hEntry.trans (holds.undermined (hSame.mp hUndermined))
  · intro hSound
    exact hEntry.trans (holds.file (mt hSame.mpr hSound))

/-- Whoever is started at another place leaves this one as it is. -/
theorem installed {π' : List String} (holds : Holds f π before i e after N p)
    (settled : Settled f (before ++ .bound i e :: after) N)
    (hPlace : N.host.files.place? q.endpoint.text = some π')
    (hElsewhere : f.place? q.endpoint.text ≠ some π) :
    Holds f π before i e (after ++ [.bound N.parties.count q.endpoint])
      ⟨N.host.installed π', N.parties.add (some q)⟩ p := by
  refine holds.kept (fun _ _ _ _ h => Event.noConfusion h) ?_ ?_
  · exact Numbered.object_add_other _ (Nat.ne_of_lt (settled.bound_lt mem_trace))
  · refine Files.entry_put_of_ne ?_
    rintro rfl
    exact hElsewhere (settled.directories.place?.trans hPlace)

/-- Whoever is dropped takes the file away if it was started at the same place, and leaves this
place as it is otherwise. -/
theorem dropped (holds : Holds f π before i e after N p)
    (settled : Settled f (before ++ .bound i e :: after) N)
    (hParty : N.parties.object j = some q) (hOther : i ≠ j)
    (hLast : ∀ j e', .bound j e' ∈ after → f.place? e'.text ≠ some π) :
    Holds f π before i e (after ++ [.dropped j])
      ⟨(N.host.removeFile q.endpoint.text).close q.socket, N.parties.set j none⟩ p := by
  have hBound := settled.bound_of_party hParty
  have hThere : (N.parties.set j none).object i = N.parties.object i :=
    Numbered.object_set_other _ hOther
  by_cases hPlace : f.place? q.endpoint.text = some π
  · -- The file at this place is removed, whoever made it.
    have hNow : N.host.files.place? q.endpoint.text = some π :=
      settled.directories.place?.symm.trans hPlace
    have hEmptied : (N.host.files.remove q.endpoint.text).entry π = none := by
      rw [Files.remove_of_place hNow holds.not_isDirectory]
      exact if_pos rfl
    refine ⟨hThere.trans holds.party, holds.endpoint, fun _ => hEmptied, ?_⟩
    intro hSound
    -- It was started at this place, and neither last nor after the last one.
    have hBefore : .bound j q.endpoint ∈ before := by
      rcases List.mem_append.mp hBound with hBefore | hFrom
      · exact hBefore
      · rcases List.mem_cons.mp hFrom with hSame | hAfter
        · cases hSame
          exact absurd rfl hOther
        · exact absurd hPlace (hLast _ _ hAfter)
    exact absurd (undermined_snoc.mpr (.inr ⟨j, _, hBefore, hPlace, rfl⟩)) hSound
  · have hEntry : (N.host.files.remove q.endpoint.text).entry π = N.host.files.entry π := by
      refine Files.entry_remove_of_ne ?_
      rw [← settled.directories.place?]
      exact hPlace
    refine holds.kept ?_ hThere hEntry
    rintro _ e' hBefore hHere hDropped
    cases hDropped
    -- A party has one endpoint.
    rw [settled.bound_unique (List.mem_append_left _ hBefore) hBound] at hHere
    exact hPlace hHere

/-- As long as nobody else is bound at the place and the last one stays, the last one holds it,
undermined or not. -/
theorem step (holds : Holds f π before i e after N p)
    (settled : Settled f (before ++ .bound i e :: after) N) (step : Step N event N')
    (hLast : ∀ j e', .bound j e' ∈ after ++ [event] → f.place? e'.text ≠ some π)
    (hStays : event ≠ .dropped i) : Holds f π before i e (after ++ [event]) N' p := by
  rcases step.cases with ⟨q, π', rfl, hPlace, _, _, rfl⟩ | ⟨e, rfl, rfl⟩ | ⟨j, q, rfl, hParty, rfl⟩
  · exact holds.installed settled hPlace
      (hLast _ _ (List.mem_append_right _ (List.mem_singleton_self _)))
  · exact holds.kept (fun _ _ _ _ h => Event.noConfusion h) rfl rfl
  · refine holds.dropped settled hParty (fun hSame => hStays (hSame ▸ rfl)) ?_
    intro k e' hBound
    exact hLast k e' (List.mem_append_left _ hBound)

/-- Whoever is bound last at a place holds it then. -/
theorem start (settled : Settled f before N)
    (step : Step N (.bound i e) N') (hPlace : f.place? e.text = some π) :
    ∃ p, Holds f π before i e [] N' p := by
  rcases step.cases with ⟨p, π', hEvent, hHere, _, hSocket, rfl⟩ | ⟨_, hEvent, _⟩ |
    ⟨_, _, hEvent, _⟩
  · cases hEvent
    -- Directories never change, so the place is the one that the path named at first.
    obtain rfl : π' = π :=
      Option.some.inj (hHere.symm.trans (settled.directories.place?.symm.trans hPlace))
    refine ⟨p, Numbered.object_add_count _ _, rfl, ?_, ?_⟩
    · rintro ⟨_, _, _, _, hDropped⟩
      cases hDropped
    · intro _
      rw [hSocket]
      exact if_pos rfl
  · cases hEvent
  · cases hEvent

end Holds

/-- The last one bound at a place holds it through the rest of a run, unless undermined. -/
theorem holds_of_run (run : Run Step (vacant h) trace N)
    (hTrace : trace = before ++ .bound i e :: after) (hPlace : h.files.place? e.text = some π)
    (hLast : ∀ j e', .bound j e' ∈ after → h.files.place? e'.text ≠ some π)
    (hStays : .dropped i ∉ after) : ∃ p, Holds h.files π before i e after N p := by
  -- On the run, cut at its last step: that step started the party, or came after it.
  induction run generalizing after with
  | nil => simp at hTrace
  | @snoc N N' trace event run step ih =>
    rcases List.eq_nil_or_concat after with rfl | ⟨after', event', rfl⟩
    · -- The party was started by the last step.
      obtain ⟨rfl, hEvent⟩ := List.append_inj' hTrace rfl
      cases hEvent
      exact Holds.start (settled_of_run run) step hPlace
    · rw [List.concat_eq_append] at hTrace hLast hStays ⊢
      rw [← List.cons_append, ← List.append_assoc] at hTrace
      obtain ⟨rfl, hEvent⟩ := List.append_inj' hTrace rfl
      cases hEvent
      obtain ⟨p, holds⟩ := ih rfl
        (fun j e' hBound => hLast j e' (List.mem_append_left _ hBound))
        (fun hDropped => hStays (List.mem_append_left _ hDropped))
      refine ⟨p, holds.step (settled_of_run run) step hLast ?_⟩
      rintro rfl
      exact hStays (List.mem_append_right _ (List.mem_singleton_self _))

/-- Over every run of starting and dropping parties anywhere: the last party that was started at
the place of a path is there as long as it is not dropped, and what is sent to the path arrives at
its socket, unless an earlier party of the same place was dropped since. Then nothing is found at
the path. -/
theorem leads_to_last_unless_undermined
    (run : Run Step (vacant h) (before ++ .bound i e :: after) N)
    (hPath : h.files.place? path = some π) (hAddress : Host.checkAddress path = .ok ())
    (hPlace : h.files.place? e.text = some π)
    (hLast : ∀ j e', .bound j e' ∈ after → h.files.place? e'.text ≠ some π)
    (hStays : .dropped i ∉ after) :
    ∃ p, N.parties.object i = some p ∧ p.endpoint = e ∧
      (¬ Undermined h.files π before after → N.host.LeadsTo path p.socket) ∧
      (Undermined h.files π before after →
        ∀ datagram, N.host.send path datagram = (N.host, .failed (.kernel .noEntry))) := by
  have settled := settled_of_run run
  obtain ⟨p, holds⟩ := holds_of_run run rfl hPlace hLast hStays
  have hNow : N.host.files.place? path = some π := settled.directories.place?.symm.trans hPath
  have hSocket := settled.untouched holds.party
  -- Directories never change, so the path still leads to the place it led to at first.
  refine ⟨p, holds.party, holds.endpoint, ?_, ?_⟩
  · intro hSound
    refine Host.leadsTo_of_reach
      (Host.reach_of_socket hNow hAddress (holds.file hSound) ?_) ?_
    · rw [hSocket]
    · rw [hSocket]
  · intro hUndermined datagram
    exact Host.send_of_error (Host.reach_of_none hNow hAddress (holds.undermined hUndermined))

/-! ### A daemon is started in place of an earlier one -/

open Listing.Sample

/-- A host with nothing but a root directory. -/
def bare : Host :=
  Host.fresh []

/-- The daemon with socket number `n` at the desk. -/
def clerk (n : Nat) : Party :=
  .daemon ⟨n, desk, Registry.empty, false⟩

theorem place_desk : bare.files.place? desk.text = some ["d"] := by
  decide

theorem startDaemon_desk (hDirectories : bare.files.SameDirectories N.host.files) :
    Step N (.bound N.parties.count desk)
      ⟨N.host.installed ["d"], N.parties.add (some (clerk N.host.sockets.count))⟩ := by
  refine .startDaemon desk false ?_
  have hTake : N.host.takeOver desk.text = (N.host.installed ["d"], .ok N.host.sockets.count) :=
    Host.takeOver_of_place (hDirectories.place?.symm.trans place_desk)
      ((hDirectories.isDirectory ["d"]).symm.trans (by decide))
  rw [Daemon.bind, hTake]

/-- Two daemons at the desk, started one after the other. -/
def crowded : Neighbourhood :=
  ⟨(bare.installed ["d"]).installed ["d"],
    (((vacant bare).parties.add (some (clerk 0))).add (some (clerk 1)))⟩

theorem run_crowded : Run Step (vacant bare) [.bound 0 desk, .bound 1 desk] crowded := by
  have hFirst : Run Step (vacant bare) [.bound 0 desk] _ :=
    .snoc .nil (startDaemon_desk (.refl _))
  exact .snoc hFirst (startDaemon_desk (settled_of_run hFirst).directories)

def deserted : Neighbourhood :=
  ⟨(clerk 0).close crowded.host, crowded.parties.set 0 none⟩

theorem run_deserted :
    Run Step (vacant bare) ([.bound 0 desk] ++ .bound 1 desk :: [.dropped 0]) deserted := by
  have hDrop : Step crowded (.dropped 0) deserted := .drop rfl
  exact .snoc run_crowded hDrop

/-- The daemon that was started last is there, and nothing is found at its endpoint. -/
theorem not_always_leads_to_last :
    ¬ ∀ (h : Host) (N : Neighbourhood) (before after : List Event) (i : Nat) (e : Endpoint)
        (path : String) (π : List String),
      Run Step (vacant h) (before ++ .bound i e :: after) N →
        h.files.place? path = some π → Host.checkAddress path = .ok () →
        h.files.place? e.text = some π →
        (∀ j e', .bound j e' ∈ after → h.files.place? e'.text ≠ some π) →
        .dropped i ∉ after →
        ∃ p, N.parties.object i = some p ∧ N.host.LeadsTo path p.socket := by
  intro hAlways
  obtain ⟨p, -, hLeads⟩ := hAlways bare deserted [.bound 0 desk] [.dropped 0] 1 desk desk.text
    ["d"] run_deserted place_desk desk.checkAddress_text place_desk (by simp) (by simp)
  -- Whoever is led to gets every datagram, but the path reaches nobody.
  obtain ⟨_, hSend, -⟩ := hLeads ByteArray.empty
  have hReach : deserted.host.reach desk.text = .error (.kernel .noEntry) := by
    decide
  rw [Host.send_of_error hReach] at hSend
  cases hSend

/-- As long as the earlier daemon is there, the later one is reached under another spelling, too. -/
theorem leads_to_last_unless_undermined_crowded :
    bare.files.place? "//./d" = some ["d"] ∧
      ∃ p, crowded.parties.object 1 = some p ∧ crowded.host.LeadsTo "//./d" p.socket := by
  have hRun : Run Step (vacant bare) ([.bound 0 desk] ++ .bound 1 desk :: []) crowded :=
    run_crowded
  have hPath : bare.files.place? "//./d" = some ["d"] := by decide
  have hSound : ¬ Undermined bare.files ["d"] [.bound 0 desk] [] := by
    rintro ⟨_, _, _, _, hDropped⟩
    cases hDropped
  obtain ⟨p, hParty, -, hLeads, -⟩ := leads_to_last_unless_undermined hRun hPath (by decide)
    place_desk (fun _ _ hBound => absurd hBound List.not_mem_nil) List.not_mem_nil
  exact ⟨hPath, p, hParty, hLeads hSound⟩

end Neighbourhood
end RingBus
