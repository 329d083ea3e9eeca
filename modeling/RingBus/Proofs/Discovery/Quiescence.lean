import Mathlib.Algebra.BigOperators.Group.Finset.Basic
import Mathlib.Algebra.Order.BigOperators.Group.Finset
import RingBus.Proofs.Discovery.Advertising
import RingBus.Proofs.Discovery.Requests
import RingBus.Proofs.Kernel

/-!
# Daemons come to rest

Daemons may be registered with one another and with themselves, so what one of them sends may have
to be handled by the others. All the same their queues run dry: only requests make a daemon send
anything, and what it sends is no request.

* `Datagram.isRequest`: the datagram registers or withdraws somebody.
* `Exchange`: daemons on one host, which serve their queues in any order.
* `Step.served_append_requests`: serving takes a request from a queue, and adds none anywhere.
* `Step.waiting_lt`: a datagram more is served than may have arrived.
-/

namespace RingBus

namespace Datagram

/-- Whether a datagram asks a daemon for anything. -/
def isRequest (bytes : ByteArray) : Bool :=
  match parse bytes with
  | .ok m => m.command != .peer
  | .error _ => false

theorem isRequest_of_idle {bytes : ByteArray} :
    Idle bytes → isRequest (bytes.extract 0 bufferSize) = false := by
  intro h
  unfold isRequest
  split
  next m hParse => simp [h m (parse_extract_ok hParse)]
  next => rfl

end Datagram

theorem Host.receive?_eq_some_iff {h h' : Host} {id room : Nat} {bytes : ByteArray} :
    h.receive? id room = some (h', bytes) ↔
      ∃ first rest, (h.sockets.object id).queue = first :: rest ∧ h' = h.relieved id rest ∧
        bytes = first.extract 0 room := by
  cases hQueue : (h.sockets.object id).queue with
  | nil => simp [receive?_of_nil room hQueue]
  | cons first rest =>
    rw [receive?_of_queue room hQueue]
    simp [eq_comm]

namespace Daemon

variable {d d' : Daemon} {h h' h₁ : Host} {bytes : ByteArray} {n : Notification}

/-! ## One datagram -/

theorem handle_of_not_request : Datagram.isRequest bytes = false → d.handle bytes = (d, []) := by
  intro h
  unfold Datagram.isRequest at h
  cases hParse : Datagram.parse bytes with
  | error _ => exact handle_of_error hParse
  | ok m =>
    rw [handle_of_ok hParse]
    rcases m with ⟨command, key, p⟩
    cases command with
    | peer => rfl
    | register => simp [hParse] at h
    | deregister => simp [hParse] at h

/-- What asks for nothing changes nothing when it is served. -/
theorem attend_of_not_request :
    Datagram.isRequest bytes = false → attend Host.notify (h, d) bytes = (h, d) := by
  intro hIdle
  simp only [attend, handle_of_not_request hIdle]
  rfl

theorem attend_eq_of_serveNext? :
    h.receive? d.socket Datagram.bufferSize = some (h₁, bytes) →
      d.serveNext? h = some (d', h') → attend Host.notify (h₁, d) bytes = (h', d') := by
  intro hReceive hServe
  rw [serveNext?_eq_attend, hReceive] at hServe
  exact congrArg Prod.swap (Option.some.inj hServe)

/-- Whoever gets what is no request stays as it was and sends nothing. -/
theorem serveNext?_of_not_request :
    h.receive? d.socket Datagram.bufferSize = some (h₁, bytes) →
      Datagram.isRequest bytes = false → d.serveNext? h = some (d, h₁) := by
  intro hReceive hIdle
  rw [serveNext?_eq_attend, hReceive, Option.map_some, attend_of_not_request hIdle]
  rfl

theorem socket_attend {σ : Type} (send : σ → Notification → σ × Outcome) (w : σ × Daemon)
    (bytes : ByteArray) : (attend send w bytes).2.socket = w.2.socket := by
  obtain ⟨registry, hHandle⟩ := exists_handle w.2 bytes
  simp only [attend, hHandle]

/-- What a daemon sends is a message, and no request. -/
theorem isRequest_of_mem_handle :
    n ∈ (d.handle bytes).2 →
      Datagram.isRequest (n.message.encode.extract 0 Datagram.bufferSize) = false := by
  intro hMem
  exact Datagram.isRequest_of_idle (idle_of_mem_handle hMem)

/-- Daemons send nothing but word of peers. -/
theorem command_of_mem_handle : n ∈ (d.handle bytes).2 → n.message.command = .peer := by
  intro hMem
  exact idle_of_mem_handle hMem _ n.message.parse_encode

/-- A daemon sends something only if somebody registers, and then one notification to and one about
each of the others who are listed. -/
theorem length_handle_le :
    (d.handle bytes).2 ≠ [] →
      ∃ key p, Datagram.parse bytes = .ok ⟨.register, key, p⟩ ∧
        (d.handle bytes).2.length ≤ 2 * (d.registry.peers key).length := by
  intro hSome
  cases hParse : Datagram.parse bytes with
  | error _ =>
    rw [handle_of_error hParse] at hSome
    exact absurd rfl hSome
  | ok m =>
    rw [handle_of_ok hParse] at hSome ⊢
    rcases m with ⟨command, key, p⟩
    cases command with
    | register =>
      have hOthers : (Listing.without p.endpoint (d.registry.peers key)).length ≤
          (d.registry.peers key).length := List.length_filter_le _ _
      refine ⟨key, p, rfl, ?_⟩
      simp only [Registry.handle, Registry.register, List.length_append, List.length_map]
      omega
    | deregister => exact absurd rfl hSome
    | peer => exact absurd rfl hSome

/-- Notifications are added behind what waits, wherever they arrive. -/
theorem exists_queue_attend (d : Daemon) (h : Host) (bytes : ByteArray) (id : Nat) :
    ∃ more, (∀ b ∈ more, Datagram.Idle b) ∧
      ((attend Host.notify (h, d) bytes).1.sockets.object id).queue =
        (h.sockets.object id).queue ++ more :=
  (undisturbed_deliver (d := { d with socket := id }) fun _ => idle_of_mem_handle).queue

/-- What is sent reaches sockets and nothing else. -/
theorem shared_deliver (evicts : Bool) (ns : List Notification) (h : Host) (r : Registry) :
    (deliver Host.notify evicts ns h r).1.shared = h.shared := by
  induction ns generalizing h r with
  | nil => rfl
  | cons n rest ih =>
    have hFirst : (h.notify n).1.shared = h.shared := by
      unfold Host.notify
      rcases h.send_cases n.recipient.text n.message.encode with
        ⟨_, _, hSend⟩ | ⟨_, _, hSend⟩ | ⟨_, _, _, hSend⟩ <;> rw [hSend]
      rfl
    exact (ih _ _).trans hFirst

/-- A daemon that serves keeps its socket, and what is shared stays as it is. -/
theorem serveNext?_keeps :
    d.serveNext? h = some (d', h') → d'.socket = d.socket ∧ h'.shared = h.shared := by
  intro hServe
  cases hReceive : h.receive? d.socket Datagram.bufferSize with
  | none =>
    rw [serveNext?_eq_attend, hReceive] at hServe
    cases hServe
  | some received =>
    obtain ⟨h₁, bytes⟩ := received
    have hAttend := attend_eq_of_serveNext? hReceive hServe
    have hSocket := socket_attend Host.notify (h₁, d) bytes
    -- Neither receiving nor sending touches what is shared.
    have hSent : (attend Host.notify (h₁, d) bytes).1.shared = h₁.shared :=
      shared_deliver _ _ _ _
    have hTaken : h₁.shared = h.shared := by
      obtain ⟨_, _, -, rfl, -⟩ := Host.receive?_eq_some_iff.mp hReceive
      rfl
    rw [hAttend] at hSocket hSent
    exact ⟨hSocket, hSent.trans hTaken⟩

end Daemon

/-! ## Daemons on one host -/

/-- Daemons, and the host that holds their queues. -/
structure Exchange where
  host : Host
  daemons : List Daemon

namespace Exchange

/-- A daemon, as it was before, got a datagram. -/
structure Event where
  daemon : Daemon
  datagram : ByteArray

/-- What a daemon sets out to send. -/
def Event.emitted (e : Event) : List Notification :=
  (e.daemon.handle e.datagram).2

/-- Any of the daemons whose queue is not empty serves the oldest datagram. -/
inductive Step (X : Exchange) : Event → Exchange → Prop
  | serve {i : Nat} {d d' : Daemon} {h h' : Host} {bytes : ByteArray} :
    X.daemons[i]? = some d → X.host.receive? d.socket Datagram.bufferSize = some (h, bytes) →
      d.serveNext? X.host = some (d', h') → Step X ⟨d, bytes⟩ ⟨h', X.daemons.set i d'⟩

/-- The sockets that the daemons receive from. -/
def sockets (X : Exchange) : Finset Nat :=
  (X.daemons.map Daemon.socket).toFinset

/-- The datagrams that wait at a socket. -/
def queue (X : Exchange) (id : Nat) : List ByteArray :=
  (X.host.sockets.object id).queue

/-- How many datagrams wait for a daemon. -/
def waiting (X : Exchange) : Nat :=
  ∑ id ∈ X.sockets, (X.queue id).length

/-- The requests among the datagrams at a socket, as they are going to be received. -/
def requests (X : Exchange) (id : Nat) : List ByteArray :=
  ((X.queue id).map (·.extract 0 Datagram.bufferSize)).filter Datagram.isRequest

/-- How many requests wait for a daemon. -/
def pending (X : Exchange) : Nat :=
  ∑ id ∈ X.sockets, (X.requests id).length

/-- The requests that were served at a socket. -/
def served (trace : List Event) (id : Nat) : List ByteArray :=
  ((trace.filter (·.daemon.socket = id)).map Event.datagram).filter Datagram.isRequest

variable {X X' : Exchange} {e : Event} {trace : List Event} {id : Nat}

/-! ## Steps -/

theorem served_append (trace trace' : List Event) (id : Nat) :
    served (trace ++ trace') id = served trace id ++ served trace' id := by
  simp [served]

namespace Step

variable (step : Step X e X')
include step

/-- The daemon of a step took the oldest datagram from its queue and attended to it. -/
theorem inversion :
    ∃ first rest, X.queue e.daemon.socket = first :: rest ∧
      e.datagram = first.extract 0 Datagram.bufferSize ∧
      X'.host =
        (Daemon.attend Host.notify (X.host.relieved e.daemon.socket rest, e.daemon) e.datagram).1 ∧
      e.daemon.socket ∈ X.sockets ∧ X'.sockets = X.sockets := by
  cases step with
  | @serve i d d' h h' bytes hDaemon hReceive hServe =>
    obtain ⟨first, rest, hQueue, rfl, rfl⟩ := Host.receive?_eq_some_iff.mp hReceive
    have hAttend := Daemon.attend_eq_of_serveNext? hReceive hServe
    have hSocket : d'.socket = d.socket := by
      have hKept := Daemon.socket_attend Host.notify (X.host.relieved d.socket rest, d)
        (first.extract 0 Datagram.bufferSize)
      rwa [hAttend] at hKept
    -- The daemon is put back with the same socket, so the sockets of all daemons are the same.
    have hMap : (X.daemons.set i d').map Daemon.socket = X.daemons.map Daemon.socket := by
      obtain ⟨hLength, rfl⟩ := List.getElem?_eq_some_iff.mp hDaemon
      rw [List.map_set, hSocket, ← List.getElem_map Daemon.socket (h := by simpa using hLength),
        List.set_getElem_self]
    refine ⟨first, rest, hQueue, rfl, (congrArg Prod.fst hAttend).symm, ?_, ?_⟩
    · simp only [sockets, List.mem_toFinset, List.mem_map]
      exact ⟨d, List.mem_of_getElem? hDaemon, rfl⟩
    · simp only [sockets, hMap]

/-- Steps change neither which daemons there are nor where they receive. -/
theorem sockets_eq : X'.sockets = X.sockets := by
  obtain ⟨_, _, _, _, _, _, hSockets⟩ := step.inversion
  exact hSockets

/-- Serving takes a request off the front of a queue, and puts none into any. -/
theorem served_append_requests (id : Nat) : served [e] id ++ X'.requests id = X.requests id := by
  obtain ⟨first, rest, hQueue, hDatagram, hHost, _, _⟩ := step.inversion
  obtain ⟨more, hIdle, hMore⟩ := e.daemon.exists_queue_attend
    (X.host.relieved e.daemon.socket rest) e.datagram id
  -- Whatever the step adds to a queue is no request.
  have hNone : (more.map (·.extract 0 Datagram.bufferSize)).filter Datagram.isRequest = [] := by
    apply List.filter_eq_nil_iff.mpr
    intro bytes hMem
    obtain ⟨b, hb, rfl⟩ := List.mem_map.mp hMem
    simp [Datagram.isRequest_of_idle (hIdle b hb)]
  have hAfter : X'.queue id = ((X.host.relieved e.daemon.socket rest).sockets.object id).queue ++
      more := by
    rw [queue, hHost, hMore]
  rw [requests, hAfter, List.map_append, List.filter_append, hNone, List.append_nil, requests]
  by_cases hId : e.daemon.socket = id
  · -- At this socket the oldest datagram is gone.
    subst hId
    have hRest : ((X.host.relieved e.daemon.socket rest).sockets.object e.daemon.socket).queue =
        rest := congrArg Socket.queue (Numbered.object_set_same _ _ _)
    rw [hRest, hQueue]
    simp [served, hDatagram, List.filter_cons]
    split <;> simp
  · rw [Host.relieved, Host.object_withSocket_other (Ne.symm hId)]
    simp [served, hId, queue]

end Step

/-- Notifications arrive at one socket each, if anywhere. -/
theorem sum_length_notify (S : Finset Nat) (h : Host) (n : Notification) :
    ∑ id ∈ S, (((h.notify n).1.sockets.object id).queue.length) ≤
      (∑ id ∈ S, (h.sockets.object id).queue.length) + 1 := by
  rcases h.send_cases n.recipient.text n.message.encode with
    ⟨i, _, hSend⟩ | ⟨_, _, hSend⟩ | ⟨_, _, _, hSend⟩
  · have hLength : ∀ id, ((h.arrived i n.message.encode).sockets.object id).queue.length =
        (h.sockets.object id).queue.length + if id = i then 1 else 0 := by
      intro id
      by_cases hId : id = i
      · rw [hId, Host.queue_arrived]
        simp
      · rw [Host.arrived, Host.object_withSocket_other hId, if_neg hId, Nat.add_zero]
    -- The datagram counts at the one socket that it arrives at, if that is in the set.
    have hOnce : (∑ id ∈ S, if id = i then 1 else 0) ≤ 1 := by
      rw [Finset.sum_ite_eq']
      split <;> simp
    simp only [Host.notify, hSend, hLength, Finset.sum_add_distrib]
    exact Nat.add_le_add_left hOnce _
  · simp [Host.notify, hSend]
  · simp [Host.notify, hSend]

/-- Delivery adds at most one datagram for each notification to all queues together. -/
theorem sum_length_deliver (S : Finset Nat) (evicts : Bool) (ns : List Notification) (h : Host)
    (r : Registry) :
    ∑ id ∈ S, (((Daemon.deliver Host.notify evicts ns h r).1.sockets.object id).queue.length) ≤
      (∑ id ∈ S, (h.sockets.object id).queue.length) + ns.length := by
  induction ns generalizing h r with
  | nil => exact Nat.le_refl _
  | cons n rest ih =>
    have hRest := ih (h.notify n).1
      (if evicts && (h.notify n).2 == .unreachable then r.evict n.recipient else r)
    have hFirst := sum_length_notify S h n
    rw [List.length_cons]
    simp only [Daemon.deliver]
    omega

namespace Step

variable (step : Step X e X')
include step

/-- One datagram is served, and at most as many arrive as are sent. -/
theorem waiting_lt : X'.waiting < X.waiting + e.emitted.length := by
  obtain ⟨first, rest, hQueue, _, hHost, hMem, hSockets⟩ := step.inversion
  have hArrive : X'.waiting ≤
      (∑ id ∈ X.sockets,
        ((X.host.relieved e.daemon.socket rest).sockets.object id).queue.length) +
          e.emitted.length := by
    rw [waiting, hSockets]
    simp only [queue, hHost]
    exact sum_length_deliver _ _ _ _ _
  have hTake : (∑ id ∈ X.sockets,
      ((X.host.relieved e.daemon.socket rest).sockets.object id).queue.length) < X.waiting := by
    have hSame : ((X.host.relieved e.daemon.socket rest).sockets.object e.daemon.socket).queue =
        rest := congrArg Socket.queue (Numbered.object_set_same _ _ _)
    refine Finset.sum_lt_sum (fun id _ => ?_) ⟨e.daemon.socket, hMem, ?_⟩
    · by_cases hId : id = e.daemon.socket
      · rw [hId, hSame, hQueue]
        exact Nat.le_succ _
      · rw [Host.relieved, Host.object_withSocket_other hId, queue]
    · rw [hSame, hQueue]
      exact Nat.lt_succ_self _
  omega

/-- No step makes more requests wait: what daemons send asks for nothing. -/
theorem pending_le : X'.pending ≤ X.pending := by
  rw [pending, pending, step.sockets_eq]
  refine Finset.sum_le_sum fun id _ => ?_
  rw [← step.served_append_requests id, List.length_append]
  exact Nat.le_add_left _ _

/-- Serving a request leaves fewer requests waiting. -/
theorem pending_lt (hRequest : Datagram.isRequest e.datagram = true) :
    X'.pending < X.pending := by
  obtain ⟨_, _, _, _, _, hMem, hSockets⟩ := step.inversion
  rw [pending, pending, hSockets]
  refine Finset.sum_lt_sum (fun id _ => ?_) ⟨e.daemon.socket, hMem, ?_⟩
  · rw [← step.served_append_requests id, List.length_append]
    exact Nat.le_add_left _ _
  · rw [← step.served_append_requests e.daemon.socket, List.length_append]
    have hServed : served [e] e.daemon.socket = [e.datagram] := by
      simp [served, hRequest]
    simp [hServed]

/-- Either a request is used up, or a datagram is, and nothing comes in for it. -/
theorem decreases :
    Prod.Lex (· < ·) (· < ·) (X'.pending, X'.waiting) (X.pending, X.waiting) := by
  cases hRequest : Datagram.isRequest e.datagram with
  | true => exact .left _ _ (step.pending_lt hRequest)
  | false =>
    have hNone : e.emitted = [] := by
      rw [Event.emitted, Daemon.handle_of_not_request hRequest]
    have hLess := step.waiting_lt
    rw [hNone, List.length_nil, Nat.add_zero] at hLess
    rcases Nat.lt_or_eq_of_le step.pending_le with hFewer | hSame
    · exact .left _ _ hFewer
    · rw [hSame]
      exact .right _ hLess

end Step

/-- No exchange goes on forever. -/
theorem wellFounded_step : WellFounded fun X' X : Exchange => ∃ e, Step X e X' := by
  have hLex : WellFounded (Prod.Lex (· < · : Nat → Nat → Prop) (· < · : Nat → Nat → Prop)) :=
    (Prod.lex Nat.lt_wfRel Nat.lt_wfRel).wf
  refine Subrelation.wf ?_ (InvImage.wf (fun X : Exchange => (X.pending, X.waiting)) hLex)
  rintro X' X ⟨e, step⟩
  exact step.decreases

/-- Daemons at rest are those whose queues are empty. -/
theorem rests_iff : (∀ e X', ¬ Step X e X') ↔ ∀ d ∈ X.daemons, X.queue d.socket = [] := by
  constructor
  · intro hRests d hMem
    obtain ⟨i, hDaemon⟩ := List.mem_iff_getElem?.mp hMem
    cases hQueue : X.queue d.socket with
    | nil => rfl
    | cons first rest =>
      -- A daemon with something in its queue can always take a step.
      have hReceive := Host.receive?_of_queue Datagram.bufferSize hQueue
      have hServe := d.serveNext?_eq_attend X.host
      rw [hReceive] at hServe
      exact absurd (.serve hDaemon hReceive hServe) (hRests _ _)
  · intro hEmpty e X' step
    cases step with
    | serve hDaemon hReceive _ =>
      have hNil := hEmpty _ (List.mem_of_getElem? hDaemon)
      obtain ⟨first, rest, hQueue, _⟩ := Host.receive?_eq_some_iff.mp hReceive
      cases hNil.symm.trans hQueue

/-! ## Every run -/

/-- What comes of the datagrams that waited at first. -/
structure Subsides (X : Exchange) (trace : List Event) (X' : Exchange) : Prop where
  /-- The requests that were served and those that still wait are those that waited at first. -/
  requests : ∀ id, served trace id ++ X'.requests id = X.requests id
  /-- Something is sent only to and about those whom a registration concerns. -/
  emits : ∀ e ∈ trace, e.emitted ≠ [] → ∃ key p,
    Datagram.parse e.datagram = .ok ⟨.register, key, p⟩ ∧
      e.emitted.length ≤ 2 * (e.daemon.registry.peers key).length
  /-- Whatever is sent is well formed, and no daemon does anything about it. -/
  unanswered : ∀ e ∈ trace, ∀ n ∈ e.emitted, n.message.command = .peer ∧
    Datagram.parse n.message.encode = .ok n.message ∧
      ∀ (d : Daemon) (h h' : Host),
        h.receive? d.socket Datagram.bufferSize = some (h', n.message.encode) →
          d.serveNext? h = some (d, h')
  bounded : trace.length + X'.waiting ≤ X.waiting + (trace.map (·.emitted.length)).sum

/-- Whatever a daemon emits is word of a peer, and a daemon that receives it stays as it is and
sends nothing. -/
theorem unanswered_of_emitted {n : Notification} (hMem : n ∈ e.emitted) :
    n.message.command = .peer ∧ Datagram.parse n.message.encode = .ok n.message ∧
      ∀ (d : Daemon) (h h' : Host),
        h.receive? d.socket Datagram.bufferSize = some (h', n.message.encode) →
          d.serveNext? h = some (d, h') := by
  have hIdle := Daemon.isRequest_of_mem_handle hMem
  rw [Message.extract_encode] at hIdle
  exact ⟨Daemon.command_of_mem_handle hMem, n.message.parse_encode, fun d h h' hReceive =>
    Daemon.serveNext?_of_not_request hReceive hIdle⟩

/-- In every run, the requests that waited at first are served in order, and no others arise. -/
theorem subsides_of_run (run : Run Step X trace X') : Subsides X trace X' := by
  -- On the run; what was served comes before what still waits.
  induction run with
  | nil => exact ⟨fun id => rfl, nofun, nofun, by simp⟩
  | @snoc Y Y' trace e _ step ih =>
    refine ⟨fun id => ?_, fun e' hMem => ?_, fun e' hMem => ?_, ?_⟩
    · rw [served_append, List.append_assoc, step.served_append_requests, ih.requests]
    · rcases List.mem_append.mp hMem with hOld | hNew
      · exact ih.emits e' hOld
      · cases List.mem_singleton.mp hNew
        exact Daemon.length_handle_le
    · rcases List.mem_append.mp hMem with hOld | hNew
      · exact ih.unanswered e' hOld
      · intro n hn
        exact unanswered_of_emitted hn
    · have hBefore := ih.bounded
      have hLess := step.waiting_lt
      simp only [List.length_append, List.length_singleton, List.map_append, List.map_singleton,
        List.sum_append, List.sum_singleton]
      omega

/-- Daemons of any registries and with any datagrams in their queues come to rest in whatever order
they serve. They have served everything then, and on the way they sent no more than notifications
about the registrations that waited at first, none of which any daemon acts on. -/
theorem no_message_storm :
    (WellFounded fun X' X : Exchange => ∃ e, Step X e X') ∧
      (∀ X, (∀ e X', ¬ Step X e X') ↔ ∀ d ∈ X.daemons, X.queue d.socket = []) ∧
      ∀ X X' trace, Run Step X trace X' → Subsides X trace X' :=
  ⟨wellFounded_step, fun _ => rests_iff, fun _ _ _ => subsides_of_run⟩

/-! ### Two daemons in a circle -/

open Listing.Sample

namespace Sample

/-- A registry that lists two daemons. -/
def registry : Registry :=
  ((Registry.empty.register meeting ⟨desk, none⟩).1.register meeting ann).1

/-- Both daemons are listed at each other and at themselves. Bob's registration waits at the first.
-/
def circle : Exchange where
  host := (((Host.fresh []).takeOver desk.text).1.takeOver ann.endpoint.text).1.arrived 0
    (Daemon.registration bob)
  daemons := [⟨0, desk, registry, true⟩, ⟨1, ann.endpoint, registry, true⟩]

theorem handle_registration :
    ((⟨0, desk, registry, true⟩ : Daemon).handle (Daemon.registration bob)).2 =
      [⟨bob.endpoint, ⟨.peer, meeting, ⟨desk, none⟩⟩⟩, ⟨bob.endpoint, ⟨.peer, meeting, ann⟩⟩,
        ⟨desk, ⟨.peer, meeting, bob⟩⟩, ⟨ann.endpoint, ⟨.peer, meeting, bob⟩⟩] := by
  rw [Daemon.registration, Daemon.handle_of_ok (Message.parse_encode _)]
  rfl

theorem step_circle :
    ∃ X', Step circle ⟨⟨0, desk, registry, true⟩, Daemon.registration bob⟩ X' := by
  have hQueue : (circle.host.sockets.object 0).queue = [Daemon.registration bob] :=
    Host.queue_arrived
  have hReceive := Host.receive?_of_queue Datagram.bufferSize hQueue
  rw [Daemon.registration, Message.extract_encode, ← Daemon.registration] at hReceive
  have hServe := (⟨0, desk, registry, true⟩ : Daemon).serveNext?_eq_attend circle.host
  rw [hReceive] at hServe
  exact ⟨_, .serve (i := 0) rfl hReceive hServe⟩

end Sample

/-- The first daemon sends four notifications, one of them to itself. Nothing comes of any. -/
theorem no_message_storm_circle :
    ∃ e X', Run Step Sample.circle [e] X' ∧ e.emitted.length = 4 ∧
      Subsides Sample.circle [e] X' := by
  obtain ⟨X', step⟩ := Sample.step_circle
  have run : Run Step Sample.circle [⟨⟨0, desk, Sample.registry, true⟩, _⟩] X' :=
    .snoc .nil step
  refine ⟨_, X', run, ?_, no_message_storm.2.2 _ _ _ run⟩
  rw [Event.emitted, Sample.handle_registration]
  rfl

end Exchange

end RingBus
