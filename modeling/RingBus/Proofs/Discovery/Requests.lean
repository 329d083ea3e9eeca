import RingBus.Discovery.Client
import RingBus.Proofs.Discovery.History
import RingBus.Proofs.Discovery.RoundTrip
import RingBus.Proofs.Sockets

/-!
# Requests on their way to the daemon

A request waits at the daemon's socket until it is served. What is already decided about a key is
not what the registry says now, but what it will say when everything that waits has been served.

* `Daemon.Posted`: the daemon can be reached at its endpoint.
* `Daemon.outlook`: the participants under a key once everything that waits has been served.
* `Daemon.Undisturbed`: what happens elsewhere on the host leaves the outlook.
* `Client.register_cases`, `Client.deregister_cases`, `Daemon.serveNext?_outlook`: what requests
  and serving do to it.
-/

namespace RingBus

/-! ## Datagrams that ask for nothing -/

namespace Datagram

/-- The daemon does nothing about the datagram. -/
def Idle (bytes : ByteArray) : Prop :=
  ∀ m, parse bytes = .ok m → m.command = .peer

theorem extract_of_fits {bytes : ByteArray} (h : bytes.size ≤ bufferSize) :
    bytes.extract 0 bufferSize = bytes :=
  ByteArray.ext (ByteArray.data_extract.trans (Array.extract_eq_self_of_le h))

/-- What does not fit the buffer is no message, and neither is what is left of it. -/
theorem parse_extract_ok {bytes : ByteArray} {m : Message} :
    parse (bytes.extract 0 bufferSize) = .ok m → parse bytes = .ok m := by
  intro h
  by_cases hFits : bytes.size ≤ bufferSize
  · rwa [extract_of_fits hFits] at h
  · have hSize : maxSize < (bytes.extract 0 bufferSize).size := by
      simp only [ByteArray.size_extract, bufferSize] at *
      omega
    rw [parse, if_pos hSize] at h
    cases h

theorem under_idle {bytes : ByteArray} {key : ServiceKey} (h : Idle bytes) :
    (Daemon.Input.datagram (bytes.extract 0 bufferSize)).under key = .rests := by
  cases hParse : parse (bytes.extract 0 bufferSize) with
  | error _ => exact Daemon.Input.under_of_error hParse
  | ok m =>
    rw [Daemon.Input.under_of_ok hParse, Registry.Action.under, h m (parse_extract_ok hParse)]

end Datagram

theorem Message.extract_encode (m : Message) :
    m.encode.extract 0 Datagram.bufferSize = m.encode :=
  Datagram.extract_of_fits (m.size_encode_le.trans (by decide))

namespace Daemon

variable {d : Daemon} {h h' h'' : Host} {id : Nat} {bytes : ByteArray} {key : ServiceKey}
  {m : Message} {n : Notification}

/-! ## The daemon at its post -/

/-- The path of a daemon leads to its socket. -/
structure Posted (d : Daemon) (h : Host) : Prop where
  root : h.files.isDirectory [] = true
  reached : h.reach d.endpoint.text = .ok d.socket
  socket_lt : d.socket < h.sockets.count

theorem posted_withSocket {change : Socket → Socket} (hLive : ∀ s, (change s).live = s.live) :
    d.Posted h → d.Posted (h.withSocket id change) := by
  intro posted
  exact ⟨posted.root, (Host.reach_withSocket hLive _).trans posted.reached, posted.socket_lt⟩

/-- What waits at the daemon's socket, as it is going to be received. -/
def queued (d : Daemon) (h : Host) : List Input :=
  (h.sockets.object d.socket).queue.map fun bytes =>
    .datagram (bytes.extract 0 Datagram.bufferSize)

/-- The participants under a key once everything that waits is served. -/
def outlook (d : Daemon) (h : Host) (key : ServiceKey) : List Participant :=
  (d.after (d.queued h)).registry.peers key

/-- Without anything waiting, the outlook is the registry. -/
theorem outlook_drained (hEmpty : (h.sockets.object d.socket).queue = []) :
    d.outlook h key = d.registry.peers key := by
  rw [outlook, queued, hEmpty]
  rfl

/-- A message at the end of the queue is what happens last. -/
theorem outlook_arrived :
    d.outlook (h.arrived d.socket m.encode) key =
      ((Registry.Action.handle m).under key).apply (d.outlook h key) := by
  -- It fits the daemon's buffer, so it is received as it was written.
  rw [outlook, queued, Host.queue_arrived, List.map_append, List.map_singleton,
    m.extract_encode, after_snoc, peers_take, Input.under_of_ok m.parse_encode]
  rfl

/-! ## What leaves the outlook -/

/-- From one host to another the daemon stays at its post, and nothing but idle datagrams came in.
-/
structure Undisturbed (d : Daemon) (h h' : Host) : Prop where
  posted : d.Posted h → d.Posted h'
  queue : ∃ more, (∀ bytes ∈ more, Datagram.Idle bytes) ∧
    (h'.sockets.object d.socket).queue = (h.sockets.object d.socket).queue ++ more

namespace Undisturbed

theorem of_queue (hPosted : d.Posted h → d.Posted h')
    (hQueue : (h'.sockets.object d.socket).queue = (h.sockets.object d.socket).queue) :
    d.Undisturbed h h' :=
  ⟨hPosted, [], nofun, by rw [hQueue, List.append_nil]⟩

theorem refl (d : Daemon) (h : Host) : d.Undisturbed h h :=
  of_queue id rfl

theorem trans : d.Undisturbed h h' → d.Undisturbed h' h'' → d.Undisturbed h h'' := by
  rintro ⟨hPosted, more, hIdle, hQueue⟩ ⟨hPosted', more', hIdle', hQueue'⟩
  refine ⟨hPosted' ∘ hPosted, more ++ more', ?_, ?_⟩
  · intro bytes hMem
    exact (List.mem_append.mp hMem).elim (hIdle bytes) (hIdle' bytes)
  · rw [hQueue', hQueue, List.append_assoc]

theorem outlook (undisturbed : d.Undisturbed h h') (key : ServiceKey) :
    d.outlook h' key = d.outlook h key := by
  obtain ⟨more, hIdle, hQueue⟩ := undisturbed.queue
  rw [Daemon.outlook, queued, hQueue]
  clear hQueue
  -- One idle datagram after the other, from the last one on.
  induction more using List.reverseRecOn with
  | nil =>
    rw [List.append_nil]
    rfl
  | append_singleton more bytes ih =>
    rw [← List.append_assoc, List.map_append, List.map_singleton, after_snoc, peers_take,
      Datagram.under_idle (hIdle bytes (by simp))]
    exact ih fun b hMem => hIdle b (List.mem_append_left _ hMem)

/-- A change to another socket. -/
theorem withSocket {change : Socket → Socket} (hOther : id ≠ d.socket)
    (hLive : ∀ s, (change s).live = s.live) : d.Undisturbed h (h.withSocket id change) :=
  of_queue (posted_withSocket hLive) (by rw [Host.object_withSocket_other hOther.symm])

/-- Something idle arrives anywhere, perhaps at the daemon itself. -/
theorem arrived (hIdle : Datagram.Idle bytes) : d.Undisturbed h (h.arrived id bytes) := by
  by_cases hSame : id = d.socket
  · -- It waits behind everything else, and nothing will come of it.
    refine ⟨posted_withSocket fun _ => rfl, [bytes], ?_, ?_⟩
    · intro b hMem
      exact List.mem_singleton.mp hMem ▸ hIdle
    · rw [hSame]
      exact Host.queue_arrived
  · exact withSocket hSame fun _ => rfl

end Undisturbed

/-! ## Serving -/

theorem idle_of_mem_handle : n ∈ (d.handle bytes).2 → Datagram.Idle n.message.encode := by
  intro hMem
  cases hParse : Datagram.parse bytes with
  | error _ =>
    rw [handle_of_error hParse] at hMem
    cases hMem
  | ok m =>
    rw [handle_of_ok hParse] at hMem
    obtain ⟨_, _, _, hn⟩ := Registry.mem_handle_iff.mp hMem
    -- Only announcements of peers go out, and those ask for nothing.
    intro m' hParse'
    cases (Message.parse_encode _).symm.trans hParse'
    rcases hn with rfl | rfl <;> rfl

/-- Delivering what asks for nothing leaves the outlook of every daemon alone. -/
theorem undisturbed_deliver {ns : List Notification} {r : Registry} {evicts : Bool}
    (hIdle : ∀ n ∈ ns, Datagram.Idle n.message.encode) :
    d.Undisturbed h (deliver Host.notify evicts ns h r).1 := by
  induction ns generalizing h r with
  | nil => exact .refl d h
  | cons n rest ih =>
    -- A notification arrives in one queue at most, and asks for nothing there.
    have hFirst : d.Undisturbed h (h.notify n).1 := by
      rcases h.send_cases n.recipient.text n.message.encode with
        ⟨id, _, hSend⟩ | ⟨_, _, hSend⟩ | ⟨_, _, _, hSend⟩
      · rw [Host.notify, hSend]
        exact .arrived (hIdle n (.head _))
      · rw [Host.notify, hSend]
        exact .refl d h
      · rw [Host.notify, hSend]
        exact .refl d h
    exact hFirst.trans (ih fun n hMem => hIdle n (.tail _ hMem))

/-- What a daemon sends leaves the outlook of every daemon alone. -/
theorem undisturbed_handled (d d' : Daemon) (bytes : ByteArray) (h : Host) (r : Registry) :
    d.Undisturbed h (deliver Host.notify false (d'.handle bytes).2 h r).1 :=
  undisturbed_deliver fun _ => idle_of_mem_handle

/-- A daemon that does not forget keeps its registry when it sends. -/
theorem registry_deliver {σ : Type} (send : σ → Notification → σ × Outcome)
    (ns : List Notification) (state : σ) (r : Registry) :
    (deliver send false ns state r).2 = r := by
  induction ns generalizing state with
  | nil => rfl
  | cons n rest ih => exact ih _

theorem exists_take (d : Daemon) (bytes : ByteArray) :
    ∃ registry, d.take (.datagram bytes) = { d with registry } :=
  exists_handle d bytes

/-- The oldest datagram is taken, the registry changes, and then the notifications go out. -/
theorem serveNext?_of_queue {first : ByteArray} {rest : List ByteArray}
    (hKeeps : d.evicts = false) (hQueue : (h.sockets.object d.socket).queue = first :: rest) :
    let bytes := first.extract 0 Datagram.bufferSize
    d.serveNext? h = some (d.take (.datagram bytes),
      (deliver Host.notify false (d.handle bytes).2 (h.relieved d.socket rest)
        (d.take (.datagram bytes)).registry).1) := by
  intro bytes
  have hReceive : h.receive? d.socket Datagram.bufferSize =
      some (h.relieved d.socket rest, bytes) := Host.receive?_of_queue _ hQueue
  -- From here on it does not matter what the datagram says.
  clear_value bytes
  obtain ⟨registry, hHandle⟩ := exists_handle d bytes
  rcases hAnswer : d.handle bytes with ⟨d', ns⟩
  rw [hAnswer] at hHandle
  cases hHandle
  simp only [serveNext?, hReceive, take, hAnswer, hKeeps, registry_deliver]

/-- Serving the first datagram comes to the same outlook. -/
theorem outlook_cons {first : ByteArray} {rest : List ByteArray}
    (hQueue : (h.sockets.object d.socket).queue = first :: rest) :
    d.outlook h key =
      (d.take (.datagram (first.extract 0 Datagram.bufferSize))).outlook
        (h.relieved d.socket rest) key := by
  obtain ⟨registry, hTake⟩ := d.exists_take (first.extract 0 Datagram.bufferSize)
  have hSocket : (d.take (.datagram (first.extract 0 Datagram.bufferSize))).socket = d.socket := by
    rw [hTake]
  have hRest : (h.relieved d.socket rest).sockets.object d.socket =
      { h.sockets.object d.socket with queue := rest } :=
    Numbered.object_set_same _ _ _
  rw [outlook, outlook, queued, queued, hQueue, hSocket, hRest]
  rfl

/-- Serving a datagram makes true what the outlook said. -/
theorem serveNext?_outlook {d' : Daemon} (hKeeps : d.evicts = false) (posted : d.Posted h) :
    d.serveNext? h = some (d', h') →
      (∃ registry, d' = { d with registry }) ∧ d'.Posted h' ∧
        ∀ key, d'.outlook h' key = d.outlook h key := by
  intro hServe
  cases hQueue : (h.sockets.object d.socket).queue with
  | nil =>
    rw [serveNext?, Host.receive?_of_nil _ hQueue] at hServe
    cases hServe
  | cons first rest =>
    obtain ⟨rfl, rfl⟩ := Prod.mk.inj (Option.some.inj
      ((serveNext?_of_queue hKeeps hQueue).symm.trans hServe))
    have hOutlook : ∀ key, d.outlook h key = _ := fun _ => outlook_cons hQueue
    generalize first.extract 0 Datagram.bufferSize = bytes at *
    obtain ⟨registry, hTake⟩ := d.exists_take bytes
    have posted' : (d.take (.datagram bytes)).Posted (h.relieved d.socket rest) := by
      rw [hTake]
      exact posted_withSocket (fun _ => rfl) ⟨posted.root, posted.reached, posted.socket_lt⟩
    -- What goes out is idle, also where it goes to the daemon itself.
    have undisturbed := undisturbed_handled (d.take (.datagram bytes)) d bytes
      (h.relieved d.socket rest) (d.take (.datagram bytes)).registry
    refine ⟨⟨registry, hTake⟩, undisturbed.posted posted', fun key => ?_⟩
    exact (undisturbed.outlook key).trans (hOutlook key).symm

/-- One more socket somewhere does not disturb a daemon that stays at its post. -/
theorem undisturbed_installed {π : List String} (posted : d.Posted h)
    (posted' : d.Posted (h.installed π)) : d.Undisturbed h (h.installed π) := by
  refine .of_queue (fun _ => posted') (congrArg Socket.queue ?_)
  exact Numbered.object_add_other _ posted.socket_lt.ne

end Daemon

/-! ## Asking -/

namespace Client

variable {c : Client} {d : Daemon} {h : Host} {key : ServiceKey} {ring : Option RingName}

/-- The client once it is registered under a key. -/
def enrolled (c : Client) (key : ServiceKey) (ring : Option RingName) : Client :=
  { c with registrations := (c.forget key).registrations ++ [(key, ring)] }

/-- A request arrives in the queue that the daemon's path leads to, or fails, or finds that queue
full. Only in the first case does anything change. -/
theorem ask_cases (c : Client) (command : Command) (key : ServiceKey) (ring : Option RingName)
    (h : Host) :
    (∃ id, h.reach c.daemon.text = .ok id ∧
        c.ask command key ring h =
          (h.arrived id (⟨command, key, ⟨c.endpoint, ring⟩⟩ : Message).encode, .sent)) ∨
      (∃ cause e, h.reach c.daemon.text = .error cause ∧
          c.ask command key ring h = (h, .failed e)) ∨
        ∃ id, h.reach c.daemon.text = .ok id ∧ (h.sockets.object id).full = true ∧
          c.ask command key ring h = (h, .blocked) := by
  rcases h.send_cases c.daemon.text (⟨command, key, ⟨c.endpoint, ring⟩⟩ : Message).encode with
    ⟨id, hReach, hSend⟩ | ⟨cause, hReach, hSend⟩ | ⟨id, hReach, hFull, hSend⟩
  · exact .inl ⟨id, hReach, by rw [ask, hSend]⟩
  · exact .inr (.inl ⟨cause, _, hReach, by rw [ask, hSend]⟩)
  · exact .inr (.inr ⟨id, hReach, hFull, by rw [ask, hSend]⟩)

/-- A client notes a registration exactly if its request is sent. -/
theorem register_cases (c : Client) (key : ServiceKey) (ring : Option RingName) (h : Host) :
    (∃ id, h.reach c.daemon.text = .ok id ∧
        c.register key ring h =
          (c.enrolled key ring,
            h.arrived id (⟨.register, key, ⟨c.endpoint, ring⟩⟩ : Message).encode, .sent)) ∨
      ∃ other, other ≠ .sent ∧ c.register key ring h = (c, h, other) := by
  rcases c.ask_cases .register key ring h with ⟨id, hReach, hAsk⟩ | ⟨_, e, _, hAsk⟩ |
    ⟨_, _, _, hAsk⟩
  · exact .inl ⟨id, hReach, by rw [register, hAsk]; rfl⟩
  · exact .inr ⟨.failed e, nofun, by rw [register, hAsk]⟩
  · exact .inr ⟨.blocked, nofun, by rw [register, hAsk]⟩

/-- A client forgets a registration exactly if its request is sent. -/
theorem deregister_cases (c : Client) (key : ServiceKey) (h : Host) :
    (∃ id ring, h.reach c.daemon.text = .ok id ∧
        c.deregister key h =
          (c.forget key,
            h.arrived id (⟨.deregister, key, ⟨c.endpoint, ring⟩⟩ : Message).encode, .sent)) ∨
      (∃ cause e, h.reach c.daemon.text = .error cause ∧
          c.deregister key h = (c, h, .failed e)) ∨
        ∃ id, h.reach c.daemon.text = .ok id ∧ (h.sockets.object id).full = true ∧
          c.deregister key h = (c, h, .blocked) := by
  rcases c.ask_cases .deregister key ((c.registrations.lookup key).getD none) h with
    ⟨id, hReach, hAsk⟩ | ⟨cause, e, hReach, hAsk⟩ | ⟨id, hReach, hFull, hAsk⟩
  · exact .inl ⟨id, _, hReach, by rw [deregister, hAsk]⟩
  · exact .inr (.inl ⟨cause, e, hReach, by rw [deregister, hAsk]⟩)
  · exact .inr (.inr ⟨id, hReach, hFull, by rw [deregister, hAsk]⟩)

/-- Looking for word of peers empties the client's own queue only. -/
theorem undisturbed_receivePeer? (hOther : c.socket ≠ d.socket) (n : Nat) :
    d.Undisturbed h (c.receivePeer? n h).1 := by
  induction n generalizing h with
  | zero => exact .refl d h
  | succ n ih =>
    unfold receivePeer?
    cases hQueue : (h.sockets.object c.socket).queue with
    | nil =>
      rw [Host.receive?_of_nil _ hQueue]
      exact .refl d h
    | cons first rest =>
      rw [Host.receive?_of_queue _ hQueue]
      have hTaken : d.Undisturbed h (h.relieved c.socket rest) :=
        .withSocket hOther fun _ => rfl
      simp only
      -- The next datagram is looked at only if this one was no word of a peer.
      split
      next => exact hTaken
      next => exact hTaken.trans ih

theorem shared_receivePeer? (c : Client) (n : Nat) (h : Host) :
    (c.receivePeer? n h).1.shared = h.shared := by
  induction n generalizing h with
  | zero => rfl
  | succ n ih =>
    unfold receivePeer?
    cases hQueue : (h.sockets.object c.socket).queue with
    | nil => rw [Host.receive?_of_nil _ hQueue]
    | cons first rest =>
      rw [Host.receive?_of_queue _ hQueue]
      simp only
      split
      next => rfl
      next => exact ih _

end Client
end RingBus
