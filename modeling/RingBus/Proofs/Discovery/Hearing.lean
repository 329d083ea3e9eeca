import RingBus.Proofs.Discovery.Advertising
import RingBus.Proofs.Discovery.Grammar
import RingBus.Proofs.Discovery.Requests
import RingBus.Proofs.Kernel

/-!
# What a client hears

Datagrams of any kind and length arrive at a client's socket, before and between its calls. Each
call gives the next one that is word of a peer, as it was sent, and waits only if there is none.
Both clients and daemons receive into a buffer that cuts off the end of a datagram that is too long;
what is cut off makes no difference, because what is left is too long to be a message as well.

* `Datagram.parse_extract_ok_iff`: the buffer makes no difference to a reader.
* `PeerEvent.told`: the events that some datagrams tell of.
* `Client.Step`: datagrams arrive, or the client calls.
* `Client.nextPeer?_cases`: what a single call does.
* `Client.answers_append_told`: nothing is lost, repeated or moved in a whole run.
* `Daemon.serveWhole`: serving without a buffer.
-/

namespace RingBus

/-! ## The buffer -/

namespace Datagram

variable {bytes : ByteArray} {m : Message}

theorem parse_of_oversized (h : maxSize < bytes.size) :
    parse bytes = .error (.oversized bytes.size) :=
  if_pos h

/-- A buffer with one byte too many reads the same messages as one without end. -/
theorem parse_extract_ok_iff : parse (bytes.extract 0 bufferSize) = .ok m ↔ parse bytes = .ok m := by
  constructor
  · exact parse_extract_ok
  · intro h
    have hSize : bytes.size ≤ maxSize := by
      by_contra hLong
      rw [parse_of_oversized (Nat.not_le.mp hLong)] at h
      cases h
    rwa [extract_of_fits (hSize.trans (Nat.le_succ _))]

/-- What is no message is none in the buffer either. -/
theorem exists_parse_extract_error {fault : DatagramFault} (h : parse bytes = .error fault) :
    ∃ fault', parse (bytes.extract 0 bufferSize) = .error fault' := by
  cases hParse : parse (bytes.extract 0 bufferSize) with
  | error fault' => exact ⟨fault', rfl⟩
  | ok m =>
    rw [parse_extract_ok hParse] at h
    cases h

end Datagram

/-- The first of some NULs. -/
theorem extract_nuls {nuls room : Nat} (h : room ≤ nuls) :
    (List.replicate nuls (0 : UInt8)).toByteArray.extract 0 room =
      (List.replicate room 0).toByteArray := by
  apply ByteArray.ext
  rw [ByteArray.data_extract, List.data_toByteArray, List.data_toByteArray, List.extract_toArray,
    List.extract_eq_take_drop]
  simp [h]

namespace Message

variable {m : Message} {nuls : Nat}

theorem padded_nil (m : Message) (nuls : Nat) :
    m.padded [] [] nuls = m.encode ++ (List.replicate nuls 0).toByteArray := by
  simp [padded]

theorem size_padded : (m.padded [] [] nuls).size = m.encode.size + nuls := by
  rw [padded_nil, ByteArray.size_append, List.size_toByteArray, List.length_replicate]

/-- What is left of a message in front of NULs is the message in front of fewer of them. -/
theorem extract_padded {room : Nat} (hMessage : m.encode.size ≤ room)
    (hNuls : room - m.encode.size ≤ nuls) :
    (m.padded [] [] nuls).extract 0 room = m.padded [] [] (room - m.encode.size) := by
  have hKept : m.encode.extract 0 room = m.encode :=
    ByteArray.ext (ByteArray.data_extract.trans (Array.extract_eq_self_of_le hMessage))
  rw [padded_nil, padded_nil, ByteArray.extract_append, hKept, Nat.zero_sub, extract_nuls hNuls]

end Message

/-! ## Word of peers -/

namespace PeerEvent

variable {bytes : ByteArray} {event : PeerEvent}

/-- The message that brings word of the peer. -/
def message (event : PeerEvent) : Message :=
  ⟨.peer, event.key, event.peer⟩

/-- An event is heard from exactly those datagrams that are read as its message. -/
theorem ofDatagram?_eq_some_iff :
    ofDatagram? bytes = some event ↔ Datagram.parse bytes = .ok event.message := by
  constructor
  · intro h
    unfold ofDatagram? at h
    split at h
    next key peer hParse =>
      cases h
      exact hParse
    next => cases h
  · intro h
    rw [ofDatagram?, h]
    rfl

/-- The event that a datagram tells of is the one whose words it is made of. -/
theorem ofDatagram?_eq_some_iff_layout :
    ofDatagram? bytes = some event ↔
      bytes.size ≤ Datagram.maxSize ∧
        ∃ l : Datagram.Layout, l.Says event.message ∧ l.bytes = bytes :=
  ofDatagram?_eq_some_iff.trans Datagram.parse_eq_ok_iff_layout

/-- What is skipped is what is no message, and what is one for the daemon. -/
theorem ofDatagram?_eq_none_iff :
    ofDatagram? bytes = none ↔ ∀ m, Datagram.parse bytes = .ok m → m.command ≠ .peer := by
  constructor
  · rintro hNone ⟨_, key, peer⟩ hParse rfl
    have hSome : ofDatagram? bytes = some ⟨key, peer⟩ := ofDatagram?_eq_some_iff.mpr hParse
    rw [hNone] at hSome
    cases hSome
  · intro hOther
    apply Option.eq_none_iff_forall_ne_some.mpr
    intro event hSome
    exact hOther _ (ofDatagram?_eq_some_iff.mp hSome) rfl

theorem ofDatagram?_extract (bytes : ByteArray) :
    ofDatagram? (bytes.extract 0 Datagram.bufferSize) = ofDatagram? bytes := by
  apply Option.ext
  intro event
  rw [ofDatagram?_eq_some_iff, ofDatagram?_eq_some_iff, Datagram.parse_extract_ok_iff]

/-- Datagrams beyond the limit tell of nobody, even if they begin like a message. -/
theorem ofDatagram?_of_oversized (h : Datagram.maxSize < bytes.size) :
    ofDatagram? bytes = none := by
  rw [ofDatagram?, Datagram.parse_of_oversized h]

/-- The events that datagrams tell of, in the order in which they came. -/
def told (datagrams : List ByteArray) : List PeerEvent :=
  datagrams.filterMap ofDatagram?

theorem told_append (before after : List ByteArray) :
    told (before ++ after) = told before ++ told after :=
  List.filterMap_append

end PeerEvent

namespace Client

open PeerEvent (told)

variable {c : Client} {h h' : Host}

/-- What waits at the socket of a client. -/
def inbox (c : Client) (h : Host) : List ByteArray :=
  (h.sockets.object c.socket).queue

/-! ## One call -/

theorem inbox_relieved (rest : List ByteArray) : c.inbox (h.relieved c.socket rest) = rest :=
  congrArg Socket.queue (Numbered.object_set_same _ _ _)

theorem receivePeer?_of_nil (n : Nat) (hEmpty : c.inbox h = []) :
    c.receivePeer? n h = (h, none) := by
  cases n with
  | zero => rfl
  | succ n => rw [receivePeer?, Host.receive?_of_nil _ hEmpty]

/-- The oldest datagram is judged by the whole of it. -/
theorem receivePeer?_of_cons {first : ByteArray} {rest : List ByteArray} (n : Nat)
    (hInbox : c.inbox h = first :: rest) :
    c.receivePeer? (n + 1) h =
      match PeerEvent.ofDatagram? first with
      | some event => (h.relieved c.socket rest, some event)
      | none => c.receivePeer? n (h.relieved c.socket rest) := by
  rw [receivePeer?, Host.receive?_of_queue _ hInbox]
  have hWhole := PeerEvent.ofDatagram?_extract first
  cases hEvent : PeerEvent.ofDatagram? first with
  | none => simp [hWhole, hEvent, Host.relieved]
  | some event => simp [hWhole, hEvent, Host.relieved]

/-- A call gives the next event, and leaves those behind it. It comes back without one only after it
has gone through everything in vain. -/
theorem receivePeer?_cases {n : Nat} (hLength : (c.inbox h).length ≤ n) :
    (∃ event, (c.receivePeer? n h).2 = some event ∧
        told (c.inbox h) = event :: told (c.inbox (c.receivePeer? n h).1)) ∨
      (c.receivePeer? n h).2 = none ∧ told (c.inbox h) = [] ∧
        c.inbox (c.receivePeer? n h).1 = [] := by
  -- On the datagrams that wait, as many of which are looked at as it takes.
  generalize hInbox : c.inbox h = queue at hLength
  induction queue generalizing n h with
  | nil =>
    rw [receivePeer?_of_nil n hInbox]
    exact .inr ⟨rfl, rfl, hInbox⟩
  | cons first rest ih =>
    obtain ⟨n, rfl⟩ := Nat.exists_eq_add_of_lt (Nat.lt_of_lt_of_le (Nat.succ_pos _) hLength)
    rw [Nat.zero_add, receivePeer?_of_cons n hInbox]
    cases hFirst : PeerEvent.ofDatagram? first with
    | some event =>
      refine .inl ⟨event, rfl, ?_⟩
      simp only [inbox_relieved, told, List.filterMap_cons_some hFirst]
    | none =>
      rw [told, List.filterMap_cons_none hFirst]
      exact ih (inbox_relieved rest) (by simpa using hLength)

/-- The next event is the first that the inbox tells of; without an event, the inbox is used up. -/
theorem nextPeer?_cases (c : Client) (h : Host) :
    (∃ event, (c.nextPeer? h).2 = some event ∧
        told (c.inbox h) = event :: told (c.inbox (c.nextPeer? h).1)) ∨
      (c.nextPeer? h).2 = none ∧ told (c.inbox h) = [] ∧ c.inbox (c.nextPeer? h).1 = [] :=
  receivePeer?_cases (Nat.le_refl _)

theorem nextPeer?_eq_head? (c : Client) (h : Host) :
    (c.nextPeer? h).2 = (told (c.inbox h)).head? := by
  rcases c.nextPeer?_cases h with ⟨event, hCall, hTold⟩ | ⟨hCall, hTold, -⟩
  · rw [hCall, hTold, List.head?_cons]
  · rw [hCall, hTold, List.head?_nil]

/-- As many calls give as many events, as long as there are any. -/
theorem takePeers_eq_take (c : Client) (n : Nat) (h : Host) :
    (c.takePeers n h).2 = (told (c.inbox h)).take n := by
  induction n generalizing h with
  | zero => rfl
  | succ n ih =>
    rw [takePeers]
    rcases hNext : c.nextPeer? h with ⟨h', found⟩
    have hCases := c.nextPeer?_cases h
    rw [hNext] at hCases
    rcases hCases with ⟨event, rfl, hTold⟩ | ⟨rfl, hTold, -⟩
    · rw [hTold, List.take_succ_cons, ← ih h']
    · rw [hTold, List.take_nil]

/-! ## Calls while datagrams arrive -/

/-- What happens at the socket of a client. -/
inductive Event
  | arrived (datagrams : List ByteArray)
  /-- The client calls, and gets word of a peer or would have to wait. -/
  | called (answer : Option PeerEvent)

/-- Whatever happens elsewhere on the host, datagrams are only added behind those that wait. -/
inductive Step (c : Client) : Host → Event → Host → Prop
  | arrive {h h' : Host} (datagrams : List ByteArray) :
    c.inbox h' = c.inbox h ++ datagrams → Step c h (.arrived datagrams) h'
  | call {h : Host} : Step c h (.called (c.nextPeer? h).2) (c.nextPeer? h).1

namespace Event

/-- The datagrams that arrive with an event. -/
def datagrams : Event → List ByteArray
  | .arrived datagrams => datagrams
  | .called _ => []

/-- What the client hears in an event. -/
def answer? : Event → Option PeerEvent
  | .arrived _ => none
  | .called answer => answer

end Event

/-- What arrived in the course of a run. -/
def arrivals (trace : List Event) : List ByteArray :=
  trace.flatMap Event.datagrams

/-- What the calls of a run gave. -/
def answers (trace : List Event) : List PeerEvent :=
  trace.filterMap Event.answer?

theorem arrivals_snoc (trace : List Event) (event : Event) :
    arrivals (trace ++ [event]) = arrivals trace ++ event.datagrams := by
  simp [arrivals]

theorem answers_snoc (trace : List Event) (event : Event) :
    answers (trace ++ [event]) = answers trace ++ event.answer?.toList := by
  rw [answers, List.filterMap_append]
  cases hAnswer : event.answer? with
  | none => simp [answers, hAnswer]
  | some answer => simp [answers, hAnswer]

/-- A step turns what waits into answers, and what arrives into what waits. -/
theorem Step.told_eq {event : Event} (step : Step c h event h') :
    event.answer?.toList ++ told (c.inbox h') = told (c.inbox h ++ event.datagrams) := by
  cases step with
  | arrive datagrams hInbox => exact congrArg told hInbox
  | call =>
    rw [Event.datagrams, List.append_nil, Event.answer?]
    rcases c.nextPeer?_cases h with ⟨answer, hCall, hTold⟩ | ⟨hCall, hTold, hEmpty⟩
    · rw [hCall, hTold]
      rfl
    · rw [hCall, hTold, hEmpty]
      rfl

/-- The events that were given and those that still wait are what all the datagrams told of. -/
theorem answers_append_told {trace : List Event} (run : Run c.Step h trace h') :
    answers trace ++ told (c.inbox h') = told (c.inbox h ++ arrivals trace) := by
  -- On the run; a call gives what it takes off the front of the inbox, and arrivals go to its end.
  induction run with
  | nil => simp [answers, arrivals]
  | @snoc h₁ h₂ trace event _ step ih =>
    calc
      answers (trace ++ [event]) ++ told (c.inbox h₂)
          = answers trace ++ (event.answer?.toList ++ told (c.inbox h₂)) := by
            rw [answers_snoc, List.append_assoc]
      _ = answers trace ++ (told (c.inbox h₁) ++ told event.datagrams) := by
            rw [step.told_eq, PeerEvent.told_append]
      _ = told (c.inbox h ++ arrivals trace) ++ told event.datagrams := by
            rw [← List.append_assoc, ih]
      _ = told (c.inbox h ++ arrivals (trace ++ [event])) := by
            rw [← PeerEvent.told_append, arrivals_snoc, List.append_assoc]

end Client

/-! ## Serving without a buffer -/

namespace Daemon

theorem handle_extract (d : Daemon) (bytes : ByteArray) :
    d.handle (bytes.extract 0 Datagram.bufferSize) = d.handle bytes := by
  cases hParse : Datagram.parse bytes with
  | ok m => rw [handle_of_ok hParse, handle_of_ok (Datagram.parse_extract_ok_iff.mpr hParse)]
  | error fault =>
    obtain ⟨fault', hParse'⟩ := Datagram.exists_parse_extract_error hParse
    rw [handle_of_error hParse, handle_of_error hParse']

/-- Serves as many datagrams as are queued, but at most `n`, and attends to the whole of each. -/
def serveWhole : Nat → Daemon → Host → Daemon × Host
  | 0, d, h => (d, h)
  | n + 1, d, h =>
    match (h.sockets.object d.socket).queue with
    | [] => (d, h)
    | whole :: rest =>
      let (h, d) := attend Host.notify (h.relieved d.socket rest, d) whole
      serveWhole n d h

/-- A daemon serves the same from its buffer as it would from one without end. -/
theorem serve_eq_serveWhole (n : Nat) (d : Daemon) (h : Host) :
    d.serve n h = d.serveWhole n h := by
  induction n generalizing d h with
  | zero => rfl
  | succ n ih =>
    rw [serve, serveWhole, serveNext?_eq_attend]
    cases hQueue : (h.sockets.object d.socket).queue with
    | nil => rw [Host.receive?_of_nil _ hQueue, Option.map_none]
    | cons whole rest =>
      rw [Host.receive?_of_queue _ hQueue]
      simp only [Option.map_some, attend, handle_extract]
      exact ih _ _

end Daemon

namespace Client

open PeerEvent (told)

/-! ## Every event once -/

/-- Of the events that are due, the first have been given, and each further call gives the next one
as long as there are any. -/
structure KeepsUp (c : Client) (h : Host) (due given : List PeerEvent) : Prop where
  given_prefix : given <+: due
  next : (c.nextPeer? h).2 = due[given.length]?
  more : ∀ n, (c.takePeers n h).2 = (due.drop given.length).take n

/-- In every run, the client hears in order what its inbox and the arrivals tell of. -/
theorem keepsUp {c : Client} {h h' : Host} {trace : List Event} (run : Run c.Step h trace h') :
    c.KeepsUp h' (told (c.inbox h ++ arrivals trace)) (answers trace) := by
  rw [← answers_append_told run]
  refine ⟨List.prefix_append _ _, ?_, fun n => ?_⟩
  · rw [nextPeer?_eq_head?, List.getElem?_append_right (Nat.le_refl _), Nat.sub_self,
      List.head?_eq_getElem?]
  · rw [takePeers_eq_take, List.drop_left]

/-- However datagrams arrive and calls are made, the calls keep up with what the datagrams tell of. A
datagram tells of an event if it consists of the words of that message; what is no message, and what
is one for the daemon, is skipped. What is lost of a datagram that is too long makes no difference to
that, nor to a daemon that serves. -/
theorem hears_every_peer_once {c : Client} {h h' : Host} {trace : List Event}
    (run : Run c.Step h trace h') :
    c.KeepsUp h' (told (c.inbox h ++ arrivals trace)) (answers trace) ∧
      (∀ bytes event, PeerEvent.ofDatagram? bytes = some event ↔
        bytes.size ≤ Datagram.maxSize ∧
          ∃ l : Datagram.Layout, l.Says event.message ∧ l.bytes = bytes) ∧
      (∀ bytes, PeerEvent.ofDatagram? bytes = none ↔
        ∀ m, Datagram.parse bytes = .ok m → m.command ≠ .peer) ∧
      (∀ bytes, PeerEvent.ofDatagram? (bytes.extract 0 Datagram.bufferSize) =
          PeerEvent.ofDatagram? bytes ∧
        (Datagram.maxSize < bytes.size →
          PeerEvent.ofDatagram? (bytes.extract 0 Datagram.bufferSize) = none)) ∧
      ∀ d : Daemon,
        (∀ bytes, d.handle (bytes.extract 0 Datagram.bufferSize) = d.handle bytes) ∧
          ∀ n h, d.serve n h = d.serveWhole n h := by
  refine ⟨keepsUp run, fun _ _ => PeerEvent.ofDatagram?_eq_some_iff_layout,
    fun _ => PeerEvent.ofDatagram?_eq_none_iff, ?_, ?_⟩
  · intro bytes
    have hSame := PeerEvent.ofDatagram?_extract bytes
    exact ⟨hSame, fun hLong => hSame.trans (PeerEvent.ofDatagram?_of_oversized hLong)⟩
  · intro d
    exact ⟨d.handle_extract, fun n h => d.serve_eq_serveWhole n h⟩

open Listing.Sample

namespace Sample

def annListening : Client :=
  ⟨0, ann.endpoint, desk, []⟩

/-- Word of Bob. -/
def word : PeerEvent :=
  ⟨meeting, bobAgain⟩

/-- Word of Bob with more NULs behind it than fit in a datagram. -/
def overlong : ByteArray :=
  word.message.padded [] [] Datagram.bufferSize

def letters : List ByteArray :=
  [overlong, (⟨.register, meeting, ann⟩ : Message).encode, word.message.encode]

def delivered : Host :=
  (Host.fresh []).withSocket 0 fun s => { s with queue := letters }

theorem size_overlong : Datagram.maxSize < overlong.size := by
  rw [overlong, Message.size_padded]
  simp only [Datagram.bufferSize]
  omega

/-- A buffer without a spare byte would do harm. -/
theorem ofDatagram?_overlong_cut :
    PeerEvent.ofDatagram? (overlong.extract 0 Datagram.maxSize) = some word := by
  have hSize : word.message.encode.size ≤ Datagram.maxSize :=
    word.message.size_encode_le.trans (by decide)
  have hRoom : Datagram.maxSize - word.message.encode.size ≤ Datagram.bufferSize :=
    (Nat.sub_le _ _).trans (Nat.le_succ _)
  rw [overlong, Message.extract_padded hSize hRoom]
  apply PeerEvent.ofDatagram?_eq_some_iff.mpr
  refine word.message.parse_padded _ (List.nil_subset _) (List.nil_subset _) ?_
  rw [Message.size_padded]
  omega

theorem told_letters : told letters = [word] := by
  have hOverlong := PeerEvent.ofDatagram?_of_oversized size_overlong
  have hRequest : PeerEvent.ofDatagram? (⟨.register, meeting, ann⟩ : Message).encode = none :=
    PeerEvent.ofDatagram?_eq_none_iff.mpr fun m hParse => by
      cases (Message.parse_encode _).symm.trans hParse
      exact nofun
  have hWord : PeerEvent.ofDatagram? word.message.encode = some word :=
    PeerEvent.ofDatagram?_eq_some_iff.mpr (Message.parse_encode _)
  simp only [told, letters, List.filterMap_cons, hOverlong, hRequest, hWord, List.filterMap_nil]

end Sample

open Sample in
/-- Of three letters one is word of Bob, and the first call finds it. It is not the first letter,
although that one begins like it. -/
theorem hears_every_peer_once_overlong :
    Run annListening.Step (Host.fresh []) [.arrived letters] delivered ∧
      (annListening.nextPeer? delivered).2 = some word ∧
      PeerEvent.ofDatagram? (overlong.extract 0 Datagram.maxSize) = some word ∧
      PeerEvent.ofDatagram? (overlong.extract 0 Datagram.bufferSize) = none := by
  have hInbox : annListening.inbox delivered = annListening.inbox (Host.fresh []) ++ letters :=
    rfl
  have run : Run annListening.Step (Host.fresh []) [.arrived letters] delivered :=
    .snoc .nil (.arrive letters hInbox)
  obtain ⟨hKeepsUp, -, -, hBuffer, -⟩ := hears_every_peer_once run
  have hDue : told (annListening.inbox (Host.fresh []) ++ arrivals [.arrived letters]) = [word] :=
    told_letters
  rw [hDue] at hKeepsUp
  exact ⟨run, hKeepsUp.next, ofDatagram?_overlong_cut, (hBuffer overlong).2 size_overlong⟩

end Client
end RingBus
