import RingBus.Program.Produce
import RingBus.Proofs.Ring.Fifo

/-!
# Neither skipped nor repeated

The loop of a producer tries again when the ring is full, and its counter has to keep in step with
the ring over any number of attempts that came to nothing, while others read, write, look and hold
units back.

* `Ring.Session.waiting`: the messages in a ring, as they stand in its bytes.
* `Writing.Step`: an attempt of the loop, or anything that others do in the session, or the request
  to stop.
* `Writing.attempt_eq`: what the next attempt comes to.
* `Writing.Faithful`: what has become of the messages, whenever one looks.
-/

namespace RingBus

namespace Ring

/-! ## What is in a ring -/

/-- The payload in a slot, as far as the number in front of it says. -/
def payloadIn (r : Ring) (s : Shared) (slot : Nat) : ByteArray :=
  (r.memory s).bytesAt (r.geometry.slotOffset slot + lengthSize)
    ((r.memory s).wordAt (r.geometry.slotOffset slot)).toNat

/-- The messages that wait in a ring: one for each unit of `filled`, whoever holds it, in the slots
from the head on. -/
def Session.waiting (σ : Session) (r : Ring) : List ByteArray :=
  (List.range (r.filledSlots σ.shared + σ.held .filled)).map fun k =>
    r.payloadIn σ.shared (((r.headIndex σ.shared).toNat + k) % r.geometry.slotCount.toNat)

/-- What comes out of a ring with an event. -/
def Event.taken : Event → List ByteArray
  | .read _ (.value (some payload)) => [payload]
  | _ => []

/-- What gets into a ring with an event. -/
def Event.added : Event → List ByteArray
  | .write payload _ (.value ()) => [payload]
  | _ => []

section

variable {name : RingName} {g : Geometry} {b r : Ring} {σ : Session} {q q' : Queue} {event : Event}

/-- A slot that holds a payload shows it. -/
theorem payloadIn_of_holds {s : Shared} {slot : Nat} {p : ByteArray}
    (hFits : p.size ≤ r.geometry.slotSize.toNat) (holds : Holds r.geometry (r.memory s) slot p) :
    r.payloadIn s slot = p := by
  have hSmall := r.geometry.slotSize.toNat_lt
  have hLength : (UInt32.ofNat p.size).toNat = p.size := by
    rw [UInt32.toNat_ofNat']
    exact Nat.mod_eq_of_lt (by omega)
  rw [payloadIn, holds.length, hLength]
  exact holds.bytes

/-- The messages of the queue are those that stand in the bytes. -/
theorem Tracks.waiting_eq (tracks : Tracks name b σ q) : σ.waiting b = q.items := by
  have hLength : (σ.waiting b).length = q.items.length := by
    rw [Session.waiting, List.length_map, List.length_range, ← tracks.held,
      tracks.ready.filledSlots_eq]
    exact tracks.filled
  apply List.ext_getElem hLength
  intro k hk hk'
  have hAt : q.items[k]? = some q.items[k] := List.getElem?_eq_getElem hk'
  -- The head has gone round as often as the messages taken so far make it.
  have hSlot : ((b.headIndex σ.shared).toNat + k) % b.geometry.slotCount.toNat =
      (q.taken + k) % b.geometry.slotCount.toNat := by
    rw [tracks.head, Queue.head, Nat.mod_add_mod]
  simp only [Session.waiting, List.getElem_map, List.getElem_range, hSlot]
  exact payloadIn_of_holds (tracks.fits _ (List.getElem_mem hk')) (tracks.holds hAt)

/-- Each handle on a ring does for it what its creator's does. -/
theorem Tracks.handle (tracks : Tracks name b σ q) (hr : r ∈ σ.handles) : Tracks name r σ q := by
  have hSame := tracks.handles r hr
  -- The two differ in the marks of the owner, which none of the other facts mentions.
  obtain ⟨⟨_, _, _, _, _⟩, _, _, _⟩ := r
  obtain ⟨⟨_, _, _, _, _⟩, _, _, _⟩ := b
  simp only [visitor, Ring.mk.injEq, Segment.mk.injEq] at hSame
  obtain ⟨⟨rfl, rfl, rfl, -, -⟩, rfl, rfl, -⟩ := hSame
  have mounted := tracks.mounted
  exact
    { tracks with
      mounted := ⟨mounted.existing, mounted.size, mounted.fits, mounted.distinct⟩
      creator := hr }

/-- What was in the queue comes out of it first. -/
theorem Queue.Step.flow (step : Queue.Step g q event q') :
    event.taken ++ q'.items = q.items ++ event.added := by
  -- On the step; writes add at the end, and reads take from the front.
  cases step with
  | write payload patience =>
    unfold Queue.write
    split
    · simp [Event.taken, Event.added]
    · split
      · by_cases hPatience : patience = .forever <;> simp [Event.taken, Event.added, hPatience]
      · simp [Event.taken, Event.added]
  | read patience =>
    unfold Queue.read
    split
    next oldest rest _ hItems => simp [Event.taken, Event.added, hItems]
    next => by_cases hPatience : patience = .forever <;> simp [Event.taken, Event.added, hPatience]
  | _ => simp [Event.taken, Event.added]

end

end Ring

namespace Program
namespace Writing

/-! ## The loop among others -/

/-- The bytes of message number `n`. -/
def message (n : Nat) : ByteArray :=
  (messageText n).toByteArray

/-- The first `n` messages. -/
def messages (n : Nat) : List ByteArray :=
  (List.range n).map message

theorem messages_succ (n : Nat) : messages (n + 1) = messages n ++ [message n] := by
  rw [messages, List.range_succ, List.map_append]
  rfl

/-- A loop on its way, and the session that its ring is used in. -/
structure Loop where
  writing : Writing
  stopped : Bool
  session : Ring.Session

/-- What happens next. -/
inductive Event
  | attempt
  /-- Others use the ring, or the same handle is used beside the loop. -/
  | elsewhere (event : Ring.Event)
  | stop

/-- The loop makes an attempt, whether or not the ring is full, or anything else happens. -/
inductive Step (name : RingName) (writer : Ring) (count : Nat) : Loop → Event → Loop → Prop
  | attempt {L : Loop} :
    Step name writer count L .attempt
      ⟨(L.writing.attempt writer count L.stopped L.session.shared).1, L.stopped,
        { L.session with
          shared := (L.writing.attempt writer count L.stopped L.session.shared).2 }⟩
  | elsewhere {L : Loop} {event : Ring.Event} {σ : Ring.Session} :
    Ring.Session.Step name L.session event σ →
      Step name writer count L (.elsewhere event) { L with session := σ }
  | stop {L : Loop} : Step name writer count L .stop { L with stopped := true }

/-- What others take out of the ring, and what they put in. -/
def Event.taken : Event → List ByteArray
  | .elsewhere event => event.taken
  | _ => []

/-- See `Event.taken`. -/
def Event.added : Event → List ByteArray
  | .elsewhere event => event.added
  | _ => []

/-! ## The next attempt -/

variable {name : RingName} {writer : Ring} {count : Nat} {L L' : Loop} {event : Event}
  {q : Ring.Queue} {n : Nat} {before : List ByteArray} {trace : List Event}

/-- The next attempt ends the writing, or the message is too long, or the ring is full, or the
message goes into the slot at the tail. -/
theorem attempt_eq {σ : Ring.Session} (tracks : Ring.Tracks name writer σ q) (n count : Nat)
    (stopped : Bool) :
    (underway n).attempt writer count stopped σ.shared =
      if n < count ∧ stopped = false then
        if writer.geometry.slotSize.toNat < (message n).size then
          (.failed (.payloadTooLarge (message n).size writer.geometry.slotSize.toNat), σ.shared)
        else if writer.freeSlots σ.shared = 0 then (.underway n, σ.shared)
        else (.underway (n + 1), writer.written (message n) σ.shared)
      else (.finished n, σ.shared) := by
  have hMessage : (messageText n).toByteArray = message n := rfl
  -- Of the ways in which a write can end, a corrupt tail and an endless wait are out of question.
  have hTail : ¬ writer.geometry.slotCount ≤ writer.tailIndex σ.shared :=
    UInt32.not_le.mpr tracks.tail_lt
  have hLimited : patience ≠ .forever := nofun
  by_cases hGoing : n < count ∧ stopped = false
  · rw [if_pos hGoing, attempt, if_pos hGoing, hMessage,
      Ring.write_eq tracks.mounted tracks.ready, if_neg hTail, ← tracks.ready.freeSlots_eq]
    by_cases hLong : writer.geometry.slotSize.toNat < (message n).size
    · rw [if_pos hLong, if_pos hLong]
    · by_cases hFull : writer.freeSlots σ.shared = 0
      · rw [if_neg hLong, if_neg hLong, if_pos hFull, if_pos hFull, if_neg hLimited]
      · rw [if_neg hLong, if_neg hLong, if_neg hFull, if_neg hFull]
  · rw [if_neg hGoing, attempt]
    exact if_neg hGoing

/-! ## What has become of the messages -/

/-- Where the messages are: those that others have read, followed by those that wait, are those that
waited at first, followed by those that got in since. Among these the messages of the loop stand in
order, each once, and everything else was put in by others. -/
structure Flow (before : List ByteArray) (trace : List Event) (n : Nat) (after : List ByteArray)
    (entered : List (Bool × ByteArray)) : Prop where
  balance : trace.flatMap Event.taken ++ after = before ++ entered.map Prod.snd
  own : (entered.filter fun e => e.1).map Prod.snd = messages n
  others : (entered.filter fun e => !e.1).map Prod.snd = trace.flatMap Event.added

/-- How far a loop has come that has written `n` messages. -/
def Stage (slotSize count n : Nat) (stopped : Bool) : Writing → Prop
  | .underway written => written = n
  | .finished written => written = n ∧ (n = count ∨ stopped = true)
  | .failed e =>
    n < count ∧ slotSize < (message n).size ∧ e = .payloadTooLarge (message n).size slotSize

namespace Flow

variable {after after' : List ByteArray} {entered : List (Bool × ByteArray)}

theorem start (before : List ByteArray) : Flow before [] 0 before [] :=
  ⟨(List.append_nil _).symm, rfl, rfl⟩

/-- Something happens, and `new` gets in with it. -/
theorem snoc {n' : Nat} (flow : Flow before trace n after entered) (new : List (Bool × ByteArray))
    (hBalance : event.taken ++ after' = after ++ new.map Prod.snd)
    (hOwn : messages n ++ (new.filter fun e => e.1).map Prod.snd = messages n')
    (hOthers : (new.filter fun e => !e.1).map Prod.snd = event.added) :
    Flow before (trace ++ [event]) n' after' (entered ++ new) where
  balance := by
    calc
      (trace ++ [event]).flatMap Event.taken ++ after'
          = trace.flatMap Event.taken ++ (event.taken ++ after') := by
            rw [List.flatMap_append, List.flatMap_singleton, List.append_assoc]
      _ = (trace.flatMap Event.taken ++ after) ++ new.map Prod.snd := by
            rw [hBalance, List.append_assoc]
      _ = before ++ (entered ++ new).map Prod.snd := by
            rw [flow.balance, List.append_assoc, List.map_append]
  own := by rw [List.filter_append, List.map_append, flow.own, hOwn]
  others := by
    rw [List.filter_append, List.map_append, flow.others, hOthers, List.flatMap_append,
      List.flatMap_singleton]

/-- The loop puts its next message in. -/
theorem written (flow : Flow before trace n after entered) :
    Flow before (trace ++ [.attempt]) (n + 1) (after ++ [message n])
      (entered ++ [(true, message n)]) :=
  flow.snoc _ rfl (messages_succ n).symm rfl

/-- An attempt that puts nothing in, or the request to stop. -/
theorem idle (flow : Flow before trace n after entered) (hTaken : event.taken = [])
    (hAdded : event.added = []) : Flow before (trace ++ [event]) n after (entered ++ []) := by
  have hBalance : event.taken ++ after = after ++ [] := by
    rw [hTaken, List.append_nil]
    rfl
  exact flow.snoc [] hBalance (List.append_nil _) hAdded.symm

/-- Others put something in or take something out. -/
theorem elsewhere {event : Ring.Event} (flow : Flow before trace n after entered)
    (hFlow : event.taken ++ after' = after ++ event.added) :
    Flow before (trace ++ [.elsewhere event]) n after'
      (entered ++ event.added.map fun p => (false, p)) := by
  have hPlain : (event.added.map fun p => (false, p)).map Prod.snd = event.added := by
    rw [List.map_map]
    exact List.map_id _
  have hOwn : (event.added.map fun p => (false, p)).filter (fun e => e.1) = [] := by
    simp
  have hOthers : (event.added.map fun p => (false, p)).filter (fun e => !e.1) =
      event.added.map fun p => (false, p) := by
    simp
  refine flow.snoc _ ?_ ?_ ?_
  · rw [hPlain]
    exact hFlow
  · rw [hOwn]
    exact List.append_nil _
  · rw [hOthers, hPlain]
    rfl

/-- If nobody else writes, the messages of the loop are all that gets in. -/
theorem alone (flow : Flow before trace n after entered)
    (hAlone : trace.flatMap Event.added = []) :
    trace.flatMap Event.taken ++ after = before ++ messages n := by
  have hNone : entered.filter (fun e => !e.1) = [] := by
    simpa [hAlone] using flow.others
  have hOwn : entered.filter (fun e => e.1) = entered := by
    rw [List.filter_eq_self]
    intro e he
    simpa using List.filter_eq_nil_iff.mp hNone e he
  have hMessages := flow.own
  rw [hOwn] at hMessages
  rw [flow.balance, hMessages]

end Flow

/-- A request to stop changes nothing about what was written. -/
theorem Stage.stop {slotSize : Nat} {stopped : Bool} {w : Writing}
    (stage : Stage slotSize count n stopped w) : Stage slotSize count n true w := by
  cases w with
  | finished written => exact ⟨stage.1, .inr rfl⟩
  | _ => exact stage

/-- What is known of a loop on its way, whose ring stands for the queue `q`. -/
structure Known (name : RingName) (writer : Ring) (count : Nat) (before : List ByteArray)
    (trace : List Event) (L : Loop) (q : Ring.Queue) (n : Nat) : Prop where
  tracks : Ring.Tracks name writer L.session q
  le_count : n ≤ count
  fits : ∀ i < n, (message i).size ≤ writer.geometry.slotSize.toNat
  flow : ∃ entered, Flow before trace n q.items entered
  stage : Stage writer.geometry.slotSize.toNat count n L.stopped L.writing

section

variable {σ : Ring.Session} {stopped : Bool} {w : Writing}

/-- At first nothing was written. -/
theorem Known.start (tracks : Ring.Tracks name writer σ q) (count : Nat) (stopped : Bool) :
    Known name writer count q.items [] ⟨.underway 0, stopped, σ⟩ q 0 where
  tracks := tracks
  le_count := Nat.zero_le _
  fits i hi := absurd hi (Nat.not_lt_zero i)
  flow := ⟨[], .start _⟩
  stage := rfl

/-- An attempt leaves the loop where it is, or moves it on by one message. -/
theorem Known.attempt (known : Known name writer count before trace ⟨w, stopped, σ⟩ q n) :
    ∃ q' n', Known name writer count before (trace ++ [.attempt])
      ⟨(w.attempt writer count stopped σ.shared).1, stopped,
        { σ with shared := (w.attempt writer count stopped σ.shared).2 }⟩ q' n' := by
  obtain ⟨tracks, hCount, hFits, ⟨entered, flow⟩, stage⟩ := known
  -- A loop that is over stays as it is; so does the ring if the next message does not get in.
  have idle {w' : Writing} (stage' : Stage writer.geometry.slotSize.toNat count n stopped w') :
      Known name writer count before (trace ++ [.attempt]) ⟨w', stopped, σ⟩ q n :=
    ⟨tracks, hCount, hFits, ⟨_, flow.idle rfl rfl⟩, stage'⟩
  cases w with
  | finished written => exact ⟨q, n, idle stage⟩
  | failed e => exact ⟨q, n, idle stage⟩
  | underway written =>
    have hWritten : written = n := stage
    subst hWritten
    rw [attempt_eq tracks]
    by_cases hGoing : written < count ∧ stopped = false
    · rw [if_pos hGoing]
      by_cases hLong : writer.geometry.slotSize.toNat < (message written).size
      · rw [if_pos hLong]
        exact ⟨q, written, idle ⟨hGoing.1, hLong, rfl⟩⟩
      by_cases hFull : writer.freeSlots σ.shared = 0
      · rw [if_neg hLong, if_pos hFull]
        exact ⟨q, written, idle rfl⟩
      · rw [if_neg hLong, if_neg hFull]
        have hSize := Nat.le_of_not_lt hLong
        have hPos : 0 < writer.units .free σ.shared :=
          tracks.ready.freeSlots_eq ▸ Nat.pos_of_ne_zero hFull
        have hFits' : ∀ i < written + 1, (message i).size ≤ writer.geometry.slotSize.toNat := by
          intro i hi
          rcases Nat.lt_succ_iff_lt_or_eq.mp hi with hOld | rfl
          · exact hFits i hOld
          · exact hSize
        exact ⟨_, written + 1, tracks.written hSize hPos, hGoing.1, hFits',
          ⟨_, flow.written⟩, rfl⟩
    · rw [if_neg hGoing]
      refine ⟨q, written, idle ⟨rfl, ?_⟩⟩
      -- It is over because all messages are written, or because it was asked to stop.
      by_cases hMore : written < count
      · exact .inr (by simpa [hMore] using hGoing)
      · exact .inl (Nat.le_antisymm hCount (Nat.le_of_not_lt hMore))

end

/-- Whatever happens next, the messages stay accounted for. -/
theorem Known.step (known : Known name writer count before trace L q n)
    (step : Step name writer count L event L') :
    ∃ q' n', Known name writer count before (trace ++ [event]) L' q' n' := by
  cases step with
  | attempt => exact known.attempt
  | elsewhere hStep =>
    -- What others do is a step of the queue, too.
    obtain ⟨q', hQueue, tracks'⟩ := known.tracks.step hStep
    obtain ⟨entered, flow⟩ := known.flow
    exact ⟨q', n, tracks', known.le_count, known.fits, ⟨_, flow.elsewhere hQueue.flow⟩,
      known.stage⟩
  | stop =>
    obtain ⟨entered, flow⟩ := known.flow
    exact ⟨q, n, known.tracks, known.le_count, known.fits, ⟨_, flow.idle rfl rfl⟩,
      known.stage.stop⟩

/-- Every run keeps what is known of the queue and of the messages written. -/
theorem Known.run {L₀ : Loop} (known : Known name writer count before [] L₀ q n)
    (run : Run (Step name writer count) L₀ trace L) :
    ∃ q' n', Known name writer count before trace L q' n' := by
  induction run with
  | nil => exact ⟨q, n, known⟩
  | snoc _ step ih =>
    obtain ⟨q', n', known'⟩ := ih
    exact known'.step step

/-! ## The result -/

/-- What can be told of a loop that has put `n` messages into a ring. -/
structure Faithful (writer : Ring) (count : Nat) (before : List ByteArray) (trace : List Event)
    (L : Loop) (n : Nat) : Prop where
  le_count : n ≤ count
  fits : ∀ i < n, (message i).size ≤ writer.geometry.slotSize.toNat
  flow : ∃ entered, Flow before trace n (L.session.waiting writer) entered
  alone : trace.flatMap Event.added = [] →
    trace.flatMap Event.taken ++ L.session.waiting writer = before ++ messages n
  stage : Stage writer.geometry.slotSize.toNat count n L.stopped L.writing
  /-- A loop that is not over comes to its end, or fails for the length of its next message, or
  waits for room, or moves on. -/
  next : L.writing = .underway n →
    L.writing.attempt writer count L.stopped L.session.shared =
      if n < count ∧ L.stopped = false then
        if writer.geometry.slotSize.toNat < (message n).size then
          (.failed (.payloadTooLarge (message n).size writer.geometry.slotSize.toNat),
            L.session.shared)
        else if writer.freeSlots L.session.shared = 0 then (.underway n, L.session.shared)
        else (.underway (n + 1), writer.written (message n) L.session.shared)
      else (.finished n, L.session.shared)

/-- From what is known, the messages that were written are those from the first on, in order. -/
theorem Known.faithful (known : Known name writer count before trace L q n) :
    Faithful writer count before trace L n := by
  have hWaiting : L.session.waiting writer = q.items := known.tracks.waiting_eq
  obtain ⟨entered, flow⟩ := known.flow
  exact
    { le_count := known.le_count
      fits := known.fits
      flow := ⟨entered, hWaiting ▸ flow⟩
      alone := fun hAlone => hWaiting ▸ flow.alone hAlone
      stage := known.stage
      next := fun hUnderway => by
        rw [hUnderway]
        exact attempt_eq known.tracks n count L.stopped }

/-- Whatever has happened to a ring since its creation, and whatever happens to it between the
attempts of a loop: as many messages are in the ring or were taken from it as the loop has counted,
in order and each once. The loop ends by itself after its last message, earlier only if it was asked
to, and it fails only for a message that no slot can hold. -/
theorem neither_skips_nor_repeats {g : Ring.Geometry} {s s' : Shared} {r : Ring}
    {past : List Ring.Event} {σ : Ring.Session} {stopped : Bool}
    (hCreate : Ring.create name g s = (s', .value r))
    (hPast : Run (Ring.Session.Step name) (.start r s') past σ) (hWriter : writer ∈ σ.handles)
    (run : Run (Step name writer count) ⟨.underway 0, stopped, σ⟩ trace L) :
    ∃ n, Faithful writer count (σ.waiting writer) trace L n := by
  obtain ⟨q, -, tracks⟩ := (Ring.tracks_start hCreate).run hPast
  have tracks' : Ring.Tracks name writer σ q := tracks.handle hWriter
  obtain ⟨q', n, known⟩ := (Known.start tracks' count stopped).run run
  rw [tracks'.waiting_eq]
  exact ⟨n, known.faithful⟩

/-! ### Two messages through one slot -/

namespace Sample

/-- One slot that is just large enough. -/
def geometry : Ring.Geometry :=
  ⟨1, 9, by decide, by decide, by decide, by decide⟩

def world : Shared :=
  Ring.founded Ring.Sample.name geometry Shared.pristine

def ring : Ring :=
  Ring.founder Ring.Sample.name geometry Shared.pristine

/-- A loop that is to write two messages. -/
def start : Loop :=
  ⟨.underway 0, false, .start ring world⟩

def attempted (L : Loop) : Loop :=
  ⟨(L.writing.attempt ring 2 L.stopped L.session.shared).1, L.stopped,
    { L.session with shared := (L.writing.attempt ring 2 L.stopped L.session.shared).2 }⟩

/-- The second attempt finds the ring full. -/
def full : Loop :=
  attempted (attempted start)

/-- Somebody has read the first message. -/
def emptied : Loop :=
  { full with
    session := { full.session with shared := (ring.read .none full.session.shared).1 } }

def finish : Loop :=
  attempted (attempted emptied)

def events : List Event :=
  [.attempt, .attempt, .elsewhere (.read .none (.value (some (message 0)))), .attempt, .attempt]

theorem create_eq_value :
    Ring.create Ring.Sample.name geometry Shared.pristine = (world, .value ring) :=
  Ring.create_of_vacant (by decide) Ring.Sample.vacant

theorem run_events : Run (Step Ring.Sample.name ring 2) start events finish := by
  have hReply : (ring.read .none full.session.shared).2 = .value (some (message 0)) := by
    decide +kernel
  have read : Step Ring.Sample.name ring 2 full
      (.elsewhere (.read .none (ring.read .none full.session.shared).2)) emptied :=
    .elsewhere (.read ring .none (List.mem_singleton_self _))
  rw [hReply] at read
  exact .snoc (.snoc (.snoc (.snoc (.snoc .nil .attempt) .attempt) read) .attempt) .attempt

end Sample

theorem neither_skips_nor_repeats_one_slot :
    Run (Step Ring.Sample.name Sample.ring 2) Sample.start Sample.events Sample.finish ∧
      Faithful Sample.ring 2 [] Sample.events Sample.finish 2 ∧
      Sample.finish.session.waiting Sample.ring = [message 1] := by
  have hFinished : Sample.finish.writing = .finished 2 := by decide +kernel
  obtain ⟨n, faithful⟩ := neither_skips_nor_repeats Sample.create_eq_value .nil
    (List.mem_singleton_self _) Sample.run_events
  have hCount : n = 2 := by
    have stage := faithful.stage
    rw [hFinished] at stage
    exact stage.1.symm
  subst hCount
  exact ⟨Sample.run_events, faithful, List.cons.inj (faithful.alone rfl) |>.2⟩

end Writing
end Program
end RingBus
