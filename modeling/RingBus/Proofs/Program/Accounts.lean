import RingBus.Program.Consume
import RingBus.Proofs.Ring.Transfer

/-!
# The accounts of a consumer

The readers of a consumer share one counter and hand over what they take through a channel.

* `Consumer.reserved`, `Consumer.inHand`: the units and the messages that readers hold.
* `Consumer.taken?`: what a reader takes out of its ring.
* `Accounts`: the units add up, and a message that was taken is in the hand of its reader, in the
  channel or printed.
* `Accounts.moved`: the one way in which a reader changes any of this.
* `Settled`: how a run ends.
-/

namespace RingBus
namespace Program

/-! ## What is printed -/

/-- A part of what a consumer prints. -/
inductive Entry
  | waiting (key : ServiceKey)
  | found (endpoint : Endpoint) (ring : RingName)
  | message (r : Received)
  | interrupted

namespace Entry

/-- How an entry is printed. -/
def text : Entry → String
  | .waiting key =>
    lines [s!"▶ Waiting for producers of {key.text}", "Press Ctrl+C to stop..."]
  | .found endpoint ring => line s!"  ● Producer found: {endpoint.text} ({ring.text})"
  | .message r => r.line
  | .interrupted => lines ["", "Shutting down..."]

/-- The message that an entry prints, if it prints one. -/
def message? : Entry → Option Received
  | .message r => some r
  | _ => none

end Entry

/-- What is printed with some entries. -/
def transcript (entries : List Entry) : String :=
  String.join (entries.map Entry.text)

/-- The messages among some entries. -/
def messages (entries : List Entry) : List Received :=
  entries.filterMap Entry.message?

theorem transcript_append (entries more : List Entry) :
    transcript (entries ++ more) = transcript entries ++ transcript more := by
  simp [transcript]

theorem messages_append (entries more : List Entry) :
    messages (entries ++ more) = messages entries ++ messages more := by
  simp [messages]

theorem messages_map_message (rs : List Received) : messages (rs.map .message) = rs := by
  simp [messages, List.filterMap_map, Function.comp_def, Entry.message?]

/-- The messages that come from the ring of a name. -/
def ofRing (name : RingName) (rs : List Received) : List Received :=
  rs.filter (·.ring = name)

theorem ofRing_append (name : RingName) (rs more : List Received) :
    ofRing name (rs ++ more) = ofRing name rs ++ ofRing name more :=
  List.filter_append ..

theorem ofRing_of_forall {name : RingName} {rs : List Received} (h : ∀ r ∈ rs, r.ring = name) :
    ofRing name rs = rs :=
  List.filter_eq_self.mpr fun r hr => decide_eq_true (h r hr)

theorem ofRing_of_forall_other {name other : RingName} {rs : List Received}
    (h : ∀ r ∈ rs, r.ring = name) (hOther : other ≠ name) : ofRing other rs = [] := by
  refine List.filter_eq_nil_iff.mpr fun r hr => ?_
  simpa [h r hr] using hOther.symm

/-- Messages that agree ring by ring are the same ones. -/
theorem perm_of_ofRing {rs more : List Received} (h : ∀ name, ofRing name rs = ofRing name more) :
    rs.Perm more := by
  classical
  refine List.perm_iff_count.mpr fun r => ?_
  have hCount : ∀ l, (ofRing r.ring l).count r = l.count r := fun l =>
    List.count_filter (by simp)
  rw [← hCount, h, hCount]

/-! ## What readers hold -/

namespace ReaderState

/-- The reader holds a unit of the budget for a message that it has not got. -/
def holdsUnit : ReaderState → Bool
  | .reading _ .reserved => true
  | .reading _ (.emptyHanded _) => true
  | _ => false

/-- How many units of the budget a reader holds. -/
def units (state : ReaderState) : Nat :=
  if state.holdsUnit then 1 else 0

/-- The message that a reader has taken and not passed on. -/
def inHand : ReaderState → List Received
  | .reading ring (.holding payload) => [⟨ring.name, payload⟩]
  | _ => []

/-- The reader is one of the ring of that name. -/
def Named (name : RingName) : ReaderState → Prop
  | .opening event => event.peer.ring = some name
  | .reading ring _ => ring.name = name
  | .stopped => True

variable {name : RingName} {state : ReaderState}

theorem Named.ring_of_mem_inHand (h : state.Named name) :
    ∀ m ∈ state.inHand, m.ring = name := by
  intro m hMem
  unfold inHand at hMem
  split at hMem
  · rw [List.mem_singleton.mp hMem]
    exact h
  · cases hMem

end ReaderState

namespace Consumer

/-- How many units of the budget are in the hands of readers. -/
def reserved (c : Consumer) : Nat :=
  c.readers.countP (·.state.holdsUnit)

/-- The messages that are in the hands of readers. -/
def inHand (c : Consumer) : List Received :=
  c.readers.flatMap (·.state.inHand)

/-- What reader number `i` takes out of its ring in its next step. -/
def taken? (c : Consumer) (i : Nat) (s : Shared) : Option Received :=
  match c.readers[i]?.map RingReader.state with
  | some (.reading ring .reserved) =>
    match ring.read readPatience s with
    | (_, .value (some payload)) => some ⟨ring.name, payload⟩
    | _ => none
  | _ => none

variable {c c' : Consumer} {i : Nat} {r : RingReader} {event : PeerEvent} {s : Shared}

theorem ring_of_openRing {policy : RetryPolicy} {ring : Ring} {after : Shared} :
    event.openRing policy s = (after, .value (some ring)) →
      event.peer.ring = some ring.name := by
  intro hOpen
  unfold PeerEvent.openRing at hOpen
  split at hOpen
  · cases hOpen
  next name hName =>
    split at hOpen
    next ring' hNamed =>
      cases hOpen
      rw [hName, Ring.name, (Ring.opened_of_openNamed hNamed).2.segment]
    all_goals cases hOpen

theorem stopping_readerStep : (c.readerStep i s).1.stopping = c.stopping := by
  unfold readerStep
  split
  · rfl
  next state _ =>
    -- On the state of the reader; no phase of its round asks anybody to stop.
    cases state with
    | opening event =>
      simp only [openRing]
      split <;> rfl
    | stopped => rfl
    | reading ring phase =>
      cases phase with
      | eager =>
        simp only [reserve]
        split <;> rfl
      | reserved =>
        simp only [take]
        split <;> rfl
      | idle | holding payload | emptyHanded failed => rfl

@[simp] theorem budget_setReader (state : ReaderState) :
    (c.setReader i state).budget = c.budget :=
  rfl

@[simp] theorem budget_openRing : (c.openRing i event s).1.budget = c.budget := by
  unfold openRing
  split <;> rfl

@[simp] theorem budget_take {ring : Ring} : (c.take i ring s).1.budget = c.budget := by
  unfold take
  split <;> rfl

theorem toNat_budget_sub_one (hLeft : c.budget ≠ 0) :
    (c.budget - 1).toNat + 1 = c.budget.toNat := by
  have hPos : 0 < c.budget.toNat := Nat.pos_of_ne_zero fun h => hLeft (UInt64.toNat_inj.mp h)
  have hOne : (1 : UInt64) ≤ c.budget := UInt64.le_iff_toNat_le.mpr hPos
  rw [UInt64.toNat_sub_of_le _ _ hOne]
  exact Nat.sub_add_cancel hPos

/-- Changing a reader's state changes one entry among the readers and nothing else. -/
theorem exists_split (hReader : c.readers[i]? = some r) :
    ∃ before after, c.readers = before ++ r :: after ∧
      ∀ state, (c.setReader i state).readers = before ++ ⟨r.name, state⟩ :: after := by
  obtain ⟨hLess, rfl⟩ := List.getElem?_eq_some_iff.mp hReader
  refine ⟨c.readers.take i, c.readers.drop (i + 1), ?_, fun state => ?_⟩
  · rw [List.getElem_cons_drop, List.take_append_drop]
  · exact List.modify_eq_take_cons_drop hLess

/-- Every reader reads from the ring of its own name, and no ring is read by two. -/
structure Arranged (c : Consumer) : Prop where
  named : ∀ r ∈ c.readers, r.state.Named r.name
  apart : (c.readers.map RingReader.name).Nodup
  opened : ∀ r ∈ c.readers, r.name ∈ c.opened

namespace Arranged

theorem setReader (arranged : c.Arranged) (hReader : c.readers[i]? = some r) {state : ReaderState}
    (hNamed : state.Named r.name) : (c.setReader i state).Arranged := by
  obtain ⟨before, after, hBefore, hAfter⟩ := exists_split hReader
  obtain ⟨hOld, hApart, hOpened⟩ := arranged
  simp only [hBefore, List.forall_mem_append, List.forall_mem_cons] at hOld hOpened
  refine ⟨?_, ?_, ?_⟩
  · simp only [hAfter, List.forall_mem_append, List.forall_mem_cons]
    exact ⟨hOld.1, hNamed, hOld.2.2⟩
  · simpa [hAfter, hBefore] using hApart
  · simp only [hAfter, List.forall_mem_append, List.forall_mem_cons]
    exact hOpened

variable {before after : List RingReader} (arranged : c.Arranged)
  (hReaders : c.readers = before ++ r :: after)
include arranged hReaders

theorem inHand_same : ofRing r.name c.inHand = r.state.inHand := by
  -- The other readers have other rings.
  have hOthers : ofRing r.name ((before ++ after).flatMap (·.state.inHand)) = [] := by
    refine List.filter_eq_nil_iff.mpr fun m hMem => ?_
    obtain ⟨r', hr', hm⟩ := List.mem_flatMap.mp hMem
    have hNamed : r'.state.Named r'.name := arranged.named r' (by
      rw [hReaders]
      exact List.perm_middle.symm.subset (.tail _ hr'))
    have hOnce : (r.name :: (before ++ after).map RingReader.name).Nodup := by
      have hApart := arranged.apart
      rw [hReaders] at hApart
      exact (List.perm_middle.map RingReader.name).nodup_iff.mp hApart
    rw [hNamed.ring_of_mem_inHand m hm, decide_eq_true_eq]
    exact fun hSame => (List.nodup_cons.mp hOnce).1 (hSame ▸ List.mem_map_of_mem hr')
  have hHere : ofRing r.name r.state.inHand = r.state.inHand :=
    ofRing_of_forall (arranged.named r (by simp [hReaders])).ring_of_mem_inHand
  rw [List.flatMap_append, ofRing_append, List.append_eq_nil_iff] at hOthers
  simp [inHand, hReaders, ofRing_append, hOthers, hHere]

theorem inHand_other {name : RingName} (hOther : name ≠ r.name) :
    ofRing name c.inHand =
      ofRing name ((before ++ after).flatMap (·.state.inHand)) := by
  have hNone : ofRing name r.state.inHand = [] :=
    ofRing_of_forall_other (arranged.named r (by simp [hReaders])).ring_of_mem_inHand hOther
  simp [inHand, hReaders, ofRing_append, hNone]

end Arranged
end Consumer

/-! ## What a reader may do -/

/-- In its next step a reader takes a unit from the counter or gives one back, if it touches the
counter at all, and what it takes is the oldest message of the ring that it reads from. -/
structure Careful (c : Consumer) (i : Nat) (s : Shared) : Prop where
  counter : let budget := (c.readerStep i s).1.budget
    budget.toNat = c.budget.toNat ∨ budget.toNat + 1 = c.budget.toNat ∨
      budget.toNat = c.budget.toNat + 1
  oldest : ∀ m, c.taken? i s = some m → ∃ ring : Ring,
    c.readers[i]?.map RingReader.state = some (.reading ring .reserved) ∧
      m = ⟨ring.name, ring.payloadAtHead s⟩ ∧
        ring.headIndex (c.readerStep i s).2 = Ring.next ring.geometry (ring.headIndex s)

/-- A reader that takes a message takes the oldest of its own ring, whose head moves on by one. -/
theorem Consumer.oldest_of_taken? {c : Consumer} {i : Nat} {s : Shared} {m : Received} :
    c.taken? i s = some m → ∃ ring : Ring,
      c.readers[i]?.map RingReader.state = some (.reading ring .reserved) ∧
        m = ⟨ring.name, ring.payloadAtHead s⟩ ∧
          ring.headIndex (c.readerStep i s).2 = Ring.next ring.geometry (ring.headIndex s) := by
  intro hTaken
  unfold Consumer.taken? at hTaken
  split at hTaken
  next ring hState =>
    split at hTaken
    next s' payload hRead =>
      cases hTaken
      obtain ⟨hPayload, hHead⟩ := Ring.oldest_of_read hRead
      -- The step of the reader is that same read.
      have hShared : (c.readerStep i s).2 = s' := by
        simp only [Consumer.readerStep, hState, Consumer.take, hRead]
      exact ⟨ring, hState, by rw [hPayload], by rw [hShared, hHead]⟩
    next => cases hTaken
  next => cases hTaken

/-! ## Units and messages -/

/-- Where everything is that readers were given and have taken. -/
structure Accounts (max : Option Nat) (taken : List Received) (c : Consumer) : Prop where
  arranged : c.Arranged
  balance : c.budget.toNat + c.reserved + taken.length = (Consumer.initialBudget max).toNat
  flow : ∃ entries, c.output = transcript entries ∧ c.received = (messages entries).length ∧
    ∀ name, ofRing name taken =
      ofRing name (messages entries) ++ ofRing name c.channel ++ ofRing name c.inHand

namespace Accounts

variable {max : Option Nat} {taken : List Received} {c c' : Consumer} {i : Nat} {r : RingReader}
  {name : RingName}

/-- A reader changes its state. What it held before and what it takes is what it passes on and what
it holds then, and its units come from the counter or go there. -/
theorem moved (accounts : Accounts max taken c) (hReader : c.readers[i]? = some r)
    (state : ReaderState) (new passed : List Received) (budget : UInt64)
    (hNamed : state.Named r.name) (hFlow : r.state.inHand ++ new = passed ++ state.inHand)
    (hNew : ∀ m ∈ new, m.ring = r.name) (hPassed : ∀ m ∈ passed, m.ring = r.name)
    (hUnits : budget.toNat + state.units + new.length = c.budget.toNat + r.state.units) :
    Accounts max (taken ++ new)
      { c.setReader i state with budget, channel := c.channel ++ passed } := by
  obtain ⟨before, after, hBefore, hAfter⟩ := Consumer.exists_split hReader
  have arranged := accounts.arranged.setReader hReader hNamed
  refine ⟨⟨arranged.named, arranged.apart, arranged.opened⟩, ?_, ?_⟩
  · have hBalance := accounts.balance
    simp only [Consumer.reserved, hBefore, hAfter, List.countP_append, List.countP_cons,
      List.length_append] at hBalance ⊢
    simp only [ReaderState.units] at hUnits
    omega
  · obtain ⟨entries, hOutput, hReceived, hTaken⟩ := accounts.flow
    refine ⟨entries, hOutput, hReceived, fun name => ?_⟩
    -- Only this reader takes anything from its ring and passes it on.
    have hHands : ofRing name c.inHand ++ ofRing name new =
        ofRing name passed ++ ofRing name (c.setReader i state).inHand := by
      by_cases hName : name = r.name
      · subst hName
        rw [accounts.arranged.inHand_same hBefore, arranged.inHand_same (hAfter state),
          ofRing_of_forall hNew, ofRing_of_forall hPassed, hFlow]
      · rw [accounts.arranged.inHand_other hBefore hName,
          arranged.inHand_other (hAfter state) hName, ofRing_of_forall_other hNew hName,
          ofRing_of_forall_other hPassed hName]
        simp
    calc ofRing name (taken ++ new)
      _ = ofRing name taken ++ ofRing name new := ofRing_append ..
      _ = ofRing name (messages entries) ++ ofRing name c.channel ++
            (ofRing name c.inHand ++ ofRing name new) := by rw [hTaken, List.append_assoc]
      _ = ofRing name (messages entries) ++ ofRing name (c.channel ++ passed) ++
            ofRing name (c.setReader i state).inHand := by
          rw [hHands, ofRing_append]
          simp only [List.append_assoc]

/-- No message changes hands. -/
theorem paid (accounts : Accounts max taken c) (hReader : c.readers[i]? = some r)
    (state : ReaderState) (budget : UInt64) (hNamed : state.Named r.name)
    (hHand : state.inHand = r.state.inHand)
    (hUnits : budget.toNat + state.units = c.budget.toNat + r.state.units) :
    Accounts max taken { c.setReader i state with budget } := by
  have h := accounts.moved hReader state [] [] budget hNamed (by simp [hHand]) nofun nofun hUnits
  simp only [List.append_nil] at h
  exact h

/-- No unit changes hands either. -/
theorem turned (accounts : Accounts max taken c) (hReader : c.readers[i]? = some r)
    (state : ReaderState) (hNamed : state.Named r.name) (hHand : state.inHand = r.state.inHand)
    (hUnits : state.units = r.state.units) : Accounts max taken (c.setReader i state) :=
  accounts.paid hReader state c.budget hNamed hHand (by rw [hUnits])

/-- The budget and what one reader has of it never exceed the budget at first. -/
theorem budget_add_units_le (accounts : Accounts max taken c) (hReader : c.readers[i]? = some r) :
    c.budget.toNat + r.state.units ≤ (Consumer.initialBudget max).toNat := by
  obtain ⟨before, after, hBefore, -⟩ := Consumer.exists_split hReader
  have hBalance := accounts.balance
  simp only [Consumer.reserved, hBefore, List.countP_append, List.countP_cons] at hBalance
  simp only [ReaderState.units]
  omega

/-- Where a reader has a unit to give back, there is room for it in the counter. -/
theorem toNat_budget_add_one (accounts : Accounts max taken c) (hReader : c.readers[i]? = some r)
    (hUnit : r.state.units = 1) : (c.budget + 1).toNat = c.budget.toNat + 1 := by
  have hRoom := accounts.budget_add_units_le hReader
  have hSize := (Consumer.initialBudget max).toNat_lt
  rw [UInt64.toNat_add, UInt64.toNat_one]
  exact Nat.mod_eq_of_lt (by omega)

/-! ## Steps of the readers -/

/-- Opening a ring keeps the accounts. -/
theorem openRing (accounts : Accounts max taken c) (hReader : c.readers[i]? = some r)
    {event : PeerEvent} (hState : r.state = .opening event) (s : Shared) :
    Accounts max taken (c.openRing i event s).1 := by
  have hNamed := accounts.arranged.named r (List.mem_of_getElem? hReader)
  rw [hState] at hNamed
  unfold Consumer.openRing
  split
  next ring hOpen =>
    have hRing : event.peer.ring = some ring.name := Consumer.ring_of_openRing hOpen
    exact accounts.turned hReader _ (Option.some.inj (hRing.symm.trans hNamed))
      (by rw [hState]; rfl) (by rw [hState]; rfl)
  next => exact accounts.turned hReader _ trivial (by rw [hState]; rfl) (by rw [hState]; rfl)

section

variable {ring : Ring} (accounts : Accounts max taken c)
include accounts

/-- Beginning a round keeps the accounts. -/
theorem look (hReader : c.readers[i]? = some ⟨name, .reading ring .idle⟩) :
    Accounts max taken (c.look i ring) := by
  have hNamed := accounts.arranged.named _ (List.mem_of_getElem? hReader)
  unfold Consumer.look
  split
  · exact accounts.turned hReader _ trivial rfl rfl
  · exact accounts.turned hReader _ hNamed rfl rfl

/-- Reserving a unit moves it from the budget to the reader. -/
theorem reserve (hReader : c.readers[i]? = some ⟨name, .reading ring .eager⟩) :
    Accounts max taken (c.reserve i ring) := by
  have hNamed := accounts.arranged.named _ (List.mem_of_getElem? hReader)
  unfold Consumer.reserve
  split
  next => exact accounts.turned hReader _ hNamed rfl rfl
  next hLeft =>
    exact accounts.paid hReader _ _ hNamed rfl (Consumer.toNat_budget_sub_one hLeft)

/-- Taking a message adds it to those taken and to the reader's hand. -/
theorem take (hReader : c.readers[i]? = some ⟨name, .reading ring .reserved⟩) (s : Shared) :
    Accounts max (taken ++ (c.taken? i s).toList) (c.take i ring s).1 := by
  have hNamed : ring.name = name := accounts.arranged.named _ (List.mem_of_getElem? hReader)
  simp only [Consumer.taken?, hReader, Option.map_some, Consumer.take]
  rcases ring.read readPatience s with ⟨s', reply⟩
  -- On what the read comes to; only a payload is new to the accounts.
  cases reply with
  | value answer =>
    cases answer with
    | none =>
      simpa using accounts.turned hReader (.reading ring (.emptyHanded false)) hNamed rfl rfl
    | some payload =>
      have h := accounts.moved hReader (.reading ring (.holding payload)) [⟨ring.name, payload⟩] []
        c.budget hNamed rfl (by simp [hNamed]) nofun rfl
      rw [List.append_nil] at h
      exact h
  | failed e =>
    simpa using accounts.turned hReader (.reading ring (.emptyHanded true)) hNamed rfl rfl
  | blocked => simpa using accounts
  | outside => simpa using accounts

/-- Passing a message on moves it from the reader's hand to the channel. -/
theorem pass {payload : ByteArray}
    (hReader : c.readers[i]? = some ⟨name, .reading ring (.holding payload)⟩) :
    Accounts max taken (c.pass i ring payload) := by
  have hNamed : ring.name = name := accounts.arranged.named _ (List.mem_of_getElem? hReader)
  have h := accounts.moved hReader (.reading ring .idle) [] [⟨ring.name, payload⟩] c.budget hNamed
    rfl nofun (by simp [hNamed]) rfl
  rw [List.append_nil] at h
  exact h

/-- Giving a unit back moves it from the reader to the budget. -/
theorem giveBack {failed : Bool}
    (hReader : c.readers[i]? = some ⟨name, .reading ring (.emptyHanded failed)⟩) :
    Accounts max taken (c.giveBack i ring failed) := by
  have hNamed := accounts.arranged.named _ (List.mem_of_getElem? hReader)
  have hBudget := accounts.toNat_budget_add_one hReader rfl
  unfold Consumer.giveBack
  cases failed with
  | true => exact accounts.paid hReader .stopped _ trivial rfl hBudget
  | false => exact accounts.paid hReader (.reading ring .idle) _ hNamed rfl hBudget

end

/-- Whatever a reader does next, the accounts stay in order. -/
theorem readerStep (accounts : Accounts max taken c) (i : Nat) (s : Shared) :
    Accounts max (taken ++ (c.taken? i s).toList) (c.readerStep i s).1 := by
  cases hReader : c.readers[i]? with
  | none => simpa [Consumer.readerStep, Consumer.taken?, hReader] using accounts
  | some r =>
    rcases r with ⟨name, state⟩
    -- Only a reader with a unit may take a message.
    simp only [Consumer.readerStep, hReader, Option.map_some]
    cases state with
    | opening event => simpa [Consumer.taken?, hReader] using accounts.openRing hReader rfl s
    | stopped => simpa [Consumer.taken?, hReader] using accounts
    | reading ring phase =>
      cases phase with
      | idle => simpa [Consumer.taken?, hReader] using accounts.look hReader
      | eager => simpa [Consumer.taken?, hReader] using accounts.reserve hReader
      | reserved => exact accounts.take hReader s
      | holding payload => simpa [Consumer.taken?, hReader] using accounts.pass hReader
      | emptyHanded failed => simpa [Consumer.taken?, hReader] using accounts.giveBack hReader

/-- The counter does not wrap. -/
theorem careful (accounts : Accounts max taken c) (i : Nat) (s : Shared) : Careful c i s := by
  refine ⟨?_, fun m => Consumer.oldest_of_taken?⟩
  intro budget
  cases hReader : c.readers[i]? with
  | none => simp [budget, Consumer.readerStep, hReader]
  | some r =>
    rcases r with ⟨name, state⟩
    cases state with
    | opening event => exact .inl (by simp [budget, Consumer.readerStep, hReader])
    | stopped => exact .inl (by simp [budget, Consumer.readerStep, hReader])
    | reading ring phase =>
      -- On the phase; a unit is taken only off a budget that is not zero, and given back only after
      -- it was taken.
      cases phase with
      | idle => exact .inl (by simp [budget, Consumer.readerStep, hReader, Consumer.look])
      | eager =>
        have hStep : budget = (c.reserve i ring).budget := by
          simp [budget, Consumer.readerStep, hReader]
        rw [hStep, Consumer.reserve]
        split
        next => exact .inl rfl
        next hLeft => exact .inr (.inl (Consumer.toNat_budget_sub_one hLeft))
      | reserved => exact .inl (by simp [budget, Consumer.readerStep, hReader])
      | holding payload =>
        exact .inl (by simp [budget, Consumer.readerStep, hReader, Consumer.pass])
      | emptyHanded failed =>
        have hStep : budget = c.budget + 1 := by
          simp [budget, Consumer.readerStep, hReader, Consumer.giveBack]
        rw [hStep]
        exact .inr (.inr (accounts.toNat_budget_add_one hReader rfl))

/-! ## Steps of the main loop -/

/-- One more thing is printed that is no message. -/
theorem announced (accounts : Accounts max taken c) (entry : Entry)
    (hNone : entry.message? = none) :
    Accounts max taken { c with output := c.output ++ entry.text } := by
  obtain ⟨entries, hOutput, hReceived, hTaken⟩ := accounts.flow
  have hMessages : messages (entries ++ [entry]) = messages entries := by
    simp [messages, hNone]
  refine ⟨⟨accounts.arranged.named, accounts.arranged.apart, accounts.arranged.opened⟩,
    accounts.balance, entries ++ [entry], ?_, ?_, ?_⟩
  · simp [hOutput, transcript]
  · rw [hMessages]
    exact hReceived
  · rw [hMessages]
    exact hTaken

/-- Asking the readers to stop keeps the accounts. -/
theorem stop (accounts : Accounts max taken c) : Accounts max taken c.stop :=
  ⟨⟨accounts.arranged.named, accounts.arranged.apart, accounts.arranged.opened⟩, accounts.balance,
    accounts.flow⟩

theorem interrupt (accounts : Accounts max taken c) : Accounts max taken c.interrupt :=
  (accounts.announced .interrupted rfl).stop

/-- A new reader has taken nothing. -/
theorem joined (accounts : Accounts max taken c) {event : PeerEvent}
    (hRing : event.peer.ring = some name) (hNew : name ∉ c.opened) :
    Accounts max taken
      { c with opened := name :: c.opened, readers := c.readers ++ [⟨name, .opening event⟩] } := by
  obtain ⟨hNamed, hApart, hOpened⟩ := accounts.arranged
  have hAway : ∀ r ∈ c.readers, r.name ≠ name := fun r hr hSame => hNew (hSame ▸ hOpened r hr)
  refine ⟨⟨?_, ?_, ?_⟩, ?_, ?_⟩
  · intro r hr
    rcases List.mem_append.mp hr with hOld | hNew
    · exact hNamed r hOld
    · cases List.mem_singleton.mp hNew
      exact hRing
  · simpa [List.nodup_append] using ⟨hApart, hAway⟩
  · intro r hr
    rcases List.mem_append.mp hr with hOld | hNew
    · exact .tail _ (hOpened r hOld)
    · cases List.mem_singleton.mp hNew
      exact .head _
  · simpa [Consumer.reserved, ReaderState.holdsUnit] using accounts.balance
  · simpa [Consumer.inHand, ReaderState.inHand] using accounts.flow

/-- A new reader has nothing in hand. -/
theorem meet (accounts : Accounts max taken c) (event : PeerEvent) :
    Accounts max taken (c.meet event) := by
  unfold Consumer.meet
  split
  next => exact accounts
  next ring hRing =>
    split
    next => exact accounts
    next hNew =>
      have hAway : ring ∉ c.opened := by simpa using hNew
      exact (accounts.joined hRing hAway).announced (.found event.peer.endpoint ring) rfl

/-- Printing moves a message from the channel to the output. -/
theorem print {r : Received} {rest : List Received} (accounts : Accounts max taken c)
    (hChannel : c.channel = r :: rest) :
    Accounts max taken ({ c with channel := rest }.print r) := by
  obtain ⟨entries, hOutput, hReceived, hTaken⟩ := accounts.flow
  have hMessages : messages (entries ++ [.message r]) = messages entries ++ [r] := by
    simp [messages, Entry.message?]
  refine ⟨⟨accounts.arranged.named, accounts.arranged.apart, accounts.arranged.opened⟩,
    accounts.balance, entries ++ [.message r], ?_, ?_, fun name => ?_⟩
  · simp [Consumer.print, hOutput, transcript, Entry.text]
  · simp [Consumer.print, hMessages, hReceived]
  · rw [hTaken, hChannel, hMessages]
    simp only [Consumer.print, ofRing, List.filter_append, List.filter_cons]
    split <;> simp [Consumer.inHand]

end Accounts

/-! ## The end -/

/-- Printing several messages writes them in order and counts each. -/
theorem foldl_print (rs : List Received) (c : Consumer) :
    (rs.foldl Consumer.print c).output = c.output ++ transcript (rs.map .message) ∧
      (rs.foldl Consumer.print c).received = c.received + rs.length := by
  induction rs generalizing c with
  | nil => simp [transcript]
  | cons r rest ih =>
    obtain ⟨hOutput, hReceived⟩ := ih (c.print r)
    rw [List.foldl_cons, hOutput, hReceived]
    refine ⟨?_, ?_⟩
    · simp [Consumer.print, transcript, Entry.text, String.append_assoc]
    · simp [Consumer.print, Nat.add_comm, Nat.add_left_comm]

/-- How a run ended in which these messages were taken and these entries printed. -/
structure Settled (taken : List Received) (entries : List Entry) (exit : Exit) : Prop where
  reported : exit = .success (transcript entries ++ line s!"✓ Received {taken.length} messages")
  once : (messages entries).Perm taken
  ordered : ∀ name, ofRing name (messages entries) = ofRing name taken

/-- Readers that have stopped have nothing in hand. -/
theorem inHand_of_isQuiet {c : Consumer} : c.isQuiet = true → c.inHand = [] := by
  intro hQuiet
  refine List.flatMap_eq_nil_iff.mpr fun r hr => ?_
  have hStopped := List.all_eq_true.mp hQuiet r hr
  revert hStopped
  cases r.state <;> simp [ReaderState.isStopped, ReaderState.inHand]

/-- When no reader is at work any more, what is not printed is in the channel. -/
theorem Accounts.finish {max : Option Nat} {taken : List Received} {c : Consumer}
    (accounts : Accounts max taken c) (hQuiet : c.isQuiet = true) (h : Host) :
    ∃ entries, Settled taken entries (c.finish h).2 := by
  obtain ⟨entries, hOutput, hReceived, hTaken⟩ := accounts.flow
  obtain ⟨hText, hCount⟩ := foldl_print c.channel c
  have hMessages : messages (entries ++ c.channel.map .message) =
      messages entries ++ c.channel := by
    rw [messages_append, messages_map_message]
  -- Nobody has anything in hand, so what was taken is what was printed and what is in the channel.
  have hOrdered : ∀ name, ofRing name (messages (entries ++ c.channel.map .message)) =
      ofRing name taken := by
    intro name
    rw [hMessages, hTaken, inHand_of_isQuiet hQuiet, ofRing_append]
    simp [ofRing]
  have hOnce := perm_of_ofRing hOrdered
  refine ⟨entries ++ c.channel.map .message, ?_, hOnce, hOrdered⟩
  have hTotal : (c.channel.foldl Consumer.print c).received = taken.length := by
    rw [hCount, hReceived, ← hOnce.length_eq, hMessages, List.length_append]
  rw [Consumer.finish]
  simp only [hText, hTotal, hOutput, transcript_append]

end Program
end RingBus
