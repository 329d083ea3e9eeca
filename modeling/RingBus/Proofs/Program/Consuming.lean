import Mathlib.Data.List.ReduceOption
import RingBus.Program.Process
import RingBus.Proofs.Discovery.Listing
import RingBus.Proofs.Kernel
import RingBus.Proofs.Program.Accounts
import RingBus.Proofs.Sockets

/-!
# Every message that is taken is printed

The readers of a consumer work at the same time as its main loop, which may be satisfied or asked to
stop at any moment.

* `Consuming.Step`: any reader takes its next step, or the main loop does, or the rest of the host
  changes in whatever way.
* `Consuming.leads_advanceConsumer?`: what the program does is made of such steps.
* `Consuming.Known`: the accounts are in order from the start to the end.
-/

namespace RingBus
namespace Program

/-! ## Every interleaving -/

namespace Consuming

/-- A process and the host that it runs on. -/
structure Scene where
  host : Host
  process : Process

/-- What may happen next, and the message that is taken out of a ring with it. -/
inductive Step : Scene → Option Received → Scene → Prop
  | register {h h' : Host} {c : Consumer} {p : Process} :
    Process.register? .consumer (c.enroll h) = some (p, h') →
      Step ⟨h, .newConsumer c⟩ none ⟨h', p⟩
  | reader {h : Host} {c : Consumer} (i : Nat) :
    Step ⟨h, .consumer c⟩ (c.taken? i h.shared)
      ⟨{ h with shared := (c.readerStep i h.shared).2 }, .consumer (c.readerStep i h.shared).1⟩
  | hear {h h' : Host} {c c' : Consumer} :
    c.stopping = false → c.isSatisfied = false → c.hear? h = some (c', h') →
      Step ⟨h, .consumer c⟩ none ⟨h', .consumer c'⟩
  | print {h : Host} {c c' : Consumer} :
    c.stopping = false → c.isSatisfied = false → c.printNext? = some c' →
      Step ⟨h, .consumer c⟩ none ⟨h, .consumer c'⟩
  | satisfied {h : Host} {c : Consumer} :
    c.stopping = false → c.isSatisfied = true →
      Step ⟨h, .consumer c⟩ none ⟨h, .consumer c.stop⟩
  | interrupt {h : Host} {c : Consumer} :
    c.stopping = false → c.isSatisfied = false →
      Step ⟨h, .consumer c⟩ none ⟨h, .consumer c.interrupt⟩
  | finish {h : Host} {c : Consumer} :
    c.stopping = true → c.isQuiet = true →
      Step ⟨h, .consumer c⟩ none ⟨(c.finish h).1, .ended (c.finish h).2⟩
  /-- The rest of the host may change in any way. -/
  | elsewhere {h : Host} {p : Process} (h' : Host) : Step ⟨h, p⟩ none ⟨h', p⟩

/-- A consumer is started. -/
def opening (configFile service : String) (max : Option Nat) (name : String) (h : Host) : Scene :=
  let (h, process) := Process.start ⟨configFile, .consume service max⟩ name h
  ⟨h, process⟩

/-- What is known of a process that has taken so much. -/
inductive Known (max : Option Nat) (taken : List Received) : Process → Prop
  | waiting : taken = [] → Known max taken .waiting
  | refused (why : Failure) : taken = [] → Known max taken (.ended (.failure "" why))
  | new (client : Client) (key : ServiceKey) (retry : RetryPolicy) :
    taken = [] → Known max taken (.newConsumer
      ⟨client, key, retry, max, Consumer.initialBudget max, [], [], [], 0, false, ""⟩)
  | working {c : Consumer} : Accounts max taken c → Known max taken (.consumer c)
  | done {entries : List Entry} {exit : Exit} :
    taken.length ≤ (Consumer.initialBudget max).toNat → Settled taken entries exit →
      Known max taken (.ended exit)

/-! ### The program goes its way by such steps -/

section

variable {h h' : Host} {c : Consumer} {p : Process}

/-- One scene may lead to another. -/
def Leads (S S' : Scene) : Prop :=
  ∃ trace, Run Step S trace S'

theorem Leads.step {S S' S'' : Scene} {new : Option Received} :
    Step S new S' → Leads S' S'' → Leads S S'' := by
  rintro hStep ⟨trace, run⟩
  exact ⟨new :: trace, .head hStep run⟩

/-- The scene in which the readers of a consumer have come so far. -/
def Scene.of (h : Host) (w : Consumer × Shared) : Scene :=
  ⟨{ h with shared := w.2 }, .consumer w.1⟩

theorem leads_foldl {f : Consumer × Shared → Nat → Consumer × Shared}
    (hStep : ∀ w i, f w i = w ∨ f w i = w.1.readerStep i w.2) (indices : List Nat) (h : Host)
    (w : Consumer × Shared) :
    Leads (.of h w) (.of h (indices.foldl f w)) ∧
      (indices.foldl f w).1.stopping = w.1.stopping := by
  -- On the readers that get their turn; each makes one step or none.
  induction indices generalizing w with
  | nil => exact ⟨⟨[], .nil⟩, rfl⟩
  | cons i rest ih =>
    obtain ⟨hLeads, hStopping⟩ := ih (f w i)
    rw [List.foldl_cons, hStopping]
    rcases hStep w i with hSame | hNext
    · rw [hSame] at hLeads ⊢
      exact ⟨hLeads, rfl⟩
    · rw [hNext] at hLeads ⊢
      exact ⟨.step (.reader i) hLeads, Consumer.stopping_readerStep⟩

/-- The steps of one reader are steps of the scene. -/
theorem leads_readerSteps (i n : Nat) (h : Host) (w : Consumer × Shared) :
    Leads (.of h w) (.of h (Consumer.readerSteps i n w)) := by
  induction n generalizing w with
  | zero => exact ⟨[], .nil⟩
  | succ n ih => exact .step (.reader i) (ih _)

/-- A round of a reader in the program is made of steps of the scene. -/
theorem leads_advanceReader? {i : Nat} {w : Consumer × Shared} :
    Process.advanceReader? c i h.shared = some w → Leads ⟨h, .consumer c⟩ (.of h w) := by
  intro hAdvance
  obtain ⟨trace, run⟩ := leads_readerSteps i 3 h (c, h.shared)
  simp only [Process.advanceReader?] at hAdvance
  split at hAdvance
  · cases hAdvance
    exact ⟨_, .snoc run (.reader i)⟩
  · cases hAdvance
    exact ⟨_, .snoc run (.reader i)⟩
  · cases hAdvance

/-- What a consumer does before it has to wait is one or more of these steps. -/
theorem leads_advanceConsumer? :
    Process.advanceConsumer? c h = some (p, h') → Leads ⟨h, .consumer c⟩ ⟨h', p⟩ := by
  intro hAdvance
  simp only [Process.advanceConsumer?] at hAdvance
  split at hAdvance
  next hStopping =>
    -- Every reader takes a step, and if none is left at work, the run is over.
    obtain ⟨⟨trace, run⟩, hSame⟩ := leads_foldl (f := fun w i => w.1.readerStep i w.2)
      (fun _ _ => .inr rfl) (List.range c.readers.length) h (c, h.shared)
    split at hAdvance
    next hQuiet =>
      split at hAdvance
      · cases hAdvance
      · cases hAdvance
        exact ⟨_, .snoc run (.finish (hSame.trans hStopping) hQuiet)⟩
    next =>
      cases hAdvance
      exact ⟨_, run⟩
  next hGoing =>
    have hGoing : c.stopping = false := by simpa using hGoing
    split at hAdvance
    next hSatisfied =>
      cases hAdvance
      exact .step (.satisfied hGoing hSatisfied) ⟨[], .nil⟩
    next hMore =>
      have hMore : c.isSatisfied = false := by simpa using hMore
      split at hAdvance
      next c' h'' hHear =>
        cases hAdvance
        refine .step (.hear hGoing hMore hHear) ?_
        refine (leads_foldl (fun w i => ?_) _ h'' (c', h''.shared)).1
        dsimp only
        split
        · exact .inr rfl
        · exact .inl rfl
      next =>
        split at hAdvance
        next hPrint =>
          cases hAdvance
          exact .step (.print hGoing hMore hPrint) ⟨[], .nil⟩
        next =>
          obtain ⟨w, hFound, hEq⟩ := Option.map_eq_some_iff.mp hAdvance
          cases hEq
          obtain ⟨i, -, hAdvance⟩ := List.exists_of_findSome?_eq_some hFound
          exact leads_advanceReader? hAdvance

/-- A consumer goes on for so many steps, as long as it need not wait. -/
def Scene.onward : Nat → Scene → Scene
  | n + 1, ⟨h, .newConsumer c⟩ =>
    match (Process.newConsumer c).advance? h with
    | some (p, h') => onward n ⟨h', p⟩
    | none => ⟨h, .newConsumer c⟩
  | n + 1, ⟨h, .consumer c⟩ =>
    match (Process.consumer c).advance? h with
    | some (p, h') => onward n ⟨h', p⟩
    | none => ⟨h, .consumer c⟩
  | _, S => S

/-- However far the program goes on, it goes by steps of the scene. -/
theorem leads_onward (n : Nat) (S : Scene) : Leads S (S.onward n) := by
  -- On the number of rounds; processes of other kinds make none.
  induction n generalizing S with
  | zero => exact ⟨[], .nil⟩
  | succ n ih =>
    rcases S with ⟨h, p⟩
    cases p with
    | newConsumer c =>
      unfold Scene.onward
      split
      next p h' hAdvance => exact .step (.register hAdvance) (ih ⟨h', p⟩)
      next => exact ⟨[], .nil⟩
    | consumer c =>
      unfold Scene.onward
      split
      next p h' hAdvance =>
        obtain ⟨trace, run⟩ := leads_advanceConsumer? hAdvance
        obtain ⟨trace', run'⟩ := ih ⟨h', p⟩
        exact ⟨trace ++ trace', run.trans run'⟩
      next => exact ⟨[], .nil⟩
    | _ => exact ⟨[], .nil⟩

end

/-! ### Whatever was taken -/

variable {max : Option Nat} {S S' : Scene} {taken : List Received} {new : Option Received}
  {trace : List (Option Received)}

/-- A consumer that has just registered has taken and printed nothing. -/
theorem accounts_enrolled (client : Client) (retry : RetryPolicy) (key : ServiceKey)
    (max : Option Nat) :
    Accounts max [] ⟨client, key, retry, max, Consumer.initialBudget max, [], [], [], 0, false,
      (Entry.waiting key).text⟩ := by
  refine ⟨⟨nofun, List.nodup_nil, nofun⟩, by simp [Consumer.reserved], [.waiting key], ?_, rfl, ?_⟩
  · simp [transcript]
  · exact fun _ => rfl

theorem known_opening (configFile service : String) (max : Option Nat) (name : String) (h : Host) :
    Known max [] (opening configFile service max name h).process := by
  simp only [opening, Process.start, Consumer.start]
  split
  next => exact .refused _ rfl
  next config key _ =>
    split
    next => exact .refused _ rfl
    next => exact .new _ _ _ rfl

/-- Registering makes a consumer with nothing on its accounts, or ends the run. -/
theorem known_register {h h' : Host} {p : Process} (client : Client) (key : ServiceKey)
    (retry : RetryPolicy) :
    Process.register? .consumer (Consumer.enroll
        ⟨client, key, retry, max, Consumer.initialBudget max, [], [], [], 0, false, ""⟩ h) =
      some (p, h') → Known max [] p := by
  intro hRegister
  rw [Consumer.enroll] at hRegister
  split at hRegister
  · cases hRegister
    refine .working ?_
    rw [String.empty_append]
    exact accounts_enrolled _ retry key max
  · cases hRegister
    exact .refused _ rfl
  · cases hRegister

/-- Every step keeps the accounts of what was taken and printed. -/
theorem known_step (step : Step S new S') (known : Known max taken S.process) :
    Known max (taken ++ new.toList) S'.process := by
  -- On the step; before the registration there is nothing to account for, and after the end nothing
  -- moves any more.
  cases step with
  | register hRegister =>
    cases known with
    | new client key retry hNone =>
      subst hNone
      exact known_register client key retry hRegister
  | reader i =>
    cases known with
    | working accounts => exact .working (accounts.readerStep i _)
  | @hear h _ c _ _ _ hHear =>
    cases known with
    | working accounts =>
      simp only [Option.toList_none, List.append_nil]
      unfold Consumer.hear? at hHear
      split at hHear
      · cases hHear
      · cases hHear
        exact .working (accounts.meet _)
  | @print h c _ _ _ hPrint =>
    cases known with
    | working accounts =>
      simp only [Option.toList_none, List.append_nil]
      unfold Consumer.printNext? at hPrint
      split at hPrint
      · cases hPrint
      · next hChannel =>
        cases hPrint
        exact .working (accounts.print hChannel)
  | satisfied =>
    cases known with
    | working accounts => simpa using .working accounts.stop
  | interrupt =>
    cases known with
    | working accounts => simpa using .working accounts.interrupt
  | finish _ hQuiet =>
    cases known with
    | working accounts =>
      -- All readers have stopped, so every unit is back or belongs to a message that was printed.
      obtain ⟨entries, settled⟩ := accounts.finish hQuiet _
      have hBalance := accounts.balance
      simpa using .done (by omega) settled
  | elsewhere => simpa using known

/-- No more is taken than the budget allows. -/
theorem Known.length_le {p : Process} (known : Known max taken p) :
    taken.length ≤ (Consumer.initialBudget max).toNat := by
  cases known with
  | waiting hNone => simp [hNone]
  | refused why hNone => simp [hNone]
  | new client key retry hNone => simp [hNone]
  | working accounts =>
    have hBalance := accounts.balance
    omega
  | done hLength settled => exact hLength

/-- In every run, what was taken and printed is accounted for. -/
theorem known_of_run {configFile service name : String} {h : Host} :
    Run Step (opening configFile service max name h) trace S →
      Known max trace.reduceOption S.process := by
  intro run
  induction run with
  | nil => exact known_opening ..
  | snoc _ step ih =>
    rw [List.reduceOption_append, List.reduceOption_singleton]
    exact known_step step ih

/-- The budget is never above the number that was asked for. -/
theorem toNat_initialBudget_le {n : Nat} : (Consumer.initialBudget (some n)).toNat ≤ n := by
  rw [Consumer.initialBudget, UInt64.toNat_ofNat']
  exact Nat.mod_le _ _

/-- However the steps of the readers and of the main loop interleave, and whatever else happens on
the host: no more messages are taken than allowed; the counter, the units in the hands of readers
and the messages that were taken add up to the budget, and no reader makes the counter wrap; when
the run has ended, each message that was taken is printed once, those of one ring in the order in
which they were taken from its head, and their number is reported. -/
theorem every_message_printed_once (configFile service : String) (max : Option Nat) (name : String)
    (h : Host) (trace : List (Option Received)) (S : Scene) :
    Run Step (opening configFile service max name h) trace S →
      (∀ n, max = some n → trace.reduceOption.length ≤ n) ∧
      (∀ c, S.process = .consumer c →
        c.budget.toNat + c.reserved + trace.reduceOption.length =
            (Consumer.initialBudget max).toNat ∧
          ∀ i s, Careful c i s) ∧
      ∀ exit, S.process = .ended exit →
        (∃ why, exit = .failure "" why ∧ trace.reduceOption = []) ∨
          ∃ entries, Settled trace.reduceOption entries exit := by
  intro run
  have known := known_of_run run
  refine ⟨?_, ?_, ?_⟩
  · rintro n rfl
    exact known.length_le.trans toNat_initialBudget_le
  · intro c hProcess
    rw [hProcess] at known
    cases known with
    | working accounts => exact ⟨accounts.balance, accounts.careful⟩
  · intro exit hProcess
    rw [hProcess] at known
    cases known with
    | refused why hNone => exact .inl ⟨why, rfl, hNone⟩
    | done _ settled => exact .inr ⟨_, settled⟩

/-! ### Two rings, and a budget of two messages -/

/-- The readers take a step each, in this order. -/
def Scene.readers (indices : List Nat) : Scene → Scene
  | ⟨h, .consumer c⟩ => .of h (indices.foldl (fun w i => w.1.readerStep i w.2) (c, h.shared))
  | S => S

theorem leads_readers (indices : List Nat) (S : Scene) : Leads S (S.readers indices) := by
  rcases S with ⟨h, p⟩
  cases p with
  | consumer c => exact (leads_foldl (fun _ _ => .inr rfl) indices h (c, h.shared)).1
  | _ => exact ⟨[], .nil⟩

open Listing.Sample

namespace Sample

/-- A second ring, next to the small one. -/
def other : Ring :=
  Ring.founder ⟨"/q", by constructor <;> decide⟩ Ring.Sample.geometry Ring.Sample.world

/-- A host with two rings, of which the first holds a message, and a socket where the daemon should
be. -/
def host : Host :=
  let both := Ring.founded other.name Ring.Sample.geometry Ring.Sample.world
  let shared := (Ring.Sample.ring.write "Hi".toByteArray .none both).1
  ({ Host.fresh ["tmp"] with shared } : Host).installed ["tmp", "ipc_daemon.sock"]

def start : Scene :=
  opening "shmbus.yaml" "k" (some 2) "1" host

/-- Word of a participant who offers a ring. -/
def word (p : Participant) (ring : RingName) : ByteArray :=
  (⟨.peer, meeting, ⟨p.endpoint, some ring⟩⟩ : Message).encode

/-- There is word of both rings. -/
def informed : Scene :=
  ⟨(start.host.arrived 1 (word ann Ring.Sample.name)).arrived 1 (word bob other.name),
    start.process⟩

/-- The consumer has gone on until it has to wait. -/
def supplied : Scene :=
  informed.onward 10

/-- The second reader has reserved the last unit and found its ring empty; the first one has looked
for a unit meanwhile. -/
def starved : Scene :=
  supplied.readers [1, 1, 0, 0, 1]

/-- The second reader has given the unit back, and the first one has tried once more in vain. -/
def rested : Scene :=
  starved.readers [1, 0, 0, 0, 0]

/-- Somebody has written into the second ring, and the consumer goes on. -/
def finish : Scene :=
  Scene.onward 10
    ⟨{ rested.host with shared := (other.write "Yo".toByteArray .none rested.host.shared).1 },
      rested.process⟩

def exit : Exit :=
  .success ("▶ Waiting for producers of k\nPress Ctrl+C to stop...\n" ++
    "  ● Producer found: /a (/r)\n  ● Producer found: /b (/q)\n" ++
    "  [/r] Hi\n  [/q] Yo\n✓ Received 2 messages\n")

set_option maxRecDepth 10000 in
theorem process_finish : finish.process = .ended exit :=
  Process.exit?_eq_some_iff.mp (by decide +kernel)

/-- How many units a consumer has left, and how many its readers hold. -/
def units? : Process → Option (Nat × Nat)
  | .consumer c => some (c.budget.toNat, c.reserved)
  | _ => none

set_option maxRecDepth 10000 in
theorem units_starved : units? starved.process = some (0, 1) := by
  decide +kernel

theorem leads_starved : Leads start starved := by
  obtain ⟨_, run⟩ := leads_onward 10 informed
  obtain ⟨_, run'⟩ := leads_readers [1, 1, 0, 0, 1] supplied
  exact .step (.elsewhere _) ⟨_, run.trans run'⟩

theorem leads_finish : Leads starved finish := by
  obtain ⟨_, run⟩ := leads_readers [1, 0, 0, 0, 0] starved
  obtain ⟨_, run'⟩ := Leads.step (.elsewhere _) (leads_onward 10 _)
  exact ⟨_, run.trans run'⟩

end Sample

/-- One reader holds the last unit over an empty ring while the other one looks for a unit. It gives
it back, and takes its message with it later. -/
theorem every_message_printed_once_two_rings :
    ∃ early late entries, Run Step Sample.start early Sample.starved ∧
      Run Step Sample.starved late Sample.finish ∧ early.reduceOption.length = 1 ∧
        (early ++ late).reduceOption.length ≤ 2 ∧
          Settled (early ++ late).reduceOption entries Sample.exit := by
  obtain ⟨early, run⟩ := Sample.leads_starved
  obtain ⟨late, run'⟩ := Sample.leads_finish
  -- One unit is in hand and none is left, so one of the two messages was taken.
  have hEarly : early.reduceOption.length = 1 := by
    obtain ⟨-, hBalance, -⟩ := every_message_printed_once _ _ _ _ _ early _ run
    have hUnits := Sample.units_starved
    cases hProcess : Sample.starved.process with
    | consumer c =>
      rw [hProcess] at hUnits
      obtain ⟨hBudget, hReserved⟩ := Prod.mk.inj (Option.some.inj hUnits)
      have hTotal : c.budget.toNat + c.reserved + early.reduceOption.length = 2 :=
        (hBalance c hProcess).1
      omega
    | _ =>
      rw [hProcess] at hUnits
      cases hUnits
  obtain ⟨hFew, -, hEnd⟩ := every_message_printed_once _ _ _ _ _ (early ++ late) _ (run.trans run')
  rcases hEnd _ Sample.process_finish with ⟨why, hFailure, -⟩ | ⟨entries, settled⟩
  · exact absurd (congrArg Exit.code hFailure) Nat.zero_ne_one
  · exact ⟨early, late, entries, run, run', hEarly, hFew 2 rfl, settled⟩

end Consuming
end Program
end RingBus
