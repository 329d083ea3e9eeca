import RingBus.Scenario.Answer

/-!
# Steps on processes

A process that was started stays under its identifier when it has ended: what it has written and
how it ended can be asked for as often as wanted. Who puts something else in its place, or drops
it, kills it.
-/

namespace RingBus

inductive ProcessStep
  /-- Runs the program to its end. -/
  | run (id : String) (args : List String)
  | start (id : String) (args : List String)
  /-- Waits for a text in the output. -/
  | expect (id text : String)
  /-- Interrupts the program and waits for its end. -/
  | stop (id : String)
  | wait (id : String)

namespace World

def occursIn (part : List Char) : List Char → Bool
  | [] => part.isEmpty
  | c :: rest => part.isPrefixOf (c :: rest) || occursIn part rest

/-- Starts the program in the foreground, in a process that is shown by this label. -/
def launch (w : World) (label : String) (args : List String) : World :=
  let (host, p) := Program.Process.launch args w.labels.next w.host
  { w with host, foreground := some p, labels := w.labels.add label }.settleProcesses

/-- Leaves the process in the foreground to itself, under an identifier. -/
def release (w : World) (id : String) : World :=
  match w.foreground with
  | none => w
  | some p => { w with foreground := none }.put id (.process p)

def answerEnd (p : Option Program.Process) : Answer :=
  ((p.bind Program.Process.exit?).map .exit).getD .blocked

/-- Waits for the end of the process in the foreground. -/
def finishForeground (w : World) : World × Answer :=
  let w := w.waitUntil fun w => w.foreground.any fun p => p.exit?.isSome
  ({ w with foreground := none }, answerEnd w.foreground)

def process? (w : World) (id : String) : Option Program.Process :=
  match w.object? id with
  | some (.process p) => some p
  | _ => none

def withProcess (w : World) (id : String) (look : Program.Process → World × Answer) :
    World × Answer :=
  match w.process? id with
  | some p => look p
  | none => (w, .refused .noObject)

/-- Waits for the end of the process under an identifier. What ended stays there. -/
def waitForEnd (w : World) (id : String) : World × Answer :=
  let w := w.waitUntil fun w => (w.process? id).any fun p => p.exit?.isSome
  (w, answerEnd (w.process? id))

/-- Whether the process under an identifier has written a text. -/
def hasWritten (id text : String) (w : World) : Bool :=
  (w.process? id).any fun p => occursIn text.toList p.output.toList

def processStep (w : World) : ProcessStep → World × Answer
  | .run id args => (w.launch id args).finishForeground
  | .start id args => ((w.launch id args).release id, .started)
  | .expect id text =>
    w.withProcess id fun _ =>
      let w := w.waitUntil (hasWritten id text)
      (w, .flag (hasWritten id text w))
  | .stop id =>
    w.withProcess id fun p =>
      let (h, p) := p.interrupt w.host
      ((w.withHost h).set id (.process p)).waitForEnd id
  | .wait id => w.withProcess id fun _ => w.waitForEnd id

end World
end RingBus
