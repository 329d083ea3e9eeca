import RingBus.Scenario.Discovery
import RingBus.Scenario.Files
import RingBus.Scenario.Processes
import RingBus.Scenario.Rings
import RingBus.Scenario.Segments
import RingBus.Scenario.Semaphores
import RingBus.Scenario.Sockets

/-!
# Scripts

A script is a list of steps. After each of them everything that goes on by itself goes on until it
has to wait, so the outcome depends on nothing but the script. No time passes between two steps.
-/

namespace RingBus

inductive Step
  | files (step : FileStep)
  | segments (step : SegmentStep)
  | semaphores (step : SemaphoreStep)
  | rings (step : RingStep)
  | discovery (step : DiscoveryStep)
  | sockets (step : SocketStep)
  | processes (step : ProcessStep)
  /-- Drops whatever object is under an identifier. -/
  | drop (id : String)

namespace World

def act (w : World) : Step → World × Answer
  | .files step => w.fileStep step
  | .segments step => w.segmentStep step
  | .semaphores step => w.semaphoreStep step
  | .rings step => w.ringStep step
  | .discovery step => w.discoveryStep step
  | .sockets step => w.socketStep step
  | .processes step => w.processStep step
  | .drop id => (w.drop id, .flag (w.object? id).isSome)

/-- Takes a step and lets everything settle. -/
def step (w : World) (s : Step) : World × Answer :=
  let (w, answer) := w.act s
  (w.settleAll, answer)

end World
end RingBus
