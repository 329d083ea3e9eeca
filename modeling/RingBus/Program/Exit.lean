import RingBus.Config.Basic
import RingBus.Discovery.Error
import RingBus.Ring.Error

/-!
# The end of a run

A run of the program ends with an exit code, and leaves what it wrote to its two outputs.
-/

namespace RingBus
namespace Program

/-- How a run of the program ended. -/
structure Exit where
  code : Nat
  output : String
  errors : String
  deriving DecidableEq, Repr

def line (text : String) : String :=
  text ++ "\n"

def lines (texts : List String) : String :=
  String.join (texts.map line)

inductive Failure
  | config (e : Config.LoadError)
  | field (e : FieldError)
  | ring (e : RingError)
  | discovery (e : DiscoveryError)

namespace Failure

/-- The line that tells of a failure. A document at fault is only said to be so. -/
def report : Failure → String
  | .config (.malformed (.broken _)) => "  Configuration parse error"
  | .config e => "Error: " ++ e.spelledOut
  | .field e => "Error: " ++ e.spelledOut
  | .ring e => "Error: " ++ e.spelledOut
  | .discovery e => "Error: " ++ e.spelledOut

end Failure

namespace Exit

def success (output : String) : Exit :=
  ⟨0, output, ""⟩

def failure (output : String) (why : Failure) : Exit :=
  ⟨1, output, line why.report⟩

/-- The command line could not be read. -/
def misuse : Exit :=
  ⟨2, "", ""⟩

end Exit
end Program
end RingBus
