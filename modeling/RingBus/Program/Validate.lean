import RingBus.Config.File
import RingBus.Program.Exit

/-!
# Checking a configuration file
-/

namespace RingBus
namespace Program

/-- A configuration, field by field. -/
def describe (c : Config) : String :=
  lines
    ["✓ Configuration is valid",
     "",
     "Daemon Settings:",
     s!"  Socket Path:        {c.socketPath.text}",
     s!"  Evict Unreachable:  {c.evictUnreachable}",
     "",
     "Client Settings:",
     s!"  Socket Directory:   {c.socketDir}",
     "",
     "Ring Settings:",
     s!"  Slot Count:         {c.geometry.slotCount}",
     s!"  Slot Size:          {c.geometry.slotSize} bytes",
     s!"  Segment Size:       {c.geometry.segmentSize} bytes",
     s!"  Open Attempts:      {c.retry.attempts}"]

/-- Loads a configuration file and tells what it says, or what is wrong with it. -/
def validate (file : String) (files : Files) : Exit :=
  match Config.load files file with
  | .ok c => .success (describe c)
  | .error e => ⟨1, "", lines ["✗ Configuration validation failed:", s!"  {e.message}"]⟩

end Program
end RingBus
