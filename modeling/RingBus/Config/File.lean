import RingBus.Config.Basic
import RingBus.Host.Files

/-!
# Configuration files

Where a configuration comes from. A file that is named must be there; only the file that nobody
named may be missing.
-/

namespace RingBus
namespace Config

def defaultFile : String :=
  "shmbus.yaml"

def load (files : Files) (path : String) : Except LoadError Config :=
  if files.pathExists path then
    match files.read path with
    | .error e => .error (.unreadable (.kernel e))
    | .ok content =>
      match Text.ofBytes? content with
      | some text => ofText text
      | none =>
        .error (.unreadable (.unusable "InvalidData" "stream did not contain valid UTF-8"))
  else .error (.notFound path)

/-- Loads the configuration from a file, or takes the defaults if it is the default file and
missing. -/
def loadOrDefault (files : Files) (path : String) : Except LoadError Config :=
  if !files.pathExists path && Path.same path defaultFile then
    (ofSettings {}).mapError .unusable
  else load files path

end Config
end RingBus
