import RingBus.Config.Field
import RingBus.Endpoint
import RingBus.Host.Errno
import RingBus.RetryPolicy
import RingBus.Ring.Geometry

/-!
# Configuration

What a configuration document may say, and what it means. A document sets the fields of three
sections; each field that it leaves out has a default. The settings are then checked as a whole.
-/

namespace RingBus

/-! ## Settings -/

/-- What a document says, before it is checked. -/
structure Settings where
  socketPath : String := "/tmp/ipc_daemon.sock"
  evictUnreachable : Bool := false
  socketDir : String := "/tmp"
  slotCount : UInt32 := 8
  slotSize : UInt32 := 256
  openAttempts : UInt32 := 20
  openBackoffMillis : UInt64 := 100
  deriving DecidableEq, Repr

namespace Settings

open Config

/-- Where the daemon listens, and whether it forgets whom it cannot reach. -/
def daemonFields : List (RecordField Settings) :=
  [.make "socket_path" (readText "a string") fun v s => { s with socketPath := v },
   .make "evict_unreachable" readBoolean fun v s => { s with evictUnreachable := v }]

/-- Where clients put their sockets. -/
def clientFields : List (RecordField Settings) :=
  [.make "socket_dir" (readText "a string") fun v s => { s with socketDir := v }]

/-- The shape of rings, and how patiently they are opened. -/
def ringFields : List (RecordField Settings) :=
  [.make "slot_count" (readNumber 32) fun v s => { s with slotCount := UInt32.ofNat v },
   .make "slot_size" (readNumber 32) fun v s => { s with slotSize := UInt32.ofNat v },
   .make "open_attempts" (readNumber 32) fun v s => { s with openAttempts := UInt32.ofNat v },
   .make "open_backoff_ms" (readNumber 64) fun v s =>
     { s with openBackoffMillis := UInt64.ofNat v }]

/-- The sections of a document, in the tree `root`. -/
def sections (root : Yaml.Node) : List (RecordField Settings) :=
  [⟨"daemon", readRecord root daemonFields "struct RawDaemonConfig"⟩,
   ⟨"client", readRecord root clientFields "struct RawClientConfig"⟩,
   ⟨"ring", readRecord root ringFields "struct RawRingConfig"⟩]

/-- The settings that the tree of a document makes. -/
def ofNode (root : Yaml.Node) : Except Fault Settings :=
  readRecord root (sections root) "struct RawConfig" (resolve root root) {}

/-- The settings that a document makes. There must not be a second document after it. -/
def ofDocument (document : Yaml.Document) : Except Fault Settings :=
  match ofNode document.root with
  | .error fault => .error fault
  | .ok settings =>
    match document.fault? with
    | none => .ok settings
    | some fault => .error (.broken fault)

end Settings

/-! ## Checked settings -/

/-- A configuration that can be worked with. -/
structure Config where
  socketPath : Endpoint
  evictUnreachable : Bool
  socketDir : String
  geometry : Ring.Geometry
  retry : RetryPolicy
  socketDir_absolute : Path.isAbsolute socketDir = true

namespace Config

def maxOpenAttempts : Nat :=
  4294967295

/-- The longest pause after the first attempt, in milliseconds. -/
def maxOpenBackoffMillis : Nat :=
  10000

/-- Checks the settings one by one, and tells the first that cannot be used. -/
def ofSettings (s : Settings) : Except FieldError Config := do
  let socketPath ← Endpoint.ofString s.socketPath
  if absolute : Path.isAbsolute s.socketDir = true then
    let geometry ← Ring.Geometry.check s.slotCount s.slotSize
    if s.openAttempts = 0 then
      throw (.outOfBounds "open_attempts" 0 1 maxOpenAttempts)
    else if 1 ≤ s.openBackoffMillis.toNat ∧ s.openBackoffMillis.toNat ≤ maxOpenBackoffMillis then
      let retry := .make s.openAttempts (.ofMillis s.openBackoffMillis.toNat)
      return ⟨socketPath, s.evictUnreachable, s.socketDir, geometry, retry, absolute⟩
    else
      throw (.outOfBounds "open_backoff_ms" s.openBackoffMillis.toNat 1 maxOpenBackoffMillis)
  else
    throw (.invalid "socket_dir" s.socketDir "Must be an absolute path")

/-- Why there is no configuration. -/
inductive LoadError
  | notFound (path : String)
  | unreadable (cause : RequestError)
  | malformed (fault : Fault)
  | unusable (e : FieldError)

namespace LoadError

/-- What stands in front of everything that is wrong with a document. -/
def documentMessage (problem : String) : String :=
  "YAML parse error: " ++ problem

/-- What stands in front of everything that a document makes fail. -/
def malformedMessage : String :=
  "Configuration parse error"

/-- The error as a sentence. It does not tell a place in the document, and nothing at all of what is
wrong with a document at fault. -/
def message : LoadError → String
  | .notFound path => s!"Configuration file not found: {path}"
  | .unreadable cause => s!"IO error: reading config file - {cause.message}"
  | .malformed fault =>
    malformedMessage ++
      ((fault.message?.map fun problem => ": " ++ documentMessage problem).getD "")
  | .unusable e => s!"Hard validation error: {e.message}"

/-- The error as a sentence that tells the place in the document. -/
def placedMessage : LoadError → String
  | .malformed fault => malformedMessage ++ ": " ++ documentMessage fault.placedMessage
  | e => e.message

def spelledOut : LoadError → String
  | .notFound path => Text.record "ConfigNotFound" [("path", Text.quotedPath path)]
  | .unreadable cause =>
    Text.record "Io"
      [("context", Text.quoted "reading config file"), ("source", cause.spelledOut)]
  | .malformed fault =>
    Text.record "ConfigParse"
      [("message", Text.quoted (documentMessage (fault.message?.getD "")))]
  | .unusable e => Text.wrapped "HardValidation" e.spelledOut

end LoadError

/-- The configuration that a document makes. -/
def ofDocument (doc : Yaml.Document) : Except LoadError Config :=
  match Settings.ofDocument doc with
  | .error fault => .error (.malformed fault)
  | .ok settings => (ofSettings settings).mapError .unusable

/-- The document that a text stands for. A text of blanks has nothing at its root. -/
def handed (text : String) : Yaml.Document :=
  if Text.isBlankText text then ⟨.absent .start, none⟩ else .ofText text

def ofText (text : String) : Except LoadError Config :=
  ofDocument (handed text)

end Config
end RingBus
