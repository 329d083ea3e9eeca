import RingBus.Text.Record

/-!
# Refusals of the kernel

The reasons for which the kernel turns a request down, with the three ways in which they are
worded: by symbol, by number, and spelled out.
-/

namespace RingBus

/-- Why the kernel refused a request. -/
inductive Errno
  | noEntry
  | noDevice
  | tryAgain
  | exists
  | notDirectory
  | isDirectory
  | invalid
  | nameTooLong
  | overflow
  | addressInUse
  | refused
  deriving DecidableEq, Repr

namespace Errno

def code : Errno → Nat
  | .noEntry => 2
  | .noDevice => 6
  | .tryAgain => 11
  | .exists => 17
  | .notDirectory => 20
  | .isDirectory => 21
  | .invalid => 22
  | .nameTooLong => 36
  | .overflow => 75
  | .addressInUse => 98
  | .refused => 111

def symbol : Errno → String
  | .noEntry => "ENOENT"
  | .noDevice => "ENXIO"
  | .tryAgain => "EAGAIN"
  | .exists => "EEXIST"
  | .notDirectory => "ENOTDIR"
  | .isDirectory => "EISDIR"
  | .invalid => "EINVAL"
  | .nameTooLong => "ENAMETOOLONG"
  | .overflow => "EOVERFLOW"
  | .addressInUse => "EADDRINUSE"
  | .refused => "ECONNREFUSED"

def description : Errno → String
  | .noEntry => "No such file or directory"
  | .noDevice => "No such device or address"
  | .tryAgain => "Resource temporarily unavailable"
  | .exists => "File exists"
  | .notDirectory => "Not a directory"
  | .isDirectory => "Is a directory"
  | .invalid => "Invalid argument"
  | .nameTooLong => "File name too long"
  | .overflow => "Value too large for defined data type"
  | .addressInUse => "Address already in use"
  | .refused => "Connection refused"

/-- The family that a refusal belongs to. -/
def family : Errno → String
  | .noEntry => "NotFound"
  | .noDevice => "Uncategorized"
  | .tryAgain => "WouldBlock"
  | .exists => "AlreadyExists"
  | .notDirectory => "NotADirectory"
  | .isDirectory => "IsADirectory"
  | .invalid => "InvalidInput"
  | .nameTooLong => "InvalidFilename"
  | .overflow => "Uncategorized"
  | .addressInUse => "AddrInUse"
  | .refused => "ConnectionRefused"

/-- Symbol and words. -/
def withSymbol (e : Errno) : String :=
  s!"{e.symbol}: {e.description}"

/-- Words and number. -/
def withNumber (e : Errno) : String :=
  s!"{e.description} (os error {e.code})"

end Errno

/-- Why a request on a file or a socket failed. -/
inductive RequestError
  /-- The kernel refused it. -/
  | kernel (e : Errno)
  /-- It never got to the kernel, for a reason that is always the same. -/
  | unusable (family text : String)
  /-- It never got to the kernel, because of this very value. -/
  | custom (family text : String)
  deriving DecidableEq, Repr

namespace RequestError

def message : RequestError → String
  | .kernel e => e.withNumber
  | .unusable _ text => text
  | .custom _ text => text

def spelledOut : RequestError → String
  | .kernel e =>
    Text.record "Os"
      [("code", toString e.code), ("kind", e.family), ("message", Text.quoted e.description)]
  | .unusable family text =>
    Text.record "Error" [("kind", family), ("message", Text.quoted text)]
  | .custom family text =>
    Text.record "Custom" [("kind", family), ("error", Text.quoted text)]

end RequestError
end RingBus
