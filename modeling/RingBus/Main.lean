import RingBus.Program.Alone

/-!
# The command line

Runs one command, prints what it writes, and passes its exit code on. All that happens in between
is in `RingBus.Program`.
-/

namespace RingBus

/-- The content of the file that a command line makes the program read, if it can be read. -/
def contentFor (args : List String) : IO (Option ByteArray) :=
  match (Program.Request.ofArguments args).file? with
  | none => return none
  | some path => try return some (← IO.FS.readBinFile path) catch _ => return none

end RingBus

def main (args : List String) : IO UInt32 := do
  let run := RingBus.Program.alone args (← RingBus.contentFor args)
  IO.print run.output
  match run.exit? with
  | none => return 0
  | some exit =>
    IO.eprint exit.errors
    return UInt32.ofNat exit.code
