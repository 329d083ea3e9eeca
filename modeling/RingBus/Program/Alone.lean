import RingBus.Program.Process

/-!
# A run that is alone

A run of the program on a host of its own: there is nothing on it but the working directory, a
directory for sockets, and the file that the command names. Nobody else lives there, so a job that
waits for others leaves off where it has to wait.
-/

namespace RingBus

/-- The tree with a file at a path, in directories made for it. -/
def Files.provide (f : Files) (path : String) (content : ByteArray) : Files :=
  let words := (Path.key path).words.filter (· != ".")
  let place := if Path.isAbsolute path then words else f.workingDirectory ++ words
  let made := (List.range place.length).foldl (fun f n => f.put (place.take n) .directory) f
  made.put place (.file content)

namespace Program

/-- The file that a request reads. -/
def Request.file? : Request → Option String
  | .run ⟨_, .validate file⟩ => some file
  | .run ⟨_, .inspect _⟩ => none
  | .run ⟨config, _⟩ => some config
  | _ => none

/-- Lets a process go on until it has to wait for others, for at most so many steps and rests. -/
def Process.proceed : Nat → Process → Host → Process
  | 0, p, _ => p
  | n + 1, p, h =>
    match p.advance? h, p.rest? with
    | some (p, h), _ => proceed n p h
    | none, some millis => proceed n (p.elapse millis) h
    | none, none => p

/-- A run of the program that is alone, with the content of the file that it reads. A producer
makes one step and rests once for each message, and every process begins with one step more and ends
with two. -/
def alone (args : List String) (content : Option ByteArray) : Process :=
  let bare := Host.fresh ["work"]
  let files := bare.files.put ["tmp"] .directory
  let files :=
    match (Request.ofArguments args).file?, content with
    | some path, some content => files.provide path content
    | _, _ => files
  let (h, p) := Process.launch args "1" { bare with files }
  p.proceed (2 * p.pending + 4) h

end Program
end RingBus
