import RingBus.Scenario.Answer

/-!
# Steps on files
-/

namespace RingBus

/-- A step on the file tree, or on a configuration file. -/
inductive FileStep
  | makeDirectory (path : String)
  | write (path : String) (content : ByteArray)
  | pathExists (path : String)
  | load (path : String)
  | loadOrDefault (path : String)

namespace World

/-- A path that the kernel can be asked about. -/
def checkPath (path : String) : Except RequestError Unit :=
  if path.toList.contains (Char.ofNat 0) then
    .error (.unusable "InvalidInput" "file name contained an unexpected NUL byte")
  else .ok ()

def changeFiles (w : World) (path : String) (change : Files → Except Errno Files) :
    World × Answer :=
  match checkPath path with
  | .error e => (w, .refused (.request e))
  | .ok () =>
    match change w.host.files with
    | .error e => (w, .refused (.request (.kernel e)))
    | .ok files => (w.withHost { w.host with files }, .flag true)

def fileStep (w : World) : FileStep → World × Answer
  | .makeDirectory path => w.changeFiles path fun files => files.makeDirectory path
  | .write path content => w.changeFiles path fun files => files.write path content
  | .pathExists path => (w, .flag (w.host.files.pathExists path))
  | .load path => (w, .orRefuse .config .config (Config.load w.host.files path))
  | .loadOrDefault path => (w, .orRefuse .config .config (Config.loadOrDefault w.host.files path))

end World
end RingBus
