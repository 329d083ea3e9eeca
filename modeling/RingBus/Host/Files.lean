import RingBus.Host.Errno
import RingBus.Path

/-!
# Files

A tree of directories, plain files and sockets, and the rules by which a path finds its place in
it: dots and repeated slashes do not count, two dots lead to the parent, and every step but the
last has to be a directory.
-/

namespace RingBus

/-- What a place in the tree holds. -/
inductive Entry
  | directory
  | file (content : ByteArray)
  | socket (id : Nat)

/-- The file tree. A place is named by the words from the root. -/
structure Files where
  entry : List String → Option Entry
  workingDirectory : List String

/-- Where a path leads. -/
structure Location where
  place : List String
  /-- The path ends in a plain word, not in dots or at the root. -/
  plain : Bool
  /-- The path ends in a slash. -/
  slashed : Bool

namespace Files

/-- The longest word of a path in bytes. -/
def maxWord : Nat := 255

/-- The longest path in bytes. -/
def maxPath : Nat := 4095

/-- A tree with nothing but a working directory and the directories above it. -/
def withDirectory (workingDirectory : List String) : Files :=
  { entry := fun place => if place.isPrefixOf workingDirectory then some .directory else none
    workingDirectory }

def put (f : Files) (place : List String) (e : Entry) : Files :=
  { f with entry := fun p => if p = place then some e else f.entry p }

def erase (f : Files) (place : List String) : Files :=
  { f with entry := fun p => if p = place then none else f.entry p }

/-! ## Finding the place of a path -/

def isDirectory (f : Files) (place : List String) : Bool :=
  match f.entry place with
  | some .directory => true
  | _ => false

/-- Follows the words of a path from a directory. -/
def follow (f : Files) (slashed : Bool) : List String → List String → Except Errno Location
  | place, [] => .ok ⟨place, false, slashed⟩
  | place, word :: rest =>
    if word = "." then follow f slashed place rest
    else if word = ".." then follow f slashed place.dropLast rest
    else if maxWord < word.utf8ByteSize then .error .nameTooLong
    else
      let inner := place ++ [word]
      if rest.isEmpty then .ok ⟨inner, true, slashed⟩
      else
        match f.entry inner with
        | none => .error .noEntry
        | some .directory => follow f slashed inner rest
        | some _ => .error .notDirectory

/-- Finds the place of a path. -/
def locate (f : Files) (path : String) : Except Errno Location :=
  if path = "" then .error .noEntry
  else if maxPath < path.utf8ByteSize then .error .nameTooLong
  else
    let words := ((Path.pieces path.toList).map String.ofList).filter (· != "")
    let start := if Path.isAbsolute path then [] else f.workingDirectory
    f.follow (path.toList.getLast? == some '/') start words

/-- Finds what is there. A path that ends in a slash finds directories only. -/
def find (f : Files) (path : String) : Except Errno (List String × Entry) := do
  let at_ ← f.locate path
  match f.entry at_.place with
  | none => .error .noEntry
  | some .directory => .ok (at_.place, .directory)
  | some e => if at_.slashed then .error .notDirectory else .ok (at_.place, e)

def pathExists (f : Files) (path : String) : Bool :=
  match f.find path with
  | .ok _ => true
  | .error _ => false

/-! ## Changing the tree -/

/-- The place for a new entry, which nothing may be at yet. -/
def vacant (f : Files) (path : String) : Except Errno Location := do
  let at_ ← f.locate path
  if !at_.plain || (f.entry at_.place).isSome then .error .exists else .ok at_

def makeDirectory (f : Files) (path : String) : Except Errno Files := do
  let at_ ← f.vacant path
  .ok (f.put at_.place .directory)

/-- Writes a plain file, new or in place of its old content. -/
def write (f : Files) (path : String) (content : ByteArray) : Except Errno Files := do
  let at_ ← f.locate path
  if !at_.plain || at_.slashed then .error .isDirectory
  else
    match f.entry at_.place with
    | some .directory => .error .isDirectory
    | some (.socket _) => .error .noDevice
    | _ => .ok (f.put at_.place (.file content))

def read (f : Files) (path : String) : Except Errno ByteArray := do
  match (← f.find path).2 with
  | .directory => .error .isDirectory
  | .file content => .ok content
  | .socket _ => .error .noDevice

/-- Removes a file or a socket; a directory stays, and so does what a path does not name
plainly. -/
def remove (f : Files) (path : String) : Files :=
  match f.locate path with
  | .ok at_ =>
    if at_.plain && !at_.slashed && !f.isDirectory at_.place then f.erase at_.place else f
  | .error _ => f

end Files
end RingBus
