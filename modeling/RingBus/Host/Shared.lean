import RingBus.Host.Catalog
import RingBus.Host.Memory

/-!
# Shared memory

Segments and semaphores are files of one directory, and a file is a row of bytes. A segment is
filed under its name, and a semaphore under its name with `sem.` in front. Hence the segment
`/sem.w` and the semaphore `/w` are the same file, whoever made it.
-/

namespace RingBus

/-- The files that processes share. -/
abbrev Shared := Catalog Memory

namespace Shared

/-- The word that is left of a name: slashes in front do not count. -/
def word (name : String) : String :=
  String.ofList (name.toList.dropWhile (· == '/'))

/-- The two directories that are there before any file. Their names are taken for good, and neither
can be opened as a file. -/
def isDirectory (file : String) : Bool :=
  file == "." || file == ".."

def isTaken (file : String) (s : Shared) : Bool :=
  isDirectory file || (s.named file).isSome

end Shared
end RingBus
