/-!
# Paths

A path names a file by the words between its slashes. Repeated slashes, inner dots and a slash at
the end do not count, so several spellings name the same file; `..` is a word like any other until
a file system resolves it. `Path.key` is what all spellings of one path share.
-/

namespace RingBus
namespace Path

/-- Splits at every slash; the pieces may be empty. -/
def pieces : List Char → List (List Char)
  | [] => [[]]
  | c :: rest =>
    match pieces rest with
    | [] => [[]]
    | piece :: more => if c = '/' then [] :: piece :: more else (c :: piece) :: more

/-- A path starts at the root if its first character is a slash. -/
def isAbsolute (path : String) : Bool :=
  path.toList.head? == some '/'

/-- What two spellings of the same path have in common: whether it starts at the root, and the
words that count. -/
structure Key where
  rooted : Bool
  words : List String
  deriving DecidableEq, Repr

/-- The words of a path that count. A dot counts only as the first word of a relative path. -/
def key (path : String) : Key :=
  let all := (pieces path.toList).map String.ofList
  let counted := fun w => w != "" && w != "."
  if isAbsolute path then
    ⟨true, all.filter counted⟩
  else
    match all with
    | first :: rest => ⟨false, (if first = "" then [] else [first]) ++ rest.filter counted⟩
    | [] => ⟨false, []⟩

/-- Two paths are the same if they agree word by word. -/
def same (a b : String) : Bool :=
  key a == key b

/-- The path of `name` in the directory `dir`; an absolute name stands for itself. -/
def join (dir name : String) : String :=
  if isAbsolute name then name
  else if dir = "" ∨ dir.toList.getLast? = some '/' then dir ++ name
  else dir ++ "/" ++ name

end Path
end RingBus
