/-!
# Labels

Every process has a number, and it occurs in the names that the process makes. A script does not
know it, so wherever a number occurs in an answer a label is shown in its place: the identifier
under which the script has started the process.
-/

namespace RingBus

/-- The number of every process, and the label that is shown in place of it. -/
structure Labels where
  pairs : List (String × String)

namespace Labels

/-- The first number. Scripts hardly ever use it or those behind it in names of their own. -/
def firstNumber : Nat :=
  48611

/-- The number of the script's own process, which is the first. -/
def own : String :=
  toString firstNumber

/-- The labels before a process was started. -/
def initial : Labels :=
  ⟨[(own, "PID")]⟩

def next (l : Labels) : String :=
  toString (firstNumber + l.pairs.length)

/-- The labels when the next process has this one. -/
def add (l : Labels) (label : String) : Labels :=
  ⟨(l.next, label) :: l.pairs⟩

/-! ## Showing -/

/-- Puts a label in place of the number that a text begins with, if it is that of a process. -/
def showFirst (l : Labels) (text : List Char) : List Char :=
  let digits := text.takeWhile Char.isDigit
  match l.pairs.lookup (String.ofList digits) with
  | some label => label.toList ++ text.drop digits.length
  | none => text

/-- Puts labels in place of numbers that follow an underscore, as they do in all names. -/
def showAll (l : Labels) (text : List Char) : List Char :=
  text.foldr (fun c rest => if c = '_' then c :: l.showFirst rest else c :: rest) []

/-- What stands in front of the length of a path. -/
def lengthMark : List Char :=
  "Endpoint path too long: ".toList

def hideLength : List Char → List Char
  | [] => []
  | c :: rest =>
    if lengthMark.isPrefixOf (c :: rest) then
      let length := (c :: rest).drop lengthMark.length
      lengthMark ++ 'N' :: length.dropWhile Char.isDigit
    else c :: hideLength rest

/-- A text as it is shown in an answer. The length of a path hangs on the numbers in it, so it is
hidden if there are any. -/
def shown (l : Labels) (text : String) : String :=
  let labelled := l.showAll text.toList
  if labelled = text.toList then text else String.ofList (hideLength labelled)

end Labels
end RingBus
