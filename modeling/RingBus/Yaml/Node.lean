import RingBus.Yaml.Fault
import RingBus.Yaml.Token

/-!
# Nodes

The tree that a document stands for. A document that ends in a fault has a tree as well: it is cut
where the fault is, and everything in front of the cut is there.
-/

namespace RingBus
namespace Yaml

/-- Where a node begins, and the number that its anchor gives it, if it has one. -/
structure Head where
  place : Place
  anchor : Option Nat
  deriving DecidableEq, Repr

inductive Node
  /-- A scalar, with its tag if it has one. -/
  | scalar (head : Head) (tag : Option String) (text : String) (style : Style)
  | sequence (head : Head) (items : List Node)
  /-- The keys and values, in order. A mapping that is cut has a cut key in the end. -/
  | mapping (head : Head) (entries : List (Node × Node))
  /-- Stands for the node of that number. -/
  | alias (anchor : Nat)
  /-- The document is at fault here. -/
  | cut (fault : Fault)

namespace Node

/-- The scalar that stands at a place where nothing is written. -/
def absent (place : Place) : Node :=
  .scalar ⟨place, none⟩ none "" .plain

mutual

/-- The last node of a tree that has the number `n`. -/
def find? (n : Nat) : Node → Option Node
  | .scalar head tag text style =>
    if head.anchor = some n then some (.scalar head tag text style) else none
  | .sequence head items =>
    (findItem? n items).or (if head.anchor = some n then some (.sequence head items) else none)
  | .mapping head entries =>
    (findAmong? n entries).or (if head.anchor = some n then some (.mapping head entries) else none)
  | .alias _ => none
  | .cut _ => none

/-- The last node among the items of a sequence that has the number `n`. -/
def findItem? (n : Nat) : List Node → Option Node
  | [] => none
  | item :: items => (findItem? n items).or (item.find? n)

/-- The last node among the entries of a mapping that has the number `n`. -/
def findAmong? (n : Nat) : List (Node × Node) → Option Node
  | [] => none
  | (key, value) :: entries => (findAmong? n entries).or ((value.find? n).or (key.find? n))

end

end Node
end Yaml
end RingBus
