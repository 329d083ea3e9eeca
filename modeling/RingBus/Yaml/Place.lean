/-!
# Places

Where in a text something begins, in lines and characters.
-/

namespace RingBus
namespace Yaml

structure Place where
  /-- The lines in front of it. -/
  line : Nat
  /-- The characters in front of it on its line. -/
  column : Nat
  deriving DecidableEq, Repr

namespace Place

def start : Place :=
  ⟨0, 0⟩

/-- The place behind a single character. -/
def next (p : Place) : Place :=
  { p with column := p.column + 1 }

/-- Tells the place, counted from one, behind what is said of it. The start of a text is not
told. -/
def clause (p : Place) : String :=
  if p = start then "" else s!" at line {p.line + 1} column {p.column + 1}"

end Place
end Yaml
end RingBus
