import RingBus.Yaml.Place

/-!
# Tokens

The pieces of a document: its markers, brackets and indicators, the properties of nodes, and the
scalars. Where block collections begin and end is told by indentation, and appears as tokens too.
-/

namespace RingBus
namespace Yaml

inductive Style
  | plain
  | quoted
  | literal
  | folded
  deriving DecidableEq, Repr

/-- A piece of a document. -/
inductive Token
  | streamStart
  | streamEnd
  | versionDirective (major minor : Nat)
  | tagDirective (handle expansion : String)
  | documentStart
  | documentEnd
  | blockSequenceStart
  | blockMappingStart
  | blockEnd
  | flowSequenceStart
  | flowSequenceEnd
  | flowMappingStart
  | flowMappingEnd
  | blockEntry
  | flowEntry
  | key
  | value
  | alias (name : String)
  | anchor (name : String)
  | tag (handle suffix : String)
  | scalar (text : String) (style : Style)
  deriving DecidableEq, Repr

/-- A token, and where it begins. -/
structure Lexeme where
  token : Token
  place : Place
  deriving DecidableEq, Repr

end Yaml
end RingBus
