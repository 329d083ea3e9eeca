import RingBus.Yaml.Place

/-!
# Faults

What can be wrong with a document, and how it is told. A mistake is told together with the place
where it was noticed, with what was being read at that moment, and with where that begins.
-/

namespace RingBus
namespace Yaml

/-- What was being read when a mistake was noticed. -/
inductive Task
  | nextToken
  | simpleKey
  | directive
  | versionDirective
  | tagDirective
  | directiveHandle
  | openHandle
  | directiveAddress
  | tag
  | tagAddress
  | anchor
  | alias
  | blockScalar
  | quotedScalar
  | escapeSequence
  | plainScalar
  | properties
  | blockNode
  | flowNode
  | blockSequence
  | blockMapping
  | flowSequence
  | flowMapping
  deriving DecidableEq, Repr

def Task.text : Task → String
  | .nextToken => "while scanning for the next token"
  | .simpleKey => "while scanning a simple key"
  | .directive => "while scanning a directive"
  | .versionDirective => "while scanning a %YAML directive"
  | .tagDirective => "while scanning a %TAG directive"
  | .directiveHandle => "while scanning a tag directive"
  | .openHandle => "while parsing a tag directive"
  | .directiveAddress => "while parsing a %TAG directive"
  | .tag => "while scanning a tag"
  | .tagAddress => "while parsing a tag"
  | .anchor => "while scanning an anchor"
  | .alias => "while scanning an alias"
  | .blockScalar => "while scanning a block scalar"
  | .quotedScalar => "while scanning a quoted scalar"
  | .escapeSequence => "while parsing a quoted scalar"
  | .plainScalar => "while scanning a plain scalar"
  | .properties => "while parsing a node"
  | .blockNode => "while parsing a block node"
  | .flowNode => "while parsing a flow node"
  | .blockSequence => "while parsing a block collection"
  | .blockMapping => "while parsing a block mapping"
  | .flowSequence => "while parsing a flow sequence"
  | .flowMapping => "while parsing a flow mapping"

/-- Something that is missing, or that must not stand where it stands. -/
inductive Mistake
  | startsNothing
  | noColon
  | hyphenNotAllowed
  | keyNotAllowed
  | valueNotAllowed
  | noDirectiveName
  | badDirectiveName
  | unknownDirective
  | noLineEnd
  | noVersion
  | longVersion
  | noPoint
  | noGap
  | noGapOrLineEnd
  | noExclamationMark
  | noAddress
  | noOctet
  | badLeadingOctet
  | badTrailingOctet
  | noClosingAngle
  | noName
  | zeroIndentation
  | tabAsIndentation
  | documentMarker
  | endOfText
  | unknownEscape
  | noHexNumber
  | badCodePoint
  | colonInWord
  | tabInIndentation
  | noDocumentStart
  | secondVersion
  | foreignVersion
  | secondHandle
  | unknownHandle
  | noContent
  | noHyphen
  | noKey
  | noCommaOrBracket
  | noCommaOrBrace
  deriving DecidableEq, Repr

def Mistake.text : Mistake → String
  | .startsNothing => "found character that cannot start any token"
  | .noColon => "could not find expected ':'"
  | .hyphenNotAllowed => "block sequence entries are not allowed in this context"
  | .keyNotAllowed => "mapping keys are not allowed in this context"
  | .valueNotAllowed => "mapping values are not allowed in this context"
  | .noDirectiveName => "could not find expected directive name"
  | .badDirectiveName => "found unexpected non-alphabetical character"
  | .unknownDirective => "found unknown directive name"
  | .noLineEnd => "did not find expected comment or line break"
  | .noVersion => "did not find expected version number"
  | .longVersion => "found extremely long version number"
  | .noPoint => "did not find expected digit or '.' character"
  | .noGap => "did not find expected whitespace"
  | .noGapOrLineEnd => "did not find expected whitespace or line break"
  | .noExclamationMark => "did not find expected '!'"
  | .noAddress => "did not find expected tag URI"
  | .noOctet => "did not find URI escaped octet"
  | .badLeadingOctet => "found an incorrect leading UTF-8 octet"
  | .badTrailingOctet => "found an incorrect trailing UTF-8 octet"
  | .noClosingAngle => "did not find the expected '>'"
  | .noName => "did not find expected alphabetic or numeric character"
  | .zeroIndentation => "found an indentation indicator equal to 0"
  | .tabAsIndentation => "found a tab character where an indentation space is expected"
  | .documentMarker => "found unexpected document indicator"
  | .endOfText => "found unexpected end of stream"
  | .unknownEscape => "found unknown escape character"
  | .noHexNumber => "did not find expected hexdecimal number"
  | .badCodePoint => "found invalid Unicode character escape code"
  | .colonInWord => "found unexpected ':'"
  | .tabInIndentation => "found a tab character that violates indentation"
  | .noDocumentStart => "did not find expected <document start>"
  | .secondVersion => "found duplicate %YAML directive"
  | .foreignVersion => "found incompatible YAML document"
  | .secondHandle => "found duplicate %TAG directive"
  | .unknownHandle => "found undefined tag handle"
  | .noContent => "did not find expected node content"
  | .noHyphen => "did not find expected '-' indicator"
  | .noKey => "did not find expected key"
  | .noCommaOrBracket => "did not find expected ',' or ']'"
  | .noCommaOrBrace => "did not find expected ',' or '\x7d'"

inductive Fault
  /-- A mistake was noticed at a place, in the course of a task that began at another. -/
  | mistake (what : Mistake) (place : Place) (during : Option (Task × Place))
  /-- A character that may not stand in a document stands behind so many bytes. -/
  | forbidden (offset : Nat)
  /-- An alias stands at a place, but no node has its name. -/
  | unknownAnchor (place : Place)
  /-- There is more behind the end of the document. -/
  | furtherDocument
  deriving DecidableEq, Repr

namespace Fault

/-- Tells what was being read, and where it begins if that is another place than `place`. -/
def courseClause (place : Place) : Option (Task × Place) → String
  | none => ""
  | some (task, start) => ", " ++ task.text ++ (if start = place then "" else start.clause)

def message : Fault → String
  | .mistake what place during => what.text ++ place.clause ++ courseClause place during
  | .forbidden 0 => "control characters are not allowed"
  | .forbidden offset => s!"control characters are not allowed at position {offset}"
  | .unknownAnchor place => "unknown anchor" ++ place.clause
  | .furtherDocument =>
    "deserializing from YAML containing more than one document is not supported"

end Fault
end Yaml
end RingBus
