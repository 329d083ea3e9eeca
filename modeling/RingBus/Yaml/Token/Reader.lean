import RingBus.Yaml.Readable
import RingBus.Yaml.Token.Property

/-!
# From characters to tokens

A node turns out to be a key only when the colon after it is met, so tokens wait in a queue as long
as a key could still begin in front of them. Where blocks begin and end is told by the columns of
their first characters. At a fault the tokens end.
-/

namespace RingBus
namespace Yaml

def byteOrderMark : Char :=
  Char.ofNat 0xFEFF

/-! ## Keys -/

/-- A node that may turn out to be a key. -/
structure Candidate where
  /-- Whether it has to be a key, because only a key can stand where it stands. -/
  required : Bool
  /-- How many tokens come before it. -/
  number : Nat
  /-- Where it begins. -/
  start : Cursor

namespace Candidate

/-- How many bytes a key may be away from its colon. -/
def reach : Nat :=
  1024

/-- A key ends on the line where it begins, and within reach. -/
def isStale (k : Candidate) (c : Cursor) : Bool :=
  decide (k.start.line < c.line) || decide (k.start.index + reach < c.index)

/-- Lets a candidate go, unless it has to be a key. -/
def release (c : Cursor) (k : Candidate) : Except Fault (Option Candidate) :=
  if k.required then .error (c.wrong .noColon .simpleKey k.start.place) else .ok none

/-- What is left of a candidate further on: it may go stale, but not if it has to be a key. -/
def kept (c : Cursor) : Option Candidate → Except Fault (Option Candidate)
  | none => .ok none
  | some k => if k.isStale c then k.release c else .ok (some k)

end Candidate

/-! ## The state of reading -/

/-- What is known while a document is read. -/
structure Reader where
  /-- What is wrong with the text where it ends, if it goes on with something unreadable. -/
  clipFault : Option Fault
  cursor : Cursor
  /-- The candidate of the innermost collection. -/
  candidate : Option Candidate
  /-- The candidates around each open flow collection, innermost first. -/
  outer : List (Option Candidate)
  /-- The columns of the open blocks, innermost first. -/
  blocks : List Nat
  /-- Whether a key may begin here. -/
  keyAllowed : Bool
  /-- How many tokens were delivered. -/
  delivered : Nat
  /-- The tokens that were read and not delivered. -/
  queue : List Lexeme

namespace Reader

def start (r : Readable) : Reader :=
  ⟨r.clippedAt.map .forbidden, .start r.text, none, [], [], true, 0, [⟨.streamStart, .start⟩]⟩

def inFlow (r : Reader) : Bool :=
  !r.outer.isEmpty

/-- The column of the innermost block, or −1 outside of all blocks. -/
def indent (r : Reader) : Int :=
  match r.blocks with
  | [] => -1
  | column :: _ => column

/-- Puts a token that begins here at the end of the queue, and moves to `c` behind it. -/
def push (r : Reader) (c : Cursor) (t : Token) : Reader :=
  { r with cursor := c, queue := r.queue ++ [⟨t, r.cursor.place⟩] }

/-- Sets whether a key may begin at the next place. -/
def allowKey (r : Reader) (allowed : Bool) : Reader :=
  { r with keyAllowed := allowed }

def dropStale (r : Reader) : Except Fault Reader := do
  let candidate ← Candidate.kept r.cursor r.candidate
  let outer ← r.outer.mapM (Candidate.kept r.cursor)
  return { r with candidate, outer }

/-- Gives the candidate up, unless it has to be a key. -/
def dropCandidate (r : Reader) : Except Fault Reader :=
  match r.candidate with
  | none => .ok r
  | some k => (k.release r.cursor).map fun candidate => { r with candidate }

/-- Notes that a key may begin here. -/
def saveCandidate (r : Reader) : Except Fault Reader :=
  if r.keyAllowed then do
    let r ← r.dropCandidate
    let required := !r.inFlow && decide (r.indent = (r.cursor.column : Int))
    return { r with candidate := some ⟨required, r.delivered + r.queue.length, r.cursor⟩ }
  else .ok r

/-- Whether a key could still begin in front of the next token. -/
def isUndecided (r : Reader) : Bool :=
  (r.candidate :: r.outer).any fun k => k.any fun k => decide (k.number = r.delivered)

/-- Closes the blocks whose column satisfies `deeper`. -/
def closeBlocks (r : Reader) (deeper : Nat → Bool) : Reader :=
  if r.inFlow then r
  else
    { r with
      blocks := r.blocks.dropWhile deeper
      queue := r.queue ++ (r.blocks.takeWhile deeper).map fun _ => ⟨.blockEnd, r.cursor.place⟩ }

/-- Opens a block at a place, unless one is open in its column or deeper. Its token goes behind the
first `position` tokens of the queue. -/
def openBlock (r : Reader) (place : Place) (block : Token) (position : Nat) : Reader :=
  if !r.inFlow && decide (r.indent < (place.column : Int)) then
    { r with
      blocks := place.column :: r.blocks
      queue := r.queue.insertIdx position ⟨block, place⟩ }
  else r

/-- Moves past blanks, comments and line ends. A tab counts as a blank where no key can begin, and
a byte order mark at the start of a line always does. -/
def toNextToken : Nat → Reader → Reader
  | 0, r => r
  | fuel + 1, r =>
    let c := r.cursor
    let c := if c.column = 0 ∧ c.sees byteOrderMark then c.skip 1 else c
    let tabs := r.inFlow || !r.keyAllowed
    let c := c.skipWhile fun ch => ch == ' ' || tabs && ch == '\t'
    let c := if c.sees '#' then c.skipWhile (!isBreak ·) else c
    if c.atBreak then
      toNextToken fuel { r with cursor := c.skipBreak, keyAllowed := r.keyAllowed || !r.inFlow }
    else { r with cursor := c }

/-! ## One token -/

/-- Closes all blocks, after which no key can begin. -/
def closeAll (r : Reader) : Except Fault Reader :=
  ((r.closeBlocks fun _ => true).allowKey false).dropCandidate

/-- Reads the end of the document, which ends its last line too. -/
def readEnd (r : Reader) : Except Fault Reader := do
  let c := r.cursor
  let c := if c.column = 0 then c else { c with line := c.line + 1, column := 0 }
  let r ← { r with cursor := c }.closeAll
  return r.push c .streamEnd

def readDirective (r : Reader) : Except Fault Reader := do
  let r ← r.closeAll
  let (c, t) ← Yaml.readDirective r.cursor.place (r.cursor.skip 1)
  return r.push c t

def readMarker (r : Reader) (t : Token) : Except Fault Reader := do
  let r ← r.closeAll
  return r.push (r.cursor.skip 3) t

def openFlow (r : Reader) (t : Token) : Except Fault Reader := do
  let r ← r.saveCandidate
  let r := { r with candidate := none, outer := r.candidate :: r.outer }
  return (r.allowKey true).push (r.cursor.skip 1) t

def closeFlow (r : Reader) (t : Token) : Except Fault Reader := do
  let r ← r.dropCandidate
  let r := match r.outer with
    | [] => r
    | k :: outer => { r with candidate := k, outer }
  return (r.allowKey false).push (r.cursor.skip 1) t

def readComma (r : Reader) : Except Fault Reader := do
  let r ← r.dropCandidate
  return (r.allowKey true).push (r.cursor.skip 1) .flowEntry

/-- Begins an entry of a block here, where only a key may begin. It is a mistake if none may. -/
def beginItem (r : Reader) (block : Token) (what : Mistake) : Except Fault Reader :=
  if r.inFlow then .ok r
  else if r.keyAllowed then .ok (r.openBlock r.cursor.place block r.queue.length)
  else .error (.mistake what r.cursor.place none)

def readHyphen (r : Reader) : Except Fault Reader := do
  let r ← r.beginItem .blockSequenceStart .hyphenNotAllowed
  let r ← r.dropCandidate
  return (r.allowKey true).push (r.cursor.skip 1) .blockEntry

def readKey (r : Reader) : Except Fault Reader := do
  let r ← r.beginItem .blockMappingStart .keyNotAllowed
  let r ← r.dropCandidate
  return (r.allowKey !r.inFlow).push (r.cursor.skip 1) .key

/-- Reads the colon in front of a value. If there is a candidate, this makes it a key. -/
def readValue (r : Reader) : Except Fault Reader :=
  match r.candidate with
  | some k =>
    let position := k.number - r.delivered
    let queue := r.queue.insertIdx position ⟨.key, k.start.place⟩
    let r := { r with candidate := none, queue }.openBlock k.start.place .blockMappingStart position
    .ok ((r.allowKey false).push (r.cursor.skip 1) .value)
  | none => do
    let r ← r.beginItem .blockMappingStart .valueNotAllowed
    return (r.allowKey !r.inFlow).push (r.cursor.skip 1) .value

/-- Reads an alias, an anchor, a tag or a scalar, which may begin a key. -/
def readNode (r : Reader) (read : Place → Cursor → Except Fault (Cursor × Token)) :
    Except Fault Reader := do
  let r ← r.saveCandidate
  let (c, t) ← read r.cursor.place r.cursor
  return (r.allowKey false).push c t

/-- Reads the name of an anchor or an alias, as the token that it makes. -/
def readNamed (r : Reader) (task : Task) (token : String → Token) : Except Fault Reader :=
  r.readNode fun start c => (readName task start (c.skip 1)).map (·.map id token)

def readQuoted (r : Reader) (quote : Char) : Except Fault Reader :=
  r.readNode fun start c => do
    let c := c.skip 1
    let (c, text) ← Yaml.readQuoted quote start (c.rest.length + 1) c []
    return (c, .scalar (String.ofList text) .quoted)

/-- Reads a block scalar. A key may begin after it. -/
def readBlock (r : Reader) (style : Style) : Except Fault Reader := do
  let r ← r.dropCandidate
  let c := r.cursor
  let (c, text) ← Yaml.readBlock (style == .folded) c.place r.indent (c.skip 1)
  return (r.allowKey true).push c (.scalar (String.ofList text) style)

/-- Reads a plain scalar. A key may begin after it if it reached the next line. -/
def readPlain (r : Reader) : Except Fault Reader := do
  let r ← r.saveCandidate
  let c := r.cursor
  let (c, text, broken) ←
    Yaml.readPlain r.inFlow c.place (r.indent + 1) (c.rest.length + 1) c Gap.none []
  return (r.allowKey broken).push c (.scalar (String.ofList text) .plain)

/-- Whether a plain scalar may begin here. -/
def startsPlain (r : Reader) : Bool :=
  match r.cursor.rest with
  | [] => false
  | ch :: _ =>
    let spaced := r.cursor.gapOrEndAt 1
    !isGap ch && !"-?:,[]#&*!|>\"%@".toList.contains ch &&
        !([0x7B, 0x7D, 0x27, 0x60].contains ch.toNat) ||
      ch == '-' && !spaced ||
      !r.inFlow && (ch == '?' || ch == ':') && !spaced

/-- Reads the token that begins with the character `ch`, which is next. -/
def readToken (r : Reader) (ch : Char) : Except Fault Reader :=
  let c := r.cursor
  let spaced := c.gapOrEndAt 1
  if c.column = 0 ∧ ch = '%' then r.readDirective
  else if c.atMarker '-' then r.readMarker .documentStart
  else if c.atMarker '.' then r.readMarker .documentEnd
  else if ch = '[' then r.openFlow .flowSequenceStart
  else if ch = Char.ofNat 0x7B then r.openFlow .flowMappingStart
  else if ch = ']' then r.closeFlow .flowSequenceEnd
  else if ch = Char.ofNat 0x7D then r.closeFlow .flowMappingEnd
  else if ch = ',' then r.readComma
  else if ch = '-' ∧ spaced then r.readHyphen
  else if ch = '?' ∧ (r.inFlow || spaced) then r.readKey
  else if ch = ':' ∧ (r.inFlow || spaced) then r.readValue
  else if ch = '*' then r.readNamed .alias .alias
  else if ch = '&' then r.readNamed .anchor .anchor
  else if ch = '!' then r.readNode (readTag r.inFlow)
  else if ch = '|' ∧ !r.inFlow then r.readBlock .literal
  else if ch = '>' ∧ !r.inFlow then r.readBlock .folded
  else if ch = '"' ∨ ch = Char.ofNat 0x27 then r.readQuoted ch
  else if r.startsPlain then r.readPlain
  else .error (c.wrong .startsNothing .nextToken c.place)

/-- Goes on unless fewer than `n` characters are left of a text that is clipped. -/
def lookAhead (r : Reader) (n : Nat) : Except Fault Reader :=
  match r.clipFault with
  | none => .ok r
  | some fault => if (r.cursor.rest.take n).length < n then .error fault else .ok r

/-- The fault that ends the tokens when a token cannot be read. The end of a text that is clipped is
none. -/
def faultOf (r : Reader) : Fault → Fault
  | .mistake .endOfText place during => r.clipFault.getD (.mistake .endOfText place during)
  | fault => fault

/-- Reads at least one more token into the queue. The next four characters are looked at before a
token is read, and the one behind it to see where it ends. -/
def fetch (r : Reader) : Except Fault Reader := do
  let r ← (r.toNextToken (r.cursor.rest.length + 1)).lookAhead 1
  let r ← r.dropStale
  let r ← (r.closeBlocks fun column => decide (r.cursor.column < column)).lookAhead 4
  match r.cursor.rest with
  | [] => r.readEnd
  | ch :: _ => (← (r.readToken ch).mapError r.faultOf).lookAhead 1

end Reader

/-! ## All tokens -/

/-- The tokens of a document, and what is wrong if more of them are asked for. -/
structure Tokens where
  lexemes : List Lexeme
  fault : Fault

namespace Tokens

def empty (fault : Fault) : Tokens :=
  ⟨[], fault⟩

/-- The tokens with one more in front. -/
def cons (l : Lexeme) (ts : Tokens) : Tokens :=
  { ts with lexemes := l :: ts.lexemes }

def tail (ts : Tokens) : Tokens :=
  { ts with lexemes := ts.lexemes.tail }

/-- The fault that says that there is no more. -/
def ended (r : Reader) : Fault :=
  .mistake .endOfText r.cursor.place none

/-- Delivers the tokens one by one, up to the end or a fault. -/
def ofReader : Nat → Reader → Tokens
  | 0, r => empty (ended r)
  | fuel + 1, r =>
    match r.queue with
    | [] =>
      match r.fetch with
      | .ok r => ofReader fuel r
      | .error fault => empty fault
    | l :: queue =>
      match r.dropStale with
      | .error fault => empty fault
      | .ok r =>
        if r.isUndecided then
          match r.fetch with
          | .ok r => ofReader fuel r
          | .error fault => empty fault
        else if l.token = .streamEnd then cons l (empty (ended r))
        else cons l (ofReader fuel { r with delivered := r.delivered + 1, queue })

/-- The tokens of a text, up to its end or its first fault. -/
def ofText (text : String) : Tokens :=
  let readable := Readable.ofChars text.toList
  ofReader (8 * (readable.text.length + 4)) (.start readable)

end Tokens
end Yaml
end RingBus
