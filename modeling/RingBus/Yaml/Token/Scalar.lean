import RingBus.Yaml.Cursor
import RingBus.Yaml.Token

/-!
# Scalars

How plain, quoted and block scalars are read. A single line end between two words counts as a
space; of several, the first is dropped. Every function moves behind what it reads, or tells the
fault of the document. A scalar begins at `start`.
-/

namespace RingBus
namespace Yaml

/-! ## Gaps between words -/

/-- What stands between two words of a scalar. -/
structure Gap where
  /-- Whether a line end was among it. -/
  broken : Bool
  /-- The blanks before the first line end. -/
  blanks : List Char
  /-- The first line end. -/
  first : List Char
  /-- The other line ends. -/
  more : List Char

namespace Gap

def none : Gap := ⟨false, [], [], []⟩

/-- A gap that began with a line end that does not count. -/
def escaped : Gap := ⟨true, [], [], []⟩

/-- What a gap contributes to the text. -/
def joint (g : Gap) : List Char :=
  if !g.broken then g.blanks
  else if g.first = ['\n'] then (if g.more = [] then [' '] else g.more)
  else g.first ++ g.more

/-- Reads blanks and line ends. After a line end, a tab in front of column `indent` is a fault. -/
def read (start : Place) (indent : Int) : Nat → Cursor → Gap → Except Fault (Cursor × Gap)
  | 0, c, _ => .error (c.wrong .endOfText .plainScalar start)
  | fuel + 1, c, g =>
    match c.rest with
    | [] => .ok (c, g)
    | ch :: _ =>
      if isBlank ch then
        if g.broken && ch == '\t' && decide ((c.column : Int) < indent) then
          .error (c.wrong .tabInIndentation .plainScalar start)
        else if g.broken then read start indent fuel (c.skip 1) g
        else read start indent fuel (c.skip 1) { g with blanks := g.blanks ++ [ch] }
      else if isBreak ch then
        let (c, kept) := c.takeBreak
        if g.broken then read start indent fuel c { g with more := g.more ++ kept }
        else read start indent fuel c { g with broken := true, blanks := [], first := kept }
      else .ok (c, g)

end Gap

/-! ## Plain scalars -/

/-- The brackets and the comma, which end a word inside a flow collection. -/
def isFlowIndicator (c : Char) : Bool :=
  c == ',' || c == '[' || c == ']' || c == Char.ofNat 0x7B || c == Char.ofNat 0x7D

/-- The word of a plain scalar that begins here, and whether a colon ends it that is at fault. A
colon ends a word as it should if a gap follows. -/
def plainWord (inFlow : Bool) : List Char → List Char × Bool
  | [] => ([], false)
  | c :: rest =>
    if isGap c then ([], false)
    else if inFlow && c == ':' && rest.head?.any (fun d => isFlowIndicator d || d == '?') then
      ([], true)
    else if c == ':' && rest.head?.all isGap then ([], false)
    else if inFlow && isFlowIndicator c then ([], false)
    else
      let (word, isFault) := plainWord inFlow rest
      (c :: word, isFault)

/-- Reads the words of a plain scalar, as long as they are indented far enough. Tells also whether
a line end stands between the last word and the place after the scalar. -/
def readPlain (inFlow : Bool) (start : Place) (indent : Int) :
    Nat → Cursor → Gap → List Char → Except Fault (Cursor × List Char × Bool)
  | 0, c, _, _ => .error (c.wrong .endOfText .plainScalar start)
  | fuel + 1, c, gap, text => do
    if c.atDocumentMarker || c.sees '#' then return (c, text, gap.broken)
    let (word, isFault) := plainWord inFlow c.rest
    let text := if word = [] then text else text ++ gap.joint ++ word
    let gap := if word = [] then gap else Gap.none
    let c := c.skip word.length
    if isFault then throw (c.wrong .colonInWord .plainScalar start)
    if !c.rest.head?.any isGap then return (c, text, gap.broken)
    let (c, gap) ← gap.read start indent (c.rest.length + 1) c
    if !inFlow && decide ((c.column : Int) < indent) then return (c, text, gap.broken)
    readPlain inFlow start indent fuel c gap text

/-! ## Quoted scalars -/

/-- What a letter after a backslash stands for. -/
def escapes : List (Char × Nat) :=
  [('0', 0), ('a', 7), ('b', 8), ('t', 9), ('\t', 9), ('n', 10), ('v', 11), ('f', 12), ('r', 13),
   ('e', 27), (' ', 0x20), ('"', 0x22), ('/', 0x2F), ('\\', 0x5C), ('N', 0x85), ('_', 0xA0),
   ('L', 0x2028), ('P', 0x2029)]

/-- How many hexadecimal digits follow a letter after a backslash. -/
def codeLength? (c : Char) : Option Nat :=
  if c = 'x' then some 2 else if c = 'u' then some 4 else if c = 'U' then some 8 else none

def hexValue? (c : Char) : Option Nat :=
  if c.isDigit then some (c.toNat - 0x30)
  else if 'a' ≤ c ∧ c ≤ 'f' then some (c.toNat - 0x57)
  else if 'A' ≤ c ∧ c ≤ 'F' then some (c.toNat - 0x37)
  else none

def hexNumber? (digits : List Char) : Option Nat :=
  digits.foldlM (fun n d => (hexValue? d).map (n * 16 + ·)) 0

/-- The character of a code point, if it has one. -/
def charOfCode? (n : Nat) : Option Char :=
  if n < 0xD800 ∨ 0xDFFF < n ∧ n ≤ 0x10FFFF then some (Char.ofNat n) else none

/-- Reads a backslash with what follows it, as the character that they stand for. -/
def readEscape (start : Place) (c : Cursor) : Except Fault (Cursor × Char) :=
  match c.rest.drop 1 with
  | [] => .error (c.wrong .unknownEscape .escapeSequence start)
  | letter :: digits =>
    let d := c.skip 2
    match codeLength? letter with
    | some n => do
      let digits := digits.take n
      let some code := (hexNumber? digits).filter fun _ => digits.length = n
        | throw (d.wrong .noHexNumber .escapeSequence start)
      let some ch := charOfCode? code | throw (d.wrong .badCodePoint .escapeSequence start)
      return (d.skip n, ch)
    | none =>
      match escapes.find? fun e => e.1 == letter with
      | some e => .ok (d, Char.ofNat e.2)
      | none => .error (c.wrong .unknownEscape .escapeSequence start)

/-- Reads a word of a quoted scalar. Tells also whether a backslash at the end of a line ended
it. -/
def readQuotedWord (quote : Char) (start : Place) :
    Nat → Cursor → List Char → Except Fault (Cursor × List Char × Bool)
  | 0, c, _ => .error (c.wrong .endOfText .quotedScalar start)
  | fuel + 1, c, text =>
    match c.rest with
    | [] => .ok (c, text, false)
    | ch :: rest =>
      if isGap ch then .ok (c, text, false)
      else if ch = quote then
        if quote != '"' && rest.head? == some quote then
          readQuotedWord quote start fuel (c.skip 2) (text ++ [quote])
        else .ok (c, text, false)
      else if quote == '"' && ch == '\\' then
        if rest.head?.any isBreak then .ok ((c.skip 1).skipBreak, text, true)
        else
          match readEscape start c with
          | .ok (c, decoded) => readQuotedWord quote start fuel c (text ++ [decoded])
          | .error fault => .error fault
      else readQuotedWord quote start fuel (c.skip 1) (text ++ [ch])

/-- Reads a quoted scalar from the place after its opening quote. -/
def readQuoted (quote : Char) (start : Place) :
    Nat → Cursor → List Char → Except Fault (Cursor × List Char)
  | 0, c, _ => .error (c.wrong .endOfText .quotedScalar start)
  | fuel + 1, c, text => do
    if c.atDocumentMarker then throw (c.wrong .documentMarker .quotedScalar start)
    if c.rest.isEmpty then throw (c.wrong .endOfText .quotedScalar start)
    let (c, text, escaped) ← readQuotedWord quote start (c.rest.length + 1) c text
    if c.sees quote then return (c.skip 1, text)
    let gap := if escaped then Gap.escaped else Gap.none
    let (c, gap) ← gap.read start 0 (c.rest.length + 1) c
    readQuoted quote start fuel c (text ++ gap.joint)

/-! ## Block scalars -/

/-- What happens to the line ends at the end of a block scalar. -/
inductive Chomping
  | strip
  | clip
  | keep
  deriving DecidableEq, Repr

/-- The chomping that a sign asks for. -/
def Chomping.ofSign? (c : Char) : Option Chomping :=
  if c = '+' then some .keep else if c = '-' then some .strip else none

/-- Reads an indentation indicator, a digit other than zero, if there is one. -/
def indentDigit (start : Place) (c : Cursor) : Except Fault (Cursor × Nat) :=
  match c.rest with
  | d :: _ =>
    if d.isDigit then
      if d = '0' then .error (c.wrong .zeroIndentation .blockScalar start)
      else .ok (c.skip 1, d.toNat - 0x30)
    else .ok (c, 0)
  | [] => .ok (c, 0)

/-- Reads a chomping sign, if there is one. -/
def chompingSign (c : Cursor) : Cursor × Chomping :=
  match c.rest.head?.bind Chomping.ofSign? with
  | some chomping => (c.skip 1, chomping)
  | none => (c, .clip)

/-- Reads the signs after the indicator of a block scalar, in either order. -/
def blockHeader (start : Place) (c : Cursor) : Except Fault (Cursor × Chomping × Nat) := do
  if (c.rest.head?.bind Chomping.ofSign?).isSome then
    let (c, chomping) := chompingSign c
    let (c, increment) ← indentDigit start c
    return (c, chomping, increment)
  else
    let (c, increment) ← indentDigit start c
    let (c, chomping) := if increment = 0 then (c, .clip) else chompingSign c
    return (c, chomping, increment)

/-- Reads indentation and empty lines. An `indent` of zero is not yet known; then the deepest
column is found as well. -/
def readIndent (start : Place) (indent : Nat) :
    Nat → Cursor → Nat → List Char → Except Fault (Cursor × Nat × List Char)
  | 0, c, _, _ => .error (c.wrong .endOfText .blockScalar start)
  | fuel + 1, c, deepest, breaks =>
    let spaces := (c.rest.takeWhile (· == ' ')).length
    let c := c.skip (if indent = 0 then spaces else Nat.min spaces (indent - c.column))
    let deepest := Nat.max deepest c.column
    if (indent = 0 || c.column < indent) && c.sees '\t' then
      .error (c.wrong .tabAsIndentation .blockScalar start)
    else if c.atBreak then
      let (c, kept) := c.takeBreak
      readIndent start indent fuel c deepest (breaks ++ kept)
    else .ok (c, deepest, breaks)

/-- Reads indentation and empty lines, and settles the indentation if it is not yet known: the
deepest column, at least one more than that of the surrounding block. -/
def settleIndent (start : Place) (outer : Int) (indent : Nat) (c : Cursor) :
    Except Fault (Cursor × Nat × List Char) := do
  let (c, deepest, breaks) ← readIndent start indent (c.rest.length + 1) c 0 []
  if indent = 0 then
    return (c, Nat.max (Nat.max deepest (outer + 1).toNat) 1, breaks)
  else
    return (c, indent, breaks)

/-- What a block scalar has come to so far. -/
structure BlockText where
  text : List Char
  /-- The end of the last line. -/
  lineEnd : List Char
  /-- The empty lines after it. -/
  empty : List Char
  /-- Whether the last line began with a blank. -/
  afterBlank : Bool

/-- Takes the next line in. Folding turns a single line end into a space, unless one of the two
lines begins with a blank. -/
def BlockText.addLine (b : BlockText) (folded : Bool) (line : List Char) : BlockText :=
  let blank := line.head?.any isBlank
  let joint :=
    if folded && b.lineEnd == ['\n'] && !b.afterBlank && !blank then
      if b.empty = [] then [' '] else []
    else b.lineEnd
  ⟨b.text ++ joint ++ b.empty ++ line, [], [], blank⟩

def readBlockLines (folded : Bool) (start : Place) (outer : Int) (indent : Nat) :
    Nat → Cursor → BlockText → Except Fault (Cursor × BlockText)
  | 0, c, _ => .error (c.wrong .endOfText .blockScalar start)
  | fuel + 1, c, b => do
    if c.column != indent || c.rest.isEmpty then return (c, b)
    let line := c.rest.takeWhile (!isBreak ·)
    let (c, kept) := (c.skip line.length).takeBreak
    let b := { b.addLine folded line with lineEnd := kept }
    let (c, _, breaks) ← settleIndent start outer indent c
    readBlockLines folded start outer indent fuel c { b with empty := breaks }

/-- Reads a block scalar from the place after its indicator, inside a block at column `outer`. -/
def readBlock (folded : Bool) (start : Place) (outer : Int) (c : Cursor) :
    Except Fault (Cursor × List Char) := do
  let (c, chomping, increment) ← blockHeader start c
  let c := c.skipComment
  if !c.atBreakOrEnd then throw (c.wrong .noLineEnd .blockScalar start)
  let c := c.skipBreak
  let given := if increment = 0 then 0 else (Max.max outer 0).toNat + increment
  let (c, indent, breaks) ← settleIndent start outer given c
  let (c, b) ←
    readBlockLines folded start outer indent (c.rest.length + 1) c ⟨[], [], breaks, false⟩
  let tail := match chomping with
    | .strip => []
    | .clip => b.lineEnd
    | .keep => b.lineEnd ++ b.empty
  return (c, b.text ++ tail)

end Yaml
end RingBus
