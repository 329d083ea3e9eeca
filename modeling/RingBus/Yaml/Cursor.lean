import RingBus.Yaml.Fault

/-!
# Where reading has come to

The characters that are left, and how far it is from the start: by bytes, by lines, and by
characters within the line. Lines end at a carriage return, a line feed, both together, or one of
the three Unicode line ends.
-/

namespace RingBus
namespace Yaml

/-- Ends a line. -/
def isBreak (c : Char) : Bool :=
  c == '\n' || c == '\r' || c.toNat == 0x85 || c.toNat == 0x2028 || c.toNat == 0x2029

/-- A space or a tab. -/
def isBlank (c : Char) : Bool :=
  c == ' ' || c == '\t'

/-- Separates words: a blank or the end of a line. -/
def isGap (c : Char) : Bool :=
  isBlank c || isBreak c

/-- A letter, a digit, a hyphen or an underscore. -/
def isWordChar (c : Char) : Bool :=
  c.isAlphanum || c == '-' || c == '_'

def byteCount (cs : List Char) : Nat :=
  cs.foldl (fun n c => n + c.utf8Size) 0

/-- Where the reading of a document has come to. -/
structure Cursor where
  rest : List Char
  /-- The bytes in front of it. -/
  index : Nat
  /-- The lines in front of it. -/
  line : Nat
  /-- The characters in front of it on its line. -/
  column : Nat

namespace Cursor

def start (text : List Char) : Cursor :=
  ⟨text, 0, 0, 0⟩

def place (c : Cursor) : Place :=
  ⟨c.line, c.column⟩

/-- A mistake that is noticed here, in the course of a task that began at `start`. -/
def wrong (c : Cursor) (what : Mistake) (task : Task) (start : Place) : Fault :=
  .mistake what c.place (some (task, start))

def sees (c : Cursor) (ch : Char) : Bool :=
  c.rest.head? == some ch

def seesAt (c : Cursor) (n : Nat) (ch : Char) : Bool :=
  c.rest[n]? == some ch

/-- Whether a line, or the document, ends here. -/
def atBreakOrEnd (c : Cursor) : Bool :=
  c.rest.head?.all isBreak

def atBreak (c : Cursor) : Bool :=
  c.rest.head?.any isBreak

/-- Whether a gap, or the end of the document, is `n` places on. -/
def gapOrEndAt (c : Cursor) (n : Nat) : Bool :=
  c.rest[n]?.all isGap

/-- Moves past `n` characters of the line. -/
def skip (c : Cursor) (n : Nat) : Cursor :=
  let index := c.index + byteCount (c.rest.take n)
  { c with rest := c.rest.drop n, index, column := c.column + n }

/-- Moves past the characters of the line that satisfy `p`. -/
def skipWhile (c : Cursor) (p : Char → Bool) : Cursor :=
  c.skip (c.rest.takeWhile p).length

/-- Moves past the end of a line, and gives the character it counts as: a line feed, or the
Unicode line or paragraph separator itself. -/
def takeBreak (c : Cursor) : Cursor × List Char :=
  match c.rest with
  | '\r' :: '\n' :: rest => (⟨rest, c.index + 2, c.line + 1, 0⟩, ['\n'])
  | b :: rest =>
    let kept := if b.toNat = 0x2028 ∨ b.toNat = 0x2029 then b else '\n'
    if isBreak b then (⟨rest, c.index + b.utf8Size, c.line + 1, 0⟩, [kept]) else (c, [])
  | [] => (c, [])

def skipBreak (c : Cursor) : Cursor :=
  c.takeBreak.1

/-- Moves past blanks and the comment behind them, if there is one. The end of the line itself
stays. -/
def skipComment (c : Cursor) : Cursor :=
  let c := c.skipWhile isBlank
  if c.sees '#' then c.skipWhile (!isBreak ·) else c

/-- Whether three of `ch` stand alone at the start of a line. -/
def atMarker (c : Cursor) (ch : Char) : Bool :=
  c.column == 0 && c.sees ch && c.seesAt 1 ch && c.seesAt 2 ch && c.gapOrEndAt 3

/-- Whether the start or the end of a document is marked here. -/
def atDocumentMarker (c : Cursor) : Bool :=
  c.atMarker '-' || c.atMarker '.'

end Cursor
end Yaml
end RingBus
