import RingBus.Yaml.Token.Scalar
import RingBus.Text.Lossy

/-!
# Anchors, tags and directives

The names and addresses that stand in front of nodes and documents. Every function moves behind what
it reads, or tells the fault of the document. What is being read begins at `start`.
-/

namespace RingBus
namespace Yaml

/-! ## Anchors -/

/-- What may follow the name of an anchor. -/
def endsName (c : Char) : Bool :=
  isGap c || [0x3F, 0x3A, 0x2C, 0x5D, 0x7D, 0x25, 0x40, 0x60].contains c.toNat

/-- Reads the name of an anchor or an alias, from the place after its indicator. -/
def readName (task : Task) (start : Place) (c : Cursor) : Except Fault (Cursor × String) :=
  let name := c.rest.takeWhile isWordChar
  let c := c.skip name.length
  if name = [] || !c.rest.head?.all endsName then .error (c.wrong .noName task start)
  else .ok (c, String.ofList name)

/-! ## Addresses -/

/-- The characters of an address. Some of them may not stand in the short form of a tag. -/
def isUriChar (full : Bool) (c : Char) : Bool :=
  isWordChar c || ";/?:@&=+$.%!~*()".toList.contains c || c.toNat == 0x27 ||
    full && (c == ',' || c == '[' || c == ']')

/-- A byte written as a percent sign and two hexadecimal digits. -/
def octet? (c : Cursor) : Option Nat :=
  match c.rest with
  | '%' :: a :: b :: _ => hexNumber? [a, b]
  | _ => none

/-- How many bytes the character has that begins with the byte `n`. -/
def octetCount? (n : Nat) : Option Nat :=
  if n < 0x80 then some 1
  else if n / 0x20 = 6 then some 2
  else if n / 0x10 = 14 then some 3
  else if n / 8 = 30 then some 4
  else none

/-- Reads the octets that come behind the first one of a character. -/
def readTrailing (task : Task) (start : Place) :
    Nat → Cursor → List Nat → Except Fault (Cursor × List Nat)
  | 0, c, octets => .ok (c, octets)
  | n + 1, c, octets =>
    match octet? c with
    | none => .error (c.wrong .noOctet task start)
    | some o =>
      if o / 0x40 = 2 then readTrailing task start n (c.skip 3) (octets ++ [o])
      else .error (c.wrong .badTrailingOctet task start)

/-- Reads the character that a row of octets stands for. -/
def readOctets (task : Task) (start : Place) (c : Cursor) : Except Fault (Cursor × List Char) := do
  let some first := octet? c | throw (c.wrong .noOctet task start)
  let some n := octetCount? first | throw (c.wrong .badLeadingOctet task start)
  let (c, octets) ← readTrailing task start (n - 1) (c.skip 3) [first]
  return (c, (Text.lossy ⟨(octets.map (UInt8.ofNat ·)).toArray⟩).toList)

/-- Reads as much of an address as there is. -/
def readUri (full : Bool) (task : Task) (start : Place) :
    Nat → Cursor → List Char → Except Fault (Cursor × List Char)
  | 0, c, _ => .error (c.wrong .endOfText task start)
  | fuel + 1, c, text =>
    match c.rest with
    | [] => .ok (c, text)
    | ch :: _ =>
      if ch == '%' then
        match readOctets task start c with
        | .ok (c, decoded) => readUri full task start fuel c (text ++ decoded)
        | .error fault => .error fault
      else if isUriChar full ch then readUri full task start fuel (c.skip 1) (text ++ [ch])
      else .ok (c, text)

/-- The text that an address stands for. It ends in front of the first NUL. -/
def addressText (text : List Char) : String :=
  String.ofList (text.takeWhile (· != Char.ofNat 0))

/-- Reads an address that has at least one character. -/
def readUri1 (full : Bool) (task : Task) (start : Place) (c : Cursor) :
    Except Fault (Cursor × String) := do
  let (d, text) ← readUri full task start (c.rest.length + 1) c []
  if d.index = c.index then throw (d.wrong .noAddress task start)
  return (d, addressText text)

/-! ## Tags -/

/-- Reads a handle: word characters between two exclamation marks, of which the second may be
missing. -/
def readHandle (task : Task) (start : Place) (c : Cursor) : Except Fault (Cursor × List Char) :=
  if c.sees '!' then
    let word := (c.skip 1).rest.takeWhile isWordChar
    let d := c.skip (1 + word.length)
    if d.sees '!' then .ok (d.skip 1, '!' :: word ++ ['!']) else .ok (d, '!' :: word)
  else .error (c.wrong .noExclamationMark task start)

/-- Whether a handle has both exclamation marks. -/
def isNamedHandle (handle : List Char) : Bool :=
  decide (1 < handle.length) && handle.getLast? == some '!'

/-- Reads the body of a tag, as a handle and a suffix. A handle of no characters says that the
suffix is the whole tag. -/
def readTagBody (start : Place) (c : Cursor) : Except Fault (Cursor × Token) := do
  if c.seesAt 1 '<' then
    let (c, uri) ← readUri1 true .tagAddress start (c.skip 2)
    if !c.sees '>' then throw (c.wrong .noClosingAngle .tag start)
    return (c.skip 1, .tag "" uri)
  else
    let (c, handle) ← readHandle .tag start c
    if isNamedHandle handle then
      let (c, suffix) ← readUri1 false .tagAddress start c
      return (c, .tag (String.ofList handle) suffix)
    else
      let (c, text) ← readUri false .tagAddress start (c.rest.length + 1) c handle.tail
      let suffix := addressText text
      return (c, if suffix = "" then .tag "" "!" else .tag "!" suffix)

/-- Reads a tag. A gap follows it, or, inside a flow collection, a comma. -/
def readTag (inFlow : Bool) (start : Place) (c : Cursor) : Except Fault (Cursor × Token) := do
  let (c, tag) ← readTagBody start c
  if c.gapOrEndAt 0 || inFlow && c.sees ',' then return (c, tag)
  throw (c.wrong .noGapOrLineEnd .tag start)

/-! ## Directives -/

/-- Reads a number of at most nine digits. -/
def readNumber (start : Place) (c : Cursor) : Except Fault (Cursor × Nat) :=
  let digits := c.rest.takeWhile Char.isDigit
  if digits = [] then .error (c.wrong .noVersion .versionDirective start)
  else if 9 < digits.length then
    .error ((c.skip 9).wrong .longVersion .versionDirective start)
  else .ok (c.skip digits.length, digits.foldl (fun n d => n * 10 + (d.toNat - 0x30)) 0)

/-- Reads the value of a directive for the version. -/
def readVersion (start : Place) (c : Cursor) : Except Fault (Cursor × Token) := do
  let (c, major) ← readNumber start (c.skipWhile isBlank)
  if !c.sees '.' then throw (c.wrong .noPoint .versionDirective start)
  let (c, minor) ← readNumber start (c.skip 1)
  return (c, .versionDirective major minor)

/-- Reads the value of a directive for a handle. -/
def readTagDirective (start : Place) (c : Cursor) : Except Fault (Cursor × Token) := do
  let (c, handle) ← readHandle .directiveHandle start (c.skipWhile isBlank)
  if handle ≠ ['!'] && !isNamedHandle handle then
    throw (c.wrong .noExclamationMark .openHandle start)
  if !c.rest.head?.any isBlank then throw (c.wrong .noGap .tagDirective start)
  let (c, expansion) ← readUri1 true .directiveAddress start (c.skipWhile isBlank)
  if !c.gapOrEndAt 0 then throw (c.wrong .noGapOrLineEnd .tagDirective start)
  return (c, .tagDirective (String.ofList handle) expansion)

/-- Reads a directive, from the place after its indicator, and the rest of its line. -/
def readDirective (start : Place) (c : Cursor) : Except Fault (Cursor × Token) := do
  let name := c.rest.takeWhile isWordChar
  let c := c.skip name.length
  if name = [] then throw (c.wrong .noDirectiveName .directive start)
  if !c.gapOrEndAt 0 then throw (c.wrong .badDirectiveName .directive start)
  let (c, directive) ←
    if name = "YAML".toList then readVersion start c
    else if name = "TAG".toList then readTagDirective start c
    else throw (c.wrong .unknownDirective .directive start)
  let c := c.skipComment
  if !c.atBreakOrEnd then throw (c.wrong .noLineEnd .directive start)
  return (c.skipBreak, directive)

end Yaml
end RingBus
