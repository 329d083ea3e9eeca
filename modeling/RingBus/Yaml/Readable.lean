/-!
# What can be read of a text

Not every character may stand in a document. A text is looked over window by window, in front of
the reader: where a window holds a character that may not stand there, the text ends before this
window, and whoever gets that far meets a fault. What comes before is read as usual.
-/

namespace RingBus
namespace Yaml

/-- Whether a character may stand in a document at all. -/
def isAllowed (c : Char) : Bool :=
  let n := c.toNat
  n == 0x09 || n == 0x0A || n == 0x0D || n == 0x85 || decide (
    0x20 ≤ n ∧ n ≤ 0x7E ∨ 0xA0 ≤ n ∧ n ≤ 0xD7FF ∨ 0xE000 ≤ n ∧ n ≤ 0xFFFD ∨ 0x10000 ≤ n)

/-- A text as far as it can be read. -/
structure Readable where
  text : List Char
  /-- How many bytes come before the character that cannot be read, if there is one. -/
  clippedAt : Option Nat

namespace Readable

/-- The most bytes of a window. A window ends with a whole character. -/
def windowSize : Nat :=
  16384

/-- Goes on looking a text over, behind `offset` bytes. The present window so far is `window`, last
character first, of `size` bytes. -/
def ofWindow (window : List Char) (size offset : Nat) : List Char → Readable
  | [] => ⟨window.reverse, none⟩
  | c :: rest =>
    let next := offset + c.utf8Size
    if size + c.utf8Size ≤ windowSize then
      if isAllowed c then ofWindow (c :: window) (size + c.utf8Size) next rest
      else ⟨[], some offset⟩
    else if isAllowed c then
      let more := ofWindow [c] c.utf8Size next rest
      ⟨window.reverse ++ more.text, more.clippedAt⟩
    else ⟨window.reverse, some offset⟩

/-- Looks a text over. -/
def ofChars (text : List Char) : Readable :=
  ofWindow [] 0 0 text

end Readable
end Yaml
end RingBus
