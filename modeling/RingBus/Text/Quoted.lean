import RingBus.Text.Printable

/-!
# Quoted text

How a piece of text is shown inside an error message: in double quotes, with short escapes for
the usual control characters, and the code point in hexadecimal for whatever would not show.
-/

namespace RingBus
namespace Text

/-- The hexadecimal digits of a number, in lower case and without leading zeros. -/
def hexDigits (n : Nat) : List Char :=
  Nat.toDigits 16 n

/-- A number as `0x` and at least eight hexadecimal digits. -/
def hexWord (n : Nat) : String :=
  let digits := hexDigits n
  String.ofList ('0' :: 'x' :: (List.replicate (8 - digits.length) '0' ++ digits))

/-- How one character is written between quotes. -/
def quotedChar (c : Char) : List Char :=
  if c.toNat = 0 then ['\\', '0']
  else if c = '\t' then ['\\', 't']
  else if c = '\r' then ['\\', 'r']
  else if c = '\n' then ['\\', 'n']
  else if c = '"' then ['\\', '"']
  else if c = '\\' then ['\\', '\\']
  else if isPrintable c then [c]
  else ['\\', 'u', Char.ofNat 0x7B] ++ hexDigits c.toNat ++ [Char.ofNat 0x7D]

def quoted (s : String) : String :=
  String.ofList ('"' :: (s.toList.flatMap quotedChar ++ ['"']))

/-- How one character of a path is written between quotes. -/
def quotedPathChar (c : Char) : List Char :=
  if c.toNat = 0x27 then ['\\', c] else quotedChar c

/-- A path between double quotes. Single quotes are escaped as well. -/
def quotedPath (path : String) : String :=
  String.ofList ('"' :: (path.toList.flatMap quotedPathChar ++ ['"']))

end Text
end RingBus
