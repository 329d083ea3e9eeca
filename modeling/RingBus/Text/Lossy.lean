/-!
# Reading bytes as text

`ofBytes?` accepts well-formed UTF-8 only. `lossy` reads anything: each maximal part of the bytes
that begins like a character but is none becomes one replacement character U+FFFD.
-/

namespace RingBus
namespace Text

/-- The text whose UTF-8 form is exactly `bytes`. -/
def ofBytes? (bytes : ByteArray) : Option String :=
  String.fromUTF8? bytes

theorem ofBytes?_toByteArray (s : String) : ofBytes? s.toByteArray = some s := by
  simp [ofBytes?, String.fromUTF8?, String.fromUTF8, s.isValidUTF8]

theorem toByteArray_of_ofBytes? {bytes : ByteArray} {s : String} (h : ofBytes? bytes = some s) :
    s.toByteArray = bytes := by
  unfold ofBytes? String.fromUTF8? at h
  split at h
  · cases h
    rfl
  · cases h

/-! ## Replacement of what is no text -/

/-- Stands for bytes that are no text. -/
def replacement : Char := Char.ofNat 0xFFFD

/-- The lead byte of a character of several bytes: how many bytes follow it, what it contributes
to the code point, and the bounds of the byte right after it. -/
structure Lead where
  following : Nat
  bits : Nat
  low : Nat
  high : Nat
  deriving DecidableEq, Repr

/-- Reads a lead byte. The bounds exclude overlong forms, surrogates and code points above
U+10FFFF. -/
def Lead.ofByte? (b : Nat) : Option Lead :=
  if 0xC2 ≤ b ∧ b ≤ 0xDF then some ⟨1, b % 0x20, 0x80, 0xBF⟩
  else if b = 0xE0 then some ⟨2, b % 0x10, 0xA0, 0xBF⟩
  else if b = 0xED then some ⟨2, b % 0x10, 0x80, 0x9F⟩
  else if 0xE1 ≤ b ∧ b ≤ 0xEF then some ⟨2, b % 0x10, 0x80, 0xBF⟩
  else if b = 0xF0 then some ⟨3, b % 8, 0x90, 0xBF⟩
  else if b = 0xF4 then some ⟨3, b % 8, 0x80, 0x8F⟩
  else if 0xF1 ≤ b ∧ b ≤ 0xF3 then some ⟨3, b % 8, 0x80, 0xBF⟩
  else none

/-- Reads the bytes that follow a lead byte: the character they complete, or the replacement for
the part that begins well, and how many bytes of `rest` belong to it. -/
def continueFrom (lead : Lead) (rest : List Nat) : Char × Nat :=
  go lead.following lead.bits lead.low lead.high 0 rest
where
  go : Nat → Nat → Nat → Nat → Nat → List Nat → Char × Nat
    | 0, code, _, _, used, _ => (Char.ofNat code, used)
    | _ + 1, _, _, _, used, [] => (replacement, used)
    | left + 1, code, low, high, used, b :: rest =>
      if low ≤ b ∧ b ≤ high then
        go left (code * 0x40 + b % 0x40) 0x80 0xBF (used + 1) rest
      else
        (replacement, used)

/-- The characters of a byte list, with replacements where the bytes are no text. -/
def lossyChars : List Nat → List Char
  | [] => []
  | b :: rest =>
    if b < 0x80 then
      Char.ofNat b :: lossyChars rest
    else
      match Lead.ofByte? b with
      | none => replacement :: lossyChars rest
      | some lead =>
        let (c, used) := continueFrom lead rest
        c :: lossyChars (rest.drop used)
termination_by bytes => bytes.length
decreasing_by all_goals (simp only [List.length_cons, List.length_drop]; omega)

/-- The text of some bytes, with replacements where they are no text. -/
def lossy (bytes : ByteArray) : String :=
  match ofBytes? bytes with
  | some s => s
  | none => String.ofList (lossyChars (bytes.data.toList.map UInt8.toNat))

end Text
end RingBus
