/-!
# Shared memory

A segment is a row of bytes of fixed size that every handle sees alike. Reads and writes are
checked against the size; numbers are stored with the low byte first.
-/

namespace RingBus

structure Memory where
  size : Nat
  byte : Nat → UInt8

instance : Inhabited Memory := ⟨⟨0, fun _ => 0⟩⟩

namespace Memory

def zeroed (size : Nat) : Memory :=
  ⟨size, fun _ => 0⟩

/-- Whether `len` bytes from an offset on lie inside. -/
def covers (m : Memory) (offset len : Nat) : Bool :=
  decide (offset + len ≤ m.size)

def bytesAt (m : Memory) (offset len : Nat) : ByteArray :=
  ⟨Array.ofFn fun i : Fin len => m.byte (offset + i)⟩

/-- The memory with `bytes` laid over it from an offset on. -/
def overlay (m : Memory) (offset : Nat) (bytes : ByteArray) : Memory :=
  { m with
    byte := fun i =>
      if h : offset ≤ i ∧ i - offset < bytes.size then bytes[i - offset] else m.byte i }

/-- Reads `len` bytes if they lie inside. -/
def read? (m : Memory) (offset len : Nat) : Option ByteArray :=
  if m.covers offset len then some (m.bytesAt offset len) else none

/-- Writes bytes if they fit inside. -/
def write? (m : Memory) (offset : Nat) (bytes : ByteArray) : Option Memory :=
  if m.covers offset bytes.size then some (m.overlay offset bytes) else none

/-! ## Numbers -/

/-- A number as four bytes, low byte first. -/
def wordBytes (w : UInt32) : ByteArray :=
  let n := w.toNat
  ⟨#[UInt8.ofNat n, UInt8.ofNat (n / 0x100), UInt8.ofNat (n / 0x10000),
     UInt8.ofNat (n / 0x1000000)]⟩

/-- The number whose four bytes begin at an offset. -/
def wordAt (m : Memory) (offset : Nat) : UInt32 :=
  UInt32.ofNat ((m.byte offset).toNat + 0x100 * (m.byte (offset + 1)).toNat +
    0x10000 * (m.byte (offset + 2)).toNat + 0x1000000 * (m.byte (offset + 3)).toNat)

def readWord? (m : Memory) (offset : Nat) : Option UInt32 :=
  if m.covers offset 4 then some (m.wordAt offset) else none

def writeWord? (m : Memory) (offset : Nat) (w : UInt32) : Option Memory :=
  m.write? offset (wordBytes w)

theorem byte_overlay_outside (m : Memory) (offset : Nat) (bytes : ByteArray) {i : Nat}
    (h : i < offset ∨ offset + bytes.size ≤ i) :
    (m.overlay offset bytes).byte i = m.byte i := by
  simp only [overlay]
  rw [dif_neg]
  omega

theorem byte_overlay_inside (m : Memory) (offset : Nat) (bytes : ByteArray) {i : Nat}
    (h : i < bytes.size) : (m.overlay offset bytes).byte (offset + i) = bytes[i] := by
  simp only [overlay, Nat.add_sub_cancel_left]
  rw [dif_pos ⟨Nat.le_add_right offset i, h⟩]

/-- A number that was written is read back. -/
theorem wordAt_overlay_wordBytes (m : Memory) (offset : Nat) (w : UInt32) :
    (m.overlay offset (wordBytes w)).wordAt offset = w := by
  have size : (wordBytes w).size = 4 := rfl
  have inside : ∀ i (h : i < 4), (m.overlay offset (wordBytes w)).byte (offset + i) =
      (wordBytes w)[i] := fun i h => byte_overlay_inside m offset (wordBytes w) (size ▸ h)
  have e0 : (m.overlay offset (wordBytes w)).byte offset = UInt8.ofNat w.toNat :=
    inside 0 (by decide)
  have e1 : (m.overlay offset (wordBytes w)).byte (offset + 1) =
      UInt8.ofNat (w.toNat / 0x100) := inside 1 (by decide)
  have e2 : (m.overlay offset (wordBytes w)).byte (offset + 2) =
      UInt8.ofNat (w.toNat / 0x10000) := inside 2 (by decide)
  have e3 : (m.overlay offset (wordBytes w)).byte (offset + 3) =
      UInt8.ofNat (w.toNat / 0x1000000) := inside 3 (by decide)
  have bound : w.toNat < 2 ^ 32 := w.toNat_lt
  apply UInt32.toNat_inj.mp
  simp only [wordAt, e0, e1, e2, e3, UInt8.toNat_ofNat', UInt32.toNat_ofNat']
  omega

end Memory
end RingBus
