import RingBus.Proofs.Memory
import RingBus.Ring.Transfer

/-!
# Slots

The slots of a ring lie one behind the other between the header and the end of the segment. A
message is laid into one slot, and of the header only the tail notices; taking a message out only
moves the head.
-/

namespace RingBus
namespace Ring

/-! ## Where the slots lie -/

namespace Geometry

variable (g : Geometry)

/-- Slots lie behind the header. -/
theorem headerSize_le_slotOffset (index : Nat) : headerSize ≤ g.slotOffset index :=
  Nat.le_add_right _ _

/-- The slots follow each other without gaps. -/
theorem slotOffset_succ (index : Nat) :
    g.slotOffset (index + 1) = g.slotOffset index + g.stride := by
  simp only [slotOffset, Nat.add_mul, Nat.one_mul, Nat.add_assoc]

/-- A slot ends before every later one begins. -/
theorem slotOffset_add_stride_le_of_lt {i j : Nat} (h : i < j) :
    g.slotOffset i + g.stride ≤ g.slotOffset j := by
  rw [← slotOffset_succ]
  exact Nat.add_le_add_left (Nat.mul_le_mul_right _ h) _

/-- Two different slots have no byte in common. -/
theorem slots_disjoint {i j : Nat} (h : i ≠ j) :
    g.slotOffset i + g.stride ≤ g.slotOffset j ∨ g.slotOffset j + g.stride ≤ g.slotOffset i := by
  rcases Nat.lt_or_gt_of_ne h with hlt | hgt
  · exact .inl (g.slotOffset_add_stride_le_of_lt hlt)
  · exact .inr (g.slotOffset_add_stride_le_of_lt hgt)

/-- The last slot ends where the segment ends. -/
theorem slotOffset_last_add_stride :
    g.slotOffset (g.slotCount.toNat - 1) + g.stride = g.segmentSize := by
  rw [← slotOffset_succ, Nat.sub_add_cancel g.slotCount_pos]
  rfl

theorem headerSize_le_segmentSize : headerSize ≤ g.segmentSize :=
  Nat.le_add_right _ _

theorem stride_le : g.stride ≤ lengthSize + maxSlotSize :=
  Nat.add_le_add_left g.slotSize_le _

end Geometry

/-- The slot after one of the ring, counted around. -/
theorem toNat_next (g : Geometry) {index : UInt32} (h : index.toNat < g.slotCount.toNat) :
    (next g index).toNat = (index.toNat + 1) % g.slotCount.toNat := by
  have hCount := g.slotCount_le
  -- A ring has far fewer slots than there are indices, so adding one does not wrap around.
  have hSmall : index.toNat + 1 < 2 ^ 32 := by
    rw [maxSlotCount] at hCount
    omega
  simp only [next, UInt32.toNat_mod, UInt32.toNat_add, UInt32.toNat_one]
  rw [Nat.mod_eq_of_lt hSmall]

/-! ## Laying a message down and taking it up -/

/-- The memory with a payload in slot `index` and the tail moved on. -/
def deposited (g : Geometry) (m : Memory) (index : UInt32) (payload : ByteArray) : Memory :=
  ((m.overlay (g.slotOffset index.toNat) (Memory.wordBytes (UInt32.ofNat payload.size))).overlay
    (g.slotOffset index.toNat + lengthSize) payload).overlay
    tailOffset (Memory.wordBytes (next g index))

/-- The memory with the head moved on from slot `index`. -/
def collected (g : Geometry) (m : Memory) (index : UInt32) : Memory :=
  m.overlay headOffset (Memory.wordBytes (next g index))

/-- Slot `index` holds a payload: its length and then its bytes. -/
structure Holds (g : Geometry) (m : Memory) (index : Nat) (payload : ByteArray) : Prop where
  length : m.wordAt (g.slotOffset index) = UInt32.ofNat payload.size
  bytes : m.bytesAt (g.slotOffset index + lengthSize) payload.size = payload

section

variable {g : Geometry} {m : Memory} {index : UInt32} {payload : ByteArray}

@[simp] theorem size_deposited : (deposited g m index payload).size = m.size := rfl

@[simp] theorem size_collected : (collected g m index).size = m.size := rfl

/-- Every slot lies inside the segment. -/
theorem slot_in_segment (hIndex : index.toNat < g.slotCount.toNat) (hFits : g.segmentSize ≤ m.size)
    {len : Nat} (hLen : len ≤ g.slotSize.toNat) :
    g.slotOffset index.toNat + lengthSize + len ≤ m.size := by
  have hSlot := g.slotOffset_add_stride_le hIndex
  have hStride : lengthSize + len ≤ g.stride := Nat.add_le_add_left hLen _
  omega

theorem header_word_in_segment (hFits : g.segmentSize ≤ m.size) {offset : Nat}
    (hOffset : offset + 4 ≤ headerSize) : offset + 4 ≤ m.size :=
  Nat.le_trans hOffset (Nat.le_trans g.headerSize_le_segmentSize hFits)

theorem deposit?_eq (hIndex : index.toNat < g.slotCount.toNat) (hFits : g.segmentSize ≤ m.size)
    (hSize : payload.size ≤ g.slotSize.toNat) :
    deposit? g m index payload = some (deposited g m index payload) := by
  have hLength := slot_in_segment hIndex hFits (Nat.zero_le g.slotSize.toNat)
  let lengthWritten := m.overlay (g.slotOffset index.toNat)
    (Memory.wordBytes (UInt32.ofNat payload.size))
  have hBytes : g.slotOffset index.toNat + lengthSize + payload.size ≤ lengthWritten.size :=
    slot_in_segment hIndex hFits hSize
  have hTail : tailOffset + 4 ≤
      (lengthWritten.overlay (g.slotOffset index.toNat + lengthSize) payload).size :=
    header_word_in_segment hFits (by decide)
  simp only [deposit?, Option.bind_eq_bind]
  rw [Memory.writeWord?_of_le hLength, Option.bind_some, Memory.write?_of_le hBytes,
    Option.bind_some, Memory.writeWord?_of_le hTail]
  rfl

theorem collect?_eq (hIndex : index.toNat < g.slotCount.toNat) (hFits : g.segmentSize ≤ m.size)
    {len : Nat} (hLen : len ≤ g.slotSize.toNat) :
    collect? g m index len =
      some (collected g m index, m.bytesAt (g.slotOffset index.toNat + lengthSize) len) := by
  have hBytes := slot_in_segment hIndex hFits hLen
  have hHead := header_word_in_segment hFits (by decide : headOffset + 4 ≤ headerSize)
  simp only [collect?, Option.bind_eq_bind]
  rw [Memory.read?_of_le hBytes, Option.bind_some, Memory.writeWord?_of_le hHead]
  rfl

/-! ## What changes -/

/-- Laying a message down touches the tail and the front of one slot. -/
theorem byte_deposited {i : Nat} (hTail : i < tailOffset ∨ tailOffset + 4 ≤ i)
    (hSlot : i < g.slotOffset index.toNat ∨
      g.slotOffset index.toNat + lengthSize + payload.size ≤ i) :
    (deposited g m index payload).byte i = m.byte i := by
  rw [deposited, Memory.byte_overlay_outside _ _ _ (by simpa using hTail),
    Memory.byte_overlay_outside _ _ _ (by omega), Memory.byte_overlay_outside]
  rw [Memory.size_wordBytes]
  rw [lengthSize] at hSlot
  omega

/-- Taking a message up touches the head. -/
theorem byte_collected {i : Nat} (hHead : i < headOffset ∨ headOffset + 4 ≤ i) :
    (collected g m index).byte i = m.byte i :=
  Memory.byte_overlay_outside _ _ _ (by simpa using hHead)

theorem wordAt_tail_deposited : (deposited g m index payload).wordAt tailOffset = next g index :=
  Memory.wordAt_overlay_wordBytes _ _ _

theorem wordAt_head_collected : (collected g m index).wordAt headOffset = next g index :=
  Memory.wordAt_overlay_wordBytes _ _ _

/-- The words of the header other than the tail survive a deposit. -/
theorem wordAt_deposited {offset : Nat} (hHeader : offset + 4 ≤ headerSize)
    (hTail : offset + 4 ≤ tailOffset ∨ tailOffset + 4 ≤ offset) :
    (deposited g m index payload).wordAt offset = m.wordAt offset := by
  have hSlot := g.headerSize_le_slotOffset index.toNat
  exact Memory.wordAt_congr fun i _ _ => byte_deposited (by omega) (.inl (by omega))

/-- The words other than the head survive a collection. -/
theorem wordAt_collected {offset : Nat}
    (hHead : offset + 4 ≤ headOffset ∨ headOffset + 4 ≤ offset) :
    (collected g m index).wordAt offset = m.wordAt offset :=
  Memory.wordAt_congr fun i _ _ => byte_collected (by omega)

/-! ## What slots hold -/

theorem holds_congr {m' : Memory} {i : Nat} (h : Holds g m i payload)
    (same : ∀ j, g.slotOffset i ≤ j → j < g.slotOffset i + lengthSize + payload.size →
      m'.byte j = m.byte j) : Holds g m' i payload where
  length := by
    rw [Memory.wordAt_congr fun j _ _ => same j ‹_› (by rw [lengthSize]; omega)]
    exact h.length
  bytes := by
    rw [Memory.bytesAt_congr fun j _ _ => same j (by omega) ‹_›]
    exact h.bytes

/-- A slot holds what was deposited in it. -/
theorem holds_deposited : Holds g (deposited g m index payload) index.toNat payload where
  length := by
    have hSlot := g.headerSize_le_slotOffset index.toNat
    have hHeader : tailOffset + 4 ≤ headerSize := by decide
    have hLength : lengthSize = 4 := rfl
    -- The length is laid down first, and the two later pieces lie beside it.
    rw [deposited, Memory.wordAt_congr (m := m.overlay (g.slotOffset index.toNat)
      (Memory.wordBytes (UInt32.ofNat payload.size)))]
    · exact Memory.wordAt_overlay_wordBytes _ _ _
    · intro i _ _
      rw [Memory.byte_overlay_outside _ _ _ (.inr (by rw [Memory.size_wordBytes]; omega)),
        Memory.byte_overlay_outside _ _ _ (.inl (by omega))]
  bytes := by
    have hSlot := g.headerSize_le_slotOffset index.toNat
    have hHeader : tailOffset + 4 ≤ headerSize := by decide
    -- Of what is laid down after the payload there is only the tail, in the header.
    rw [deposited, Memory.bytesAt_congr (m := (m.overlay (g.slotOffset index.toNat)
      (Memory.wordBytes (UInt32.ofNat payload.size))).overlay
      (g.slotOffset index.toNat + lengthSize) payload)]
    · exact Memory.bytesAt_overlay _ _ _
    · intro i _ _
      rw [Memory.byte_overlay_outside _ _ _ (.inr (by rw [Memory.size_wordBytes]; omega))]

/-- A deposit into one slot leaves what the others hold. -/
theorem holds_deposited_other {i : Nat} {other : ByteArray} (h : Holds g m i other)
    (hOther : other.size ≤ g.slotSize.toNat) (hSize : payload.size ≤ g.slotSize.toNat)
    (hne : i ≠ index.toNat) : Holds g (deposited g m index payload) i other := by
  have hSlot := g.headerSize_le_slotOffset i
  have hHeader : tailOffset + 4 ≤ headerSize := by decide
  have hStride : g.stride = lengthSize + g.slotSize.toNat := rfl
  refine holds_congr h fun j _ _ => byte_deposited (.inr (by omega)) ?_
  rcases g.slots_disjoint hne with hBefore | hAfter
  · exact .inl (by omega)
  · exact .inr (by omega)

/-- Moving the head leaves what the slots hold. -/
theorem holds_collected {i : Nat} (h : Holds g m i payload) :
    Holds g (collected g m index) i payload := by
  have hSlot := g.headerSize_le_slotOffset i
  have hHeader : headOffset + 4 ≤ headerSize := by decide
  exact holds_congr h fun j _ _ => byte_collected (.inr (by omega))

end

end Ring
end RingBus
