import RingBus.Host.Memory

/-!
# What a read notices

Reading looks at the bytes it covers and at nothing else; reading where bytes were laid over
returns them.
-/

namespace RingBus
namespace Memory

variable {m m' : Memory} {offset : Nat}

@[simp] theorem size_wordBytes (w : UInt32) : (wordBytes w).size = 4 := rfl

@[simp] theorem size_data_wordBytes (w : UInt32) : (wordBytes w).data.size = 4 := rfl

@[simp] theorem size_bytesAt (m : Memory) (offset len : Nat) :
    (m.bytesAt offset len).size = len := by
  simp [bytesAt, ByteArray.size]

/-- A number depends on its four bytes only. -/
theorem wordAt_congr (h : ∀ i, offset ≤ i → i < offset + 4 → m'.byte i = m.byte i) :
    m'.wordAt offset = m.wordAt offset := by
  have h0 := h offset (by omega) (by omega)
  have h1 := h (offset + 1) (by omega) (by omega)
  have h2 := h (offset + 2) (by omega) (by omega)
  have h3 := h (offset + 3) (by omega) (by omega)
  simp only [wordAt, h0, h1, h2, h3]

theorem bytesAt_congr {len : Nat} (h : ∀ i, offset ≤ i → i < offset + len → m'.byte i = m.byte i) :
    m'.bytesAt offset len = m.bytesAt offset len := by
  have same : ∀ i : Fin len, m'.byte (offset + i) = m.byte (offset + i) := by
    intro i
    have hi := i.isLt
    exact h _ (by omega) (by omega)
  simp only [bytesAt, same]

/-- Bytes that were written are read back. -/
theorem bytesAt_overlay (m : Memory) (offset : Nat) (bytes : ByteArray) :
    (m.overlay offset bytes).bytesAt offset bytes.size = bytes := by
  apply ByteArray.ext_getElem (size_bytesAt _ _ _)
  intro i _ hi
  have inside := byte_overlay_inside m offset bytes hi
  simpa [bytesAt, ByteArray.getElem_eq_getElem_data] using inside

/-- Bytes that stand one behind the other can be laid down one after the other. -/
theorem overlay_append (m : Memory) (offset : Nat) (a b : Array UInt8) :
    m.overlay offset ⟨a ++ b⟩ = (m.overlay offset ⟨a⟩).overlay (offset + a.size) ⟨b⟩ := by
  have same : ∀ i, (m.overlay offset ⟨a ++ b⟩).byte i =
      ((m.overlay offset ⟨a⟩).overlay (offset + a.size) ⟨b⟩).byte i := by
    intro i
    simp only [overlay, ByteArray.size, ByteArray.getElem_eq_getElem_data, Array.size_append]
    -- Byte `i` lies in the first piece, in the second one, or in neither.
    by_cases hFirst : offset ≤ i ∧ i - offset < a.size
    · rw [dif_pos (by omega), dif_neg (by omega), dif_pos hFirst,
        Array.getElem_append_left hFirst.2]
    · by_cases hSecond : offset + a.size ≤ i ∧ i - (offset + a.size) < b.size
      · rw [dif_pos (by omega), dif_pos hSecond, Array.getElem_append_right (by omega)]
        simp only [Nat.sub_add_eq]
      · rw [dif_neg (by omega), dif_neg hSecond, dif_neg hFirst]
  exact congrArg (Memory.mk m.size) (funext same)

/-- Of two pieces of one size at one place the later one stays. -/
theorem overlay_overlay (m : Memory) (offset : Nat) {a b : ByteArray} (h : a.size = b.size) :
    (m.overlay offset a).overlay offset b = m.overlay offset b := by
  have same : ∀ i, ((m.overlay offset a).overlay offset b).byte i = (m.overlay offset b).byte i := by
    intro i
    simp only [overlay, h]
    split <;> rfl
  exact congrArg (Memory.mk m.size) (funext same)

/-- A word that is written where it stands already changes nothing. -/
theorem overlay_wordAt (m : Memory) (offset : Nat) :
    m.overlay offset (wordBytes (m.wordAt offset)) = m := by
  have same : ∀ i, (m.overlay offset (wordBytes (m.wordAt offset))).byte i = m.byte i := by
    intro i
    by_cases h : i < offset ∨ offset + 4 ≤ i
    · exact byte_overlay_outside m offset _ h
    · obtain ⟨k, rfl⟩ := Nat.exists_eq_add_of_le (Nat.le_of_not_lt (not_or.mp h).1)
      have hk : k < 4 := by omega
      rw [byte_overlay_inside m offset (wordBytes (m.wordAt offset)) hk]
      -- The four bytes of the word are the four bytes it was made of.
      have h0 := (m.byte offset).toNat_lt
      have h1 := (m.byte (offset + 1)).toNat_lt
      have h2 := (m.byte (offset + 2)).toNat_lt
      have h3 := (m.byte (offset + 3)).toNat_lt
      apply UInt8.toNat_inj.mp
      rcases (by omega : k = 0 ∨ k = 1 ∨ k = 2 ∨ k = 3) with rfl | rfl | rfl | rfl <;>
        simp only [wordBytes, wordAt, ByteArray.getElem_eq_getElem_data, List.getElem_toArray,
          List.getElem_cons_zero, List.getElem_cons_succ, UInt8.toNat_ofNat',
          UInt32.toNat_ofNat', Nat.add_zero] <;>
        omega
  exact congrArg (Memory.mk m.size) (funext same)

/-- Laying bytes elsewhere does not change a word. -/
theorem wordAt_overlay_outside (m : Memory) {at_ : Nat} {bytes : ByteArray}
    (h : offset + 4 ≤ at_ ∨ at_ + bytes.size ≤ offset) :
    (m.overlay at_ bytes).wordAt offset = m.wordAt offset :=
  wordAt_congr fun i _ _ => byte_overlay_outside m at_ bytes (by omega)

/-! ## Accesses inside the segment -/

theorem read?_of_le {len : Nat} (h : offset + len ≤ m.size) :
    m.read? offset len = some (m.bytesAt offset len) := by
  simp [read?, covers, h]

theorem readWord?_of_le (h : offset + 4 ≤ m.size) :
    m.readWord? offset = some (m.wordAt offset) := by
  simp [readWord?, covers, h]

theorem wordAt_of_readWord? {w : UInt32} :
    m.readWord? offset = some w → m.wordAt offset = w := by
  intro h
  unfold readWord? at h
  split at h
  · exact Option.some.inj h
  · cases h

theorem write?_of_le {bytes : ByteArray} (h : offset + bytes.size ≤ m.size) :
    m.write? offset bytes = some (m.overlay offset bytes) := by
  simp [write?, covers, h]

theorem writeWord?_of_le {w : UInt32} (h : offset + 4 ≤ m.size) :
    m.writeWord? offset w = some (m.overlay offset (wordBytes w)) :=
  write?_of_le h

end Memory
end RingBus
