import RingBus.Proofs.Discovery.Listing
import RingBus.Proofs.Discovery.Words

/-!
# Messages survive being sent

What is read from the bytes of a message is the message itself, to the letter of every field. White
space around the bytes and NULs behind them do no harm.

* `Message.tokens`: the words of a message, each of which is one word for the reader too.
* `Message.readWords_tokens`: the words are read as the message.
* `Message.parse_padded`: so are its bytes, in white space and before NULs.
-/

namespace RingBus

/-- What may stand in a key lies between the exclamation mark and the small z. -/
theorem toNat_of_isKeyChar {c : Char} :
    isKeyChar c = true → '!'.toNat ≤ c.toNat ∧ c.toNat ≤ 'z'.toNat := by
  intro h
  have between {low high : Char} (hLow : low.val ≤ c.val) (hHigh : c.val ≤ high.val)
      (hFirst : '!'.toNat ≤ low.toNat) (hLast : high.toNat ≤ 'z'.toNat) :
      '!'.toNat ≤ c.toNat ∧ c.toNat ≤ 'z'.toNat :=
    ⟨Nat.le_trans hFirst (UInt32.le_iff_toNat_le.mp hLow),
      Nat.le_trans (UInt32.le_iff_toNat_le.mp hHigh) hLast⟩
  simp only [isKeyChar, Bool.or_eq_true, beq_iff_eq] at h
  rcases h with ((hAlphanum | rfl) | rfl) | rfl
  · rcases Bool.or_eq_true_iff.mp hAlphanum with hAlpha | hDigit
    · rcases Bool.or_eq_true_iff.mp hAlpha with hUpper | hLower
      · obtain ⟨hLow, hHigh⟩ := of_decide_eq_true hUpper
        exact between hLow hHigh (by decide) (by decide)
      · obtain ⟨hLow, hHigh⟩ := Bool.and_eq_true_iff.mp hLower
        exact between (of_decide_eq_true hLow) (of_decide_eq_true hHigh) (by decide) (by decide)
    · obtain ⟨hLow, hHigh⟩ := Bool.and_eq_true_iff.mp hDigit
      exact between (of_decide_eq_true hLow) (of_decide_eq_true hHigh) (by decide) (by decide)
  · decide
  · decide
  · decide

theorem isBlankOrControl_of_isKeyChar {c : Char} :
    isKeyChar c = true → Text.isBlankOrControl c = false := by
  intro h
  obtain ⟨hLow, hHigh⟩ := toNat_of_isKeyChar h
  have hFirst : '!'.toNat = 0x21 := rfl
  have hLast : 'z'.toNat = 0x7A := rfl
  simp only [Text.isBlankOrControl, Text.isBlank, Text.isControl, Bool.or_eq_false_iff,
    Bool.and_eq_false_iff, decide_eq_false_iff_not, beq_eq_false_iff_ne]
  omega

namespace Datagram

/-- The word for a ring is read as the ring, or as none. -/
theorem readRing_ringWord (ring : Option RingName) :
    readRing (Message.ringWord ring) = .ok ring := by
  cases ring with
  | none => rfl
  | some name =>
    -- A name begins with a slash, so it is not taken for a missing one.
    have hSlash := name.wellFormed.slash
    have hName : ¬ (name.text = Message.noRing ∨ name.text = noRingToo) := by
      rintro (h | h)
      all_goals
        rw [h] at hSlash
        exact absurd hSlash (by decide)
    rw [Message.ringWord, readRing, if_neg hName, RingName.ofString, RingName.check_text]
    rfl

end Datagram

namespace Message

open Datagram (IsWord)

/-- The words of a message. -/
def tokens (m : Message) : List String :=
  [m.command.word, m.key.text, m.participant.endpoint.text, ringWord m.participant.ring]

theorem toList_render (m : Message) :
    m.render.toList = [' '].intercalate (m.tokens.map String.toList) := by
  simp [render, tokens, List.intercalate_cons_cons, toString]

theorem isWord_command (c : Command) : IsWord c.word.toList := by
  cases c <;> constructor <;> decide

theorem isWord_key (key : ServiceKey) : IsWord key.text.toList := by
  constructor
  · intro hEmpty
    exact key.nonempty (String.toList_inj.mp hEmpty)
  · apply List.any_eq_false.mpr
    intro c hc
    rw [isBlankOrControl_of_isKeyChar (List.all_eq_true.mp key.plain c hc)]
    exact Bool.false_ne_true

theorem isWord_endpoint (e : Endpoint) : IsWord e.text.toList := by
  refine ⟨?_, e.plain⟩
  intro hEmpty
  have hAbsolute := e.absolute
  rw [Path.isAbsolute, hEmpty] at hAbsolute
  cases hAbsolute

theorem isWord_ring (ring : Option RingName) : IsWord (ringWord ring).toList := by
  cases ring with
  | none => constructor <;> decide
  | some name =>
    refine ⟨?_, name.wellFormed.plain⟩
    intro hEmpty
    have hSlash := name.wellFormed.slash
    rw [ringWord] at hEmpty
    rw [hEmpty] at hSlash
    cases hSlash

/-- All words of a message are words: they hold something, and no white space or NUL. -/
theorem isWord_of_mem_tokens (m : Message) : ∀ w ∈ m.tokens.map String.toList, IsWord w := by
  intro w hw
  simp only [tokens, List.map_cons, List.map_nil, List.mem_cons, List.not_mem_nil, or_false] at hw
  rcases hw with rfl | rfl | rfl | rfl
  · exact isWord_command _
  · exact isWord_key _
  · exact isWord_endpoint _
  · exact isWord_ring _

/-- The words of a message mean the message. -/
theorem readWords_tokens (m : Message) : Datagram.readWords m.tokens = .ok m := by
  simp only [tokens, Datagram.readWords, Command.ofWord?_word, Datagram.readFields,
    ServiceKey.ofString, ServiceKey.check_text, Endpoint.ofString, Endpoint.check_text,
    Datagram.readRing_ringWord]
  rfl

/-- Every message fits in a datagram, with room to spare. -/
theorem size_encode_le (m : Message) : m.encode.size ≤ 384 := by
  have hKey := m.key.short
  have hEndpoint := m.participant.endpoint.short
  have hCommand : m.command.word.utf8ByteSize ≤ 10 := by
    cases m.command <;> decide
  have hRing : (ringWord m.participant.ring).utf8ByteSize ≤ 200 := by
    cases m.participant.ring with
    | none => decide
    | some name => exact name.wellFormed.short
  have hSpace : " ".utf8ByteSize = 1 := rfl
  -- Four words and the three spaces between them.
  have hSize : m.encode.size = m.command.word.utf8ByteSize + m.key.text.utf8ByteSize +
      m.participant.endpoint.text.utf8ByteSize + (ringWord m.participant.ring).utf8ByteSize + 3 := by
    simp only [encode, render, toString, String.size_toByteArray, String.utf8ByteSize_append,
      hSpace]
    omega
  simp only [ServiceKey.maxLength, Endpoint.maxLength] at hKey hEndpoint
  omega

/-- The words of a message are found in white space and before NULs. -/
theorem words_padded (m : Message) {lead trail : List Char} (nuls : Nat) :
    lead.all Text.isSpace = true → trail.all Text.isSpace = true →
      (Datagram.words (Datagram.trimNuls
          (lead ++ m.render.toList ++ trail ++ List.replicate nuls (Char.ofNat 0)))).map
        String.ofList = m.tokens := by
  intro hLead hTrail
  -- No NUL is taken off but those that were added.
  have hNul : Char.ofNat 0 ∉ lead ++ m.render.toList ++ trail := by
    rw [toList_render]
    intro h
    rcases List.mem_append.mp h with h | h
    · rcases List.mem_append.mp h with h | h
      · exact Text.nul_not_mem_of_all_isSpace hLead h
      · exact Datagram.nul_not_mem_line m.isWord_of_mem_tokens h
    · exact Text.nul_not_mem_of_all_isSpace hTrail h
  have hEnd : (lead ++ m.render.toList ++ trail).getLast? ≠ some (Char.ofNat 0) := by
    intro h
    exact hNul (List.mem_of_getLast? h)
  rw [Datagram.trimNuls_append_replicate nuls hEnd, List.append_assoc,
    Datagram.words_spaces_append hLead, toList_render,
    Datagram.words_intercalate m.isWord_of_mem_tokens hTrail]
  simp

/-- A message in white space and before NULs. -/
def padded (m : Message) (lead trail : List UInt8) (nuls : Nat) : ByteArray :=
  lead.toByteArray ++ m.encode ++ trail.toByteArray ++ (List.replicate nuls 0).toByteArray

/-- A message is read from its bytes with white space around them and NULs behind, up to the largest
size. -/
theorem parse_padded (m : Message) {lead trail : List UInt8} (nuls : Nat) :
    lead ⊆ Text.spaces → trail ⊆ Text.spaces →
      (m.padded lead trail nuls).size ≤ Datagram.maxSize →
        Datagram.parse (m.padded lead trail nuls) = .ok m := by
  intro hLead hTrail hSize
  -- All that was added is ASCII, so the bytes are those of a text.
  have hText : (String.ofList (Text.ascii lead ++ m.render.toList ++ Text.ascii trail ++
      List.replicate nuls (Char.ofNat 0))).toByteArray = m.padded lead trail nuls := by
    have hNuls : List.replicate nuls (Char.ofNat 0) = Text.ascii (List.replicate nuls 0) := by
      rw [Text.ascii, List.map_replicate]
      rfl
    have hNulsAscii : ∀ b ∈ List.replicate nuls (0 : UInt8), b.toNat < 0x80 := by
      intro b hb
      rw [List.eq_of_mem_replicate hb]
      decide
    rw [hNuls, String.toByteArray_ofList, List.utf8Encode_append, List.utf8Encode_append,
      List.utf8Encode_append, String.utf8Encode_toList,
      Text.utf8Encode_ascii fun b hb => Text.lt_of_mem_spaces (hLead hb),
      Text.utf8Encode_ascii fun b hb => Text.lt_of_mem_spaces (hTrail hb),
      Text.utf8Encode_ascii hNulsAscii]
    rfl
  rw [Datagram.parse, if_neg (Nat.not_lt.mpr hSize), ← hText, Text.ofBytes?_toByteArray]
  simp only [String.toList_ofList]
  rw [words_padded m nuls (Text.all_isSpace_ascii hLead) (Text.all_isSpace_ascii hTrail),
    readWords_tokens]

/-- A message is read from its own bytes. -/
theorem parse_encode (m : Message) : Datagram.parse m.encode = .ok m := by
  have hBare : m.padded [] [] 0 = m.encode := by simp [padded]
  have hSize : m.encode.size ≤ Datagram.maxSize := Nat.le_trans m.size_encode_le (by decide)
  rw [← hBare] at hSize ⊢
  exact m.parse_padded 0 (List.nil_subset _) (List.nil_subset _) hSize

/-- The bytes of a message fit in a datagram and are read as the message, also in white space and
before NULs as long as all of it fits; so no other message has the same bytes. -/
theorem decoding_undoes_encoding (m : Message) :
    m.encode.size ≤ Datagram.maxSize ∧ Datagram.parse m.encode = .ok m ∧
      (∀ (lead trail : List UInt8) (nuls : Nat), lead ⊆ Text.spaces → trail ⊆ Text.spaces →
        (m.padded lead trail nuls).size ≤ Datagram.maxSize →
          Datagram.parse (m.padded lead trail nuls) = .ok m) ∧
      ∀ m' : Message, m'.encode = m.encode → m' = m := by
  refine ⟨Nat.le_trans m.size_encode_le (by decide), m.parse_encode, ?_, ?_⟩
  · intro lead trail nuls hLead hTrail hSize
    exact m.parse_padded nuls hLead hTrail hSize
  · intro m' hSame
    have hRead : Except.ok m' = (Except.ok m : Except DatagramFault Message) := by
      rw [← parse_encode m', hSame, parse_encode m]
    injection hRead

open Listing.Sample

/-- A message between a line feed and a tab, with three NULs behind. -/
theorem decoding_undoes_encoding_padded :
    Datagram.parse ((⟨.peer, meeting, bobAgain⟩ : Message).padded [0x0A] [0x09] 3) =
      .ok ⟨.peer, meeting, bobAgain⟩ :=
  (decoding_undoes_encoding ⟨.peer, meeting, bobAgain⟩).2.2.1 [0x0A] [0x09] 3 (by decide)
    (by decide) (by decide)

end Message

end RingBus
