import Mathlib.Data.List.DropRight
import RingBus.Discovery.Datagram

/-!
# The words of a datagram

Words that hold no blanks are found again when they were written with single spaces between them,
whatever white space is around them and however many NULs are behind.

* `Datagram.Spaced`: a text that consists of some words and the white space around and between them.
* `Datagram.words_eq_iff`: the words of a text are those that it consists of.
* `Datagram.IsWord`: a text that can be sent as one word.
* `Datagram.words_intercalate`: the words of a line are the words it was made of.
* `Datagram.trimNuls_eq_iff`: the NULs at the end do not count.
* `Text.utf8Encode_ascii`: bytes below 128 are characters of their own.
-/

namespace RingBus

namespace Text

theorem nul_not_mem_of_all_isSpace {cs : List Char} : cs.all isSpace = true → Char.ofNat 0 ∉ cs := by
  intro h hNul
  exact absurd (List.all_eq_true.mp h _ hNul) (by decide)

/-- The characters of bytes that are ASCII. -/
def ascii (bytes : List UInt8) : List Char :=
  bytes.map fun b => Char.ofNat b.toNat

theorem utf8EncodeChar_ascii {b : UInt8} :
    b.toNat < 0x80 → String.utf8EncodeChar (Char.ofNat b.toNat) = [b] := by
  intro h
  have hValid : Nat.isValidChar b.toNat := .inl (by omega)
  have hToNat : (Char.ofNat b.toNat).val.toNat = b.toNat := by
    rw [Char.ofNat, dif_pos hValid]
    rfl
  have hAscii : b.toNat ≤ 0x7F := by omega
  rw [String.utf8EncodeChar, hToNat, if_pos hAscii, UInt8.ofNat_toNat]

theorem utf8Encode_ascii {bytes : List UInt8} :
    (∀ b ∈ bytes, b.toNat < 0x80) → (ascii bytes).utf8Encode = bytes.toByteArray := by
  intro h
  have hBytes : (ascii bytes).flatMap String.utf8EncodeChar = bytes := by
    induction bytes with
    | nil => rfl
    | cons b rest ih =>
      have hRest : ∀ b ∈ rest, b.toNat < 0x80 := by
        intro b hb
        exact h b (.tail _ hb)
      calc (ascii (b :: rest)).flatMap String.utf8EncodeChar
        _ = String.utf8EncodeChar (Char.ofNat b.toNat) ++
              (ascii rest).flatMap String.utf8EncodeChar := List.flatMap_cons
        _ = [b] ++ rest := by rw [utf8EncodeChar_ascii (h b (.head _)), ih hRest]
  rw [List.utf8Encode, hBytes]

/-- ASCII white space: space, tab, line feed, form feed and carriage return. -/
def spaces : List UInt8 := [0x20, 0x09, 0x0A, 0x0C, 0x0D]

theorem lt_of_mem_spaces {b : UInt8} : b ∈ spaces → b.toNat < 0x80 := by
  intro h
  simp only [spaces, List.mem_cons, List.not_mem_nil, or_false] at h
  rcases h with rfl | rfl | rfl | rfl | rfl <;> decide

theorem all_isSpace_ascii {bytes : List UInt8} :
    bytes ⊆ spaces → (ascii bytes).all isSpace = true := by
  intro h
  apply List.all_eq_true.mpr
  intro c hc
  obtain ⟨b, hb, rfl⟩ := List.mem_map.mp hc
  have hSpace := h hb
  simp only [spaces, List.mem_cons, List.not_mem_nil, or_false] at hSpace
  rcases hSpace with rfl | rfl | rfl | rfl | rfl <;> decide

/-- White space is ASCII white space. -/
theorem exists_ascii_eq {cs : List Char} :
    cs.all isSpace = true → ∃ bytes, bytes ⊆ spaces ∧ ascii bytes = cs := by
  intro h
  induction cs with
  | nil => exact ⟨[], List.nil_subset _, rfl⟩
  | cons c cs ih =>
    obtain ⟨hSpace, hRest⟩ := Bool.and_eq_true_iff.mp h
    obtain ⟨bytes, hBytes, rfl⟩ := ih hRest
    -- White space is five characters, each of one byte.
    have hByte : ∃ b ∈ spaces, Char.ofNat b.toNat = c := by
      simp only [isSpace, Bool.or_eq_true, beq_iff_eq] at hSpace
      rw [← Char.ofNat_toNat c]
      rcases hSpace with (((h | h) | h) | h) | h
      all_goals
        rw [h]
        decide
    obtain ⟨b, hMem, rfl⟩ := hByte
    exact ⟨b :: bytes, List.cons_subset.mpr ⟨hMem, hBytes⟩, rfl⟩

end Text

namespace Datagram

/-- A text without white space. -/
structure Unbroken (w : List Char) : Prop where
  nonempty : w ≠ []
  solid : w.any Text.isSpace = false

/-- A text that can be sent as one word. -/
structure IsWord (w : List Char) : Prop where
  nonempty : w ≠ []
  plain : w.any Text.isBlankOrControl = false

/-- A text that consists of words and of the white space around and between them. -/
inductive Spaced : List (List Char) → List Char → Prop
  | blank {gap : List Char} : gap.all Text.isSpace = true → Spaced [] gap
  | word {gap w rest : List Char} {ws : List (List Char)} :
    gap.all Text.isSpace = true → Unbroken w → rest.head?.all Text.isSpace = true →
      Spaced ws rest → Spaced (w :: ws) (gap ++ (w ++ rest))

variable {c d : Char} {cs w lead trail : List Char} {ws : List (List Char)}

theorem isSpace_eq_false_of_plain :
    Text.isBlankOrControl c = false → Text.isSpace c = false := by
  intro h
  by_contra hSpace
  have hBlank := Text.isBlank_of_isSpace (Bool.not_eq_false _ ▸ hSpace)
  simp [Text.isBlankOrControl, hBlank] at h

theorem IsWord.unbroken (hw : IsWord w) : Unbroken w := by
  refine ⟨hw.nonempty, List.any_eq_false.mpr ?_⟩
  intro c hc
  have hPlain := List.any_eq_false.mp hw.plain c hc
  rw [isSpace_eq_false_of_plain (Bool.not_eq_true _ ▸ hPlain)]
  exact Bool.false_ne_true

theorem IsWord.nul_not_mem (hw : IsWord w) : Char.ofNat 0 ∉ w := by
  intro hNul
  exact List.any_eq_false.mp hw.plain _ hNul (by decide)

theorem nul_not_mem_line (hws : ∀ w ∈ ws, IsWord w) : Char.ofNat 0 ∉ [' '].intercalate ws := by
  induction ws with
  | nil => exact List.not_mem_nil
  | cons w rest ih =>
    have hFirst := (hws w (.head _)).nul_not_mem
    have hRest := ih fun w hw => hws w (.tail _ hw)
    cases rest with
    | nil => rwa [List.intercalate_singleton]
    | cons v rest =>
      rw [List.intercalate_cons_cons]
      intro hNul
      rcases List.mem_append.mp hNul with hNul | hNul
      · rcases List.mem_append.mp hNul with hNul | hNul
        · exact hFirst hNul
        · exact absurd (List.mem_singleton.mp hNul) (by decide)
      · exact hRest hNul

theorem words_spaces : lead.all Text.isSpace = true → words lead = [] := by
  intro h
  induction lead with
  | nil => rfl
  | cons c rest ih =>
    obtain ⟨hSpace, hRest⟩ := Bool.and_eq_true_iff.mp h
    rw [words, if_pos hSpace, ih hRest]

theorem words_spaces_append : lead.all Text.isSpace = true → words (lead ++ cs) = words cs := by
  intro h
  induction lead with
  | nil => rfl
  | cons c rest ih =>
    obtain ⟨hSpace, hRest⟩ := Bool.and_eq_true_iff.mp h
    rw [List.cons_append, words, if_pos hSpace, ih hRest]

/-- A word reaches up to the next white space. -/
theorem words_word_append (hw : Unbroken w) :
    cs.head?.all Text.isSpace = true → words (w ++ cs) = w :: words cs := by
  intro hRest
  obtain ⟨hNonempty, hSolid⟩ := hw
  induction w with
  | nil => exact absurd rfl hNonempty
  | cons c w ih =>
    obtain ⟨hc, hw⟩ := Bool.or_eq_false_iff.mp hSolid
    rw [List.cons_append, words, if_neg (Bool.eq_false_iff.mp hc)]
    cases w with
    | nil => rw [List.nil_append, if_pos hRest]
    | cons d w =>
      -- The next character goes on with the same word.
      have hNext : ¬ ((d :: w ++ cs).head?.all Text.isSpace) = true := by
        simp [(Bool.or_eq_false_iff.mp hw).1]
      rw [if_neg hNext, ih (List.cons_ne_nil _ _) hw, List.modifyHead_cons]

/-! ### The words that a text consists of -/

/-- A text has the words that stand in it with white space between them. -/
theorem Spaced.words_eq : Spaced ws cs → words cs = ws := by
  intro h
  induction h with
  | blank hGap => exact words_spaces hGap
  | word hGap hWord hRest _ ih =>
    rw [words_spaces_append hGap, words_word_append hWord hRest, ih]

theorem Spaced.cons_space (h : Spaced ws cs) : Text.isSpace c = true → Spaced ws (c :: cs) := by
  intro hc
  cases h with
  | blank hGap => exact .blank (Bool.and_eq_true_iff.mpr ⟨hc, hGap⟩)
  | @word gap _ _ _ hGap hWord hRest hMore =>
    have hLonger : (c :: gap).all Text.isSpace = true := Bool.and_eq_true_iff.mpr ⟨hc, hGap⟩
    exact .word hLonger hWord hRest hMore

/-- A character that stands right before a word belongs to it. -/
theorem Spaced.cons_letter (h : Spaced ws (d :: cs)) :
    Text.isSpace c = false → Text.isSpace d = false →
      Spaced (ws.modifyHead (c :: ·)) (c :: d :: cs) := by
  intro hc hd
  generalize hText : d :: cs = text at h
  cases h with
  | blank hGap =>
    rw [← hText, List.all_cons, hd] at hGap
    cases hGap
  | @word gap w rest ws hGap hWord hRest hMore =>
    cases gap with
    | cons e gap =>
      -- The text does not begin with white space.
      obtain ⟨he, -⟩ := Bool.and_eq_true_iff.mp hGap
      injection hText with hSame
      rw [← hSame, hd] at he
      cases he
    | nil =>
      have hLonger : Unbroken (c :: w) :=
        ⟨List.cons_ne_nil _ _, Bool.or_eq_false_iff.mpr ⟨hc, hWord.solid⟩⟩
      exact @Spaced.word [] _ _ _ rfl hLonger hRest hMore

/-- Every text is its words with white space between them. -/
theorem spaced_words (cs : List Char) : Spaced (words cs) cs := by
  fun_induction words cs with
  | case1 => exact .blank rfl
  | case2 c rest hSpace ih => exact ih.cons_space hSpace
  | case3 c rest hLetter hEnd ih =>
    have hWord : Unbroken [c] := ⟨List.cons_ne_nil _ _, by simpa using hLetter⟩
    exact @Spaced.word [] [c] _ _ rfl hWord hEnd ih
  | case4 c rest hLetter hGoesOn ih =>
    cases rest with
    | nil => exact absurd rfl hGoesOn
    | cons d rest => exact ih.cons_letter (by simpa using hLetter) (by simpa using hGoesOn)

/-- In front of a word there is white space, and some if the text begins with it. -/
theorem Spaced.exists_gap (h : Spaced (w :: ws) cs) :
    ∃ gap rest, gap ⊆ Text.spaces ∧ cs = Text.ascii gap ++ (w ++ rest) ∧ Spaced ws rest ∧
      rest.head?.all Text.isSpace = true ∧ (cs.head?.all Text.isSpace = true → gap ≠ []) := by
  cases h with
  | @word gap _ rest _ hGap hWord hRest hMore =>
    obtain ⟨bytes, hBytes, rfl⟩ := Text.exists_ascii_eq hGap
    refine ⟨bytes, rest, hBytes, rfl, hMore, hRest, ?_⟩
    rintro hStart rfl
    obtain ⟨c, w, rfl⟩ := List.exists_cons_of_ne_nil hWord.nonempty
    have hSolid := (Bool.or_eq_false_iff.mp hWord.solid).1
    exact absurd (hSolid.symm.trans hStart) Bool.false_ne_true

/-- The words of a text are the only ones that stand in it with white space between them. -/
theorem words_eq_iff : words cs = ws ↔ Spaced ws cs := by
  constructor
  · rintro rfl
    exact spaced_words cs
  · exact Spaced.words_eq

/-! ### Words in a line -/

/-- Words with single spaces between them, and white space behind, are read as these words. -/
theorem words_intercalate (hws : ∀ w ∈ ws, IsWord w) :
    trail.all Text.isSpace = true → words ([' '].intercalate ws ++ trail) = ws := by
  intro hTrail
  induction ws with
  | nil => exact words_spaces hTrail
  | cons w rest ih =>
    have hRest := ih fun w hw => hws w (.tail _ hw)
    cases rest with
    | nil =>
      have hEnd : trail.head?.all Text.isSpace = true := by
        cases trail with
        | nil => rfl
        | cons c _ => exact (Bool.and_eq_true_iff.mp hTrail).1
      -- The last word reaches up to what is behind the line.
      rw [List.intercalate_singleton, words_word_append (hws w (.head _)).unbroken hEnd,
        words_spaces hTrail]
    | cons v rest =>
      rw [List.intercalate_cons_cons, List.append_assoc, List.append_assoc,
        words_word_append (hws w (.head _)).unbroken rfl]
      exact congrArg (w :: ·) hRest

/-! ### NULs at the end -/

theorem trimNuls_append_replicate (n : Nat) :
    cs.getLast? ≠ some (Char.ofNat 0) →
      trimNuls (cs ++ List.replicate n (Char.ofNat 0)) = cs := by
  intro h
  have hNuls : ∀ c ∈ List.replicate n (Char.ofNat 0), (c == Char.ofNat 0) = true := by
    intro c hc
    exact beq_iff_eq.mpr (List.eq_of_mem_replicate hc)
  -- Seen from the end, the first character that is no NUL stops the trimming.
  have hKept : cs.reverse.dropWhile (· == Char.ofNat 0) = cs.reverse := by
    apply List.dropWhile_eq_self_iff.mpr
    intro hLength hNul
    apply h
    rw [List.getLast?_eq_head?_reverse, List.head?_eq_getElem?,
      List.getElem?_eq_getElem hLength, beq_iff_eq.mp hNul]
  rw [trimNuls, List.reverse_append, List.reverse_replicate, List.dropWhile_append_of_pos hNuls,
    hKept, List.reverse_reverse]

theorem getLast?_trimNuls (cs : List Char) : (trimNuls cs).getLast? ≠ some (Char.ofNat 0) := by
  intro h
  rw [trimNuls, List.getLast?_reverse] at h
  have hFirst := List.head?_dropWhile_not (· == Char.ofNat 0) cs.reverse
  rw [h] at hFirst
  exact absurd hFirst (by decide)

theorem exists_eq_trimNuls_append (cs : List Char) :
    ∃ n, cs = trimNuls cs ++ List.replicate n (Char.ofNat 0) := by
  have hNuls : ∀ c ∈ cs.reverse.takeWhile (· == Char.ofNat 0), c = Char.ofNat 0 := by
    intro c hc
    exact beq_iff_eq.mp (List.mem_takeWhile_imp (p := (· == Char.ofNat 0)) hc)
  refine ⟨(cs.reverse.takeWhile (· == Char.ofNat 0)).length, ?_⟩
  rw [trimNuls, ← List.reverse_replicate, ← List.eq_replicate_of_mem hNuls, ← List.reverse_append,
    List.takeWhile_append_dropWhile, List.reverse_reverse]

/-- A text without its trailing NULs is the only part in front of them that does not end in one. -/
theorem trimNuls_eq_iff {body : List Char} :
    trimNuls cs = body ↔
      body.getLast? ≠ some (Char.ofNat 0) ∧
        ∃ n, cs = body ++ List.replicate n (Char.ofNat 0) := by
  constructor
  · rintro rfl
    exact ⟨getLast?_trimNuls cs, exists_eq_trimNuls_append cs⟩
  · rintro ⟨hEnd, n, rfl⟩
    exact trimNuls_append_replicate n hEnd

end Datagram

end RingBus
