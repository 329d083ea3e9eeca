import RingBus.Proofs.Discovery.RoundTrip

/-!
# The grammar of datagrams

What a datagram may look like, said without the reader: four words, ASCII white space between and
around them, and NULs at the end. The reader accepts exactly that, and reports the first rule that a
datagram breaks.

* `Datagram.Holds`: the words that the bytes of a datagram are made of.
* `Datagram.RingWord`: the words that stand for a ring, or for none.
* `Datagram.Misread`: the first rule that some words break, and how that is reported.
* `Datagram.Rejected`: the same for the bytes of a datagram.
* `Datagram.Layout`: four words, and what stands between and around them.
-/

namespace RingBus
namespace Datagram

variable {d : ByteArray} {m : Message} {ws : List String} {fault : DatagramFault}
  {command : Command} {word key endpoint ring : String} {name : Option RingName}

/-! ## Fields -/

/-- A value is read from its own text and from no other. -/
theorem mapError_eq_ok_iff {ε α : Type} {check : String → Except ε α} {text : α → String}
    {report : ε → FieldError} {a : α} (check_text : ∀ a, check (text a) = .ok a)
    (text_of_check : ∀ {s a}, check s = .ok a → text a = s) :
    (check word).mapError report = .ok a ↔ text a = word := by
  constructor
  · intro h
    cases hCheck : check word with
    | ok b =>
      rw [hCheck] at h
      injection h with hSame
      rw [← hSame, text_of_check hCheck]
    | error fault =>
      rw [hCheck] at h
      cases h
  · rintro rfl
    rw [check_text]
    rfl

/-- The words that stand for the ring of a participant, or for none. -/
inductive RingWord : String → Option RingName → Prop
  | hyphen : RingWord Message.noRing none
  | none : RingWord noRingToo none
  | name (ring : RingName) : RingWord ring.text (some ring)

/-- The word for a ring is a ring name, or one of the two words for a missing ring. -/
theorem readRing_eq_ok_iff : readRing ring = .ok name ↔ RingWord ring name := by
  constructor
  · intro h
    unfold readRing at h
    split at h
    next hNone =>
      injection h with hSame
      subst hSame
      rcases hNone with rfl | rfl
      · exact .hyphen
      · exact .none
    next =>
      cases hRead : RingName.ofString ring with
      | ok r =>
        rw [hRead] at h
        injection h with hSame
        subst hSame
        have hText := (mapError_eq_ok_iff RingName.check_text RingName.text_of_check).mp hRead
        subst hText
        exact .name r
      | error e =>
        rw [hRead] at h
        cases h
  · intro h
    cases h with
    | hyphen => exact readRing_ringWord none
    | none => rfl
    | name r => exact readRing_ringWord (some r)

theorem isWord_of_ringWord : RingWord ring name → IsWord ring.toList := by
  intro h
  cases h with
  | hyphen => exact Message.isWord_ring none
  | none => constructor <;> decide
  | name r => exact Message.isWord_ring (some r)

/-! ## Words -/

/-- What some words mean, if they are a message. -/
inductive Means : List String → Message → Prop
  | message (m : Message) {ring : String} :
    RingWord ring m.participant.ring →
      Means [m.command.word, m.key.text, m.participant.endpoint.text, ring] m

/-- The first rule that some words break, and how that is reported: there has to be a word, the
first is a command, there are four, and the others are a key, an endpoint and a word for a ring. -/
inductive Misread : List String → DatagramFault → Prop
  | empty : Misread [] .empty
  | unknownCommand {first : String} {rest : List String} :
    (∀ c : Command, c.word ≠ first) → Misread (first :: rest) (.unknownCommand first)
  | wrongWordCount {c : Command} {rest : List String} :
    (c.word :: rest).length ≠ wordCount →
      Misread (c.word :: rest) (.wrongWordCount c (c.word :: rest).length)
  | key {c : Command} {word endpoint ring : String} {fault : ServiceKey.Fault} :
    (∀ k : ServiceKey, k.text ≠ word) → ServiceKey.check word = .error fault →
      Misread [c.word, word, endpoint, ring] (.invalidField "service_key" fault.reason)
  | endpoint {c : Command} {k : ServiceKey} {word ring : String} {fault : Endpoint.Fault} :
    (∀ e : Endpoint, e.text ≠ word) → Endpoint.check word = .error fault →
      Misread [c.word, k.text, word, ring] (.invalidField "endpoint" fault.reason)
  | ring {c : Command} {k : ServiceKey} {e : Endpoint} {word : String} {fault : RingName.Fault} :
    (∀ name, ¬ RingWord word name) → RingName.check word = .error fault →
      Misread [c.word, k.text, e.text, word] (.invalidField "shm_name" fault.reason)

theorem ofWord?_eq_none_iff : Command.ofWord? word = none ↔ ∀ c : Command, c.word ≠ word := by
  constructor
  · rintro h c rfl
    rw [Command.ofWord?_word] at h
    cases h
  · intro h
    apply List.find?_eq_none.mpr
    intro c _ hWord
    exact h c (beq_iff_eq.mp hWord)

theorem word_of_ofWord? : Command.ofWord? word = some command → command.word = word := by
  intro h
  exact beq_iff_eq.mp (List.find?_some (p := fun c => Command.word c == word) h)

theorem readWords_four (command : Command) :
    readWords [command.word, key, endpoint, ring] =
      (readFields command key endpoint ring).mapError DatagramFault.ofFieldError := by
  simp only [readWords, Command.ofWord?_word]

theorem readWords_of_means : Means ws m → readWords ws = .ok m := by
  rintro ⟨m, hRing⟩
  rw [readWords_four]
  simp only [readFields, ServiceKey.ofString, ServiceKey.check_text, Endpoint.ofString,
    Endpoint.check_text, readRing_eq_ok_iff.mpr hRing]
  rfl

theorem readWords_of_misread : Misread ws fault → readWords ws = .error fault := by
  intro h
  cases h with
  | empty => rfl
  | unknownCommand hUnknown => simp only [readWords, ofWord?_eq_none_iff.mpr hUnknown]
  | @wrongWordCount c rest hCount =>
    simp only [readWords, Command.ofWord?_word]
    split
    next => exact absurd rfl hCount
    next => rfl
  | key _ hCheck =>
    rw [readWords_four]
    simp only [readFields, ServiceKey.ofString, hCheck]
    rfl
  | endpoint _ hCheck =>
    rw [readWords_four]
    simp only [readFields, ServiceKey.ofString, ServiceKey.check_text, Endpoint.ofString, hCheck]
    rfl
  | @ring c k e word _ hNot hCheck =>
    have hNone : ¬ (word = Message.noRing ∨ word = noRingToo) := by
      rintro (rfl | rfl)
      · exact hNot _ .hyphen
      · exact hNot _ .none
    -- Key and endpoint are read as they were written, so the ring is looked at.
    rw [readWords_four]
    simp only [readFields, ServiceKey.ofString, ServiceKey.check_text, Endpoint.ofString,
      Endpoint.check_text, readRing, if_neg hNone, RingName.ofString, hCheck]
    rfl

/-- A text that turned out not to be a value is not the text of any. -/
theorem text_ne_of_check_error {ε α : Type} {check : String → Except ε α} {text : α → String}
    (check_text : ∀ a, check (text a) = .ok a) {e : ε} :
    check word = .error e → ∀ a, text a ≠ word := by
  rintro h a rfl
  rw [check_text] at h
  cases h

/-- Some words mean a message, and all others are misread in one way. -/
theorem means_or_misread (ws : List String) :
    (∃ m, Means ws m) ∨ ∃ fault, Misread ws fault := by
  cases ws with
  | nil => exact .inr ⟨_, .empty⟩
  | cons first rest =>
    cases hCommand : Command.ofWord? first with
    | none => exact .inr ⟨_, .unknownCommand (ofWord?_eq_none_iff.mp hCommand)⟩
    | some c =>
      obtain rfl := word_of_ofWord? hCommand
      by_cases hCount : (c.word :: rest).length = wordCount
      · obtain ⟨key, endpoint, ring, rfl⟩ := List.length_eq_three.mp (Nat.succ.inj hCount)
        -- The fields are checked one after the other.
        cases hKey : ServiceKey.check key with
        | error fault =>
          exact .inr ⟨_, .key (text_ne_of_check_error ServiceKey.check_text hKey) hKey⟩
        | ok k =>
          obtain rfl := ServiceKey.text_of_check hKey
          cases hEndpoint : Endpoint.check endpoint with
          | error fault =>
            have hNot := text_ne_of_check_error Endpoint.check_text hEndpoint
            exact .inr ⟨_, .endpoint hNot hEndpoint⟩
          | ok e =>
            obtain rfl := Endpoint.text_of_check hEndpoint
            by_cases hRing : ∃ name, RingWord ring name
            · obtain ⟨name, hRing⟩ := hRing
              exact .inl ⟨⟨c, k, ⟨e, name⟩⟩, .message ⟨c, k, ⟨e, name⟩⟩ hRing⟩
            · have hNot : ∀ name, ¬ RingWord ring name := not_exists.mp hRing
              cases hName : RingName.check ring with
              | error fault => exact .inr ⟨_, .ring hNot hName⟩
              | ok name =>
                -- A valid name stands for its ring.
                obtain rfl := RingName.text_of_check hName
                exact absurd (.name name) (hNot _)
      · exact .inr ⟨_, .wrongWordCount hCount⟩

theorem isWord_of_means (hMeans : Means ws m) : ∀ w ∈ ws, IsWord w.toList := by
  intro w hw
  obtain ⟨m, hRing⟩ := hMeans
  simp only [List.mem_cons, List.not_mem_nil, or_false] at hw
  rcases hw with rfl | rfl | rfl | rfl
  · exact Message.isWord_command _
  · exact Message.isWord_key _
  · exact Message.isWord_endpoint _
  · exact isWord_of_ringWord hRing

/-! ## Bytes -/

/-- The words that the bytes of a datagram are made of: the bytes are text, and the NULs at its end
do not count. -/
def Holds (ws : List String) (d : ByteArray) : Prop :=
  ∃ (text : String) (line : List Char) (nuls : Nat),
    text.toByteArray = d ∧ text.toList = line ++ List.replicate nuls (Char.ofNat 0) ∧
      line.getLast? ≠ some (Char.ofNat 0) ∧ Spaced (ws.map String.toList) line

/-- The first rule that a datagram breaks, and how that is reported. -/
inductive Rejected (d : ByteArray) : DatagramFault → Prop
  | oversized : maxSize < d.size → Rejected d (.oversized d.size)
  | notText : d.size ≤ maxSize → (∀ text : String, text.toByteArray ≠ d) → Rejected d .notText
  | misread {ws : List String} {fault : DatagramFault} :
    d.size ≤ maxSize → Holds ws d → Misread ws fault → Rejected d fault

/-- A text holds the words that are left when trailing NULs are cut off. -/
theorem holds_iff {text : String} :
    text.toByteArray = d →
      (Holds ws d ↔ (words (trimNuls text.toList)).map String.ofList = ws) := by
  rintro rfl
  constructor
  · rintro ⟨text', line, nuls, hText, hLine, hEnd, hSpaced⟩
    obtain rfl := String.toByteArray_inj.mp hText
    rw [trimNuls_eq_iff.mpr ⟨hEnd, nuls, hLine⟩, hSpaced.words_eq, List.map_map]
    simp
  · rintro rfl
    obtain ⟨hEnd, nuls, hLine⟩ := trimNuls_eq_iff.mp (Eq.refl (trimNuls text.toList))
    refine ⟨text, _, nuls, rfl, hLine, hEnd, ?_⟩
    rw [List.map_map, ← words_eq_iff]
    simp

theorem parse_of_holds : d.size ≤ maxSize → Holds ws d → parse d = readWords ws := by
  intro hSize h
  obtain ⟨text, _, _, hText, _⟩ := id h
  have hWords := (holds_iff hText).mp h
  subst hText
  rw [parse, if_neg (Nat.not_lt.mpr hSize), Text.ofBytes?_toByteArray]
  exact congrArg readWords hWords

theorem parse_of_not_text :
    d.size ≤ maxSize → (∀ text : String, text.toByteArray ≠ d) → parse d = .error .notText := by
  intro hSize hNot
  have hNone : Text.ofBytes? d = none := by
    apply Option.eq_none_iff_forall_ne_some.mpr
    intro text hText
    exact hNot text (Text.toByteArray_of_ofBytes? hText)
  rw [parse, if_neg (Nat.not_lt.mpr hSize), hNone]

theorem parse_of_rejected : Rejected d fault → parse d = .error fault := by
  intro h
  cases h with
  | oversized hSize => rw [parse, if_pos hSize]
  | notText hSize hNot => exact parse_of_not_text hSize hNot
  | misread hSize hHolds hMisread =>
    rw [parse_of_holds hSize hHolds]
    exact readWords_of_misread hMisread

theorem parse_of_means : d.size ≤ maxSize → Holds ws d → Means ws m → parse d = .ok m := by
  intro hSize hHolds hMeans
  rw [parse_of_holds hSize hHolds]
  exact readWords_of_means hMeans

/-- Every datagram means a message, or is rejected for a reason. -/
theorem means_or_rejected (d : ByteArray) :
    (∃ m ws, d.size ≤ maxSize ∧ Holds ws d ∧ Means ws m) ∨ ∃ fault, Rejected d fault := by
  by_cases hSize : d.size ≤ maxSize
  · by_cases hText : ∃ text : String, text.toByteArray = d
    · obtain ⟨text, hText⟩ := hText
      have hHolds := (holds_iff hText).mpr rfl
      rcases means_or_misread _ with ⟨m, hMeans⟩ | ⟨fault, hMisread⟩
      · exact .inl ⟨m, _, hSize, hHolds, hMeans⟩
      · exact .inr ⟨fault, .misread hSize hHolds hMisread⟩
    · exact .inr ⟨_, .notText hSize (not_exists.mp hText)⟩
  · exact .inr ⟨_, .oversized (Nat.not_le.mp hSize)⟩

/-- A message is read from a datagram if and only if the datagram is short enough, holds words, and
these mean the message. -/
theorem parse_eq_ok_iff :
    parse d = .ok m ↔ ∃ ws, d.size ≤ maxSize ∧ Holds ws d ∧ Means ws m := by
  constructor
  · intro h
    -- One of the two holds of the datagram, and the reader has one answer only.
    rcases means_or_rejected d with ⟨m', ws, hSize, hHolds, hMeans⟩ | ⟨fault, hRejected⟩
    · cases h.symm.trans (parse_of_means hSize hHolds hMeans)
      exact ⟨ws, hSize, hHolds, hMeans⟩
    · cases h.symm.trans (parse_of_rejected hRejected)
  · rintro ⟨ws, hSize, hHolds, hMeans⟩
    exact parse_of_means hSize hHolds hMeans

/-- A fault is reported if and only if the datagram is rejected for it. -/
theorem parse_eq_error_iff : parse d = .error fault ↔ Rejected d fault := by
  refine ⟨fun h => ?_, parse_of_rejected⟩
  rcases means_or_rejected d with ⟨m, ws, hSize, hHolds, hMeans⟩ | ⟨fault', hRejected⟩
  · cases h.symm.trans (parse_of_means hSize hHolds hMeans)
  · cases h.symm.trans (parse_of_rejected hRejected)
    exact hRejected

/-! ## Four words -/

/-- Four words, the white space before each of them and behind the last, and the number of NULs
after that. -/
structure Layout where
  lead : List UInt8
  command : String
  afterCommand : List UInt8
  key : String
  afterKey : List UInt8
  endpoint : String
  afterEndpoint : List UInt8
  ring : String
  trail : List UInt8
  nuls : Nat

namespace Layout

variable {l : Layout}

def words (l : Layout) : List String :=
  [l.command, l.key, l.endpoint, l.ring]

theorem forall_mem_words {P : String → Prop} :
    (∀ w ∈ l.words, P w) ↔ P l.command ∧ P l.key ∧ P l.endpoint ∧ P l.ring := by
  simp [words]

def bytes (l : Layout) : ByteArray :=
  l.lead.toByteArray ++ l.command.toByteArray ++ l.afterCommand.toByteArray ++
    l.key.toByteArray ++ l.afterKey.toByteArray ++ l.endpoint.toByteArray ++
    l.afterEndpoint.toByteArray ++ l.ring.toByteArray ++ l.trail.toByteArray ++
    (List.replicate l.nuls 0).toByteArray

/-- There is nothing but white space around the words, and some between any two of them. -/
structure Separated (l : Layout) : Prop where
  lead : l.lead ⊆ Text.spaces
  afterCommand : l.afterCommand ⊆ Text.spaces ∧ l.afterCommand ≠ []
  afterKey : l.afterKey ⊆ Text.spaces ∧ l.afterKey ≠ []
  afterEndpoint : l.afterEndpoint ⊆ Text.spaces ∧ l.afterEndpoint ≠ []
  trail : l.trail ⊆ Text.spaces

/-- The characters in front of the NULs. -/
def line (l : Layout) : List Char :=
  Text.ascii l.lead ++ (l.command.toList ++ (Text.ascii l.afterCommand ++ (l.key.toList ++
    (Text.ascii l.afterKey ++ (l.endpoint.toList ++ (Text.ascii l.afterEndpoint ++
      (l.ring.toList ++ Text.ascii l.trail)))))))

theorem ascii_replicate_zero (n : Nat) :
    Text.ascii (List.replicate n 0) = List.replicate n (Char.ofNat 0) := by
  rw [Text.ascii, List.map_replicate]
  rfl

theorem bytes_eq (h : l.Separated) :
    l.bytes =
      (String.ofList (l.line ++ List.replicate l.nuls (Char.ofNat 0))).toByteArray := by
  have hSpaces : ∀ {gap : List UInt8}, gap ⊆ Text.spaces →
      (Text.ascii gap).utf8Encode = gap.toByteArray := by
    intro gap hGap
    exact Text.utf8Encode_ascii fun b hb => Text.lt_of_mem_spaces (hGap hb)
  have hNuls : (Text.ascii (List.replicate l.nuls 0)).utf8Encode =
      (List.replicate l.nuls 0).toByteArray := by
    apply Text.utf8Encode_ascii
    intro b hb
    rw [List.eq_of_mem_replicate hb]
    decide
  -- White space and NULs are ASCII, so each part is encoded on its own.
  rw [← ascii_replicate_zero, String.toByteArray_ofList, line]
  simp only [List.utf8Encode_append, String.utf8Encode_toList, hSpaces h.lead,
    hSpaces h.afterCommand.1, hSpaces h.afterKey.1, hSpaces h.afterEndpoint.1, hSpaces h.trail,
    hNuls, bytes, ByteArray.append_assoc]

theorem head?_all_gap {gap : List UInt8} {cs : List Char} :
    gap ⊆ Text.spaces ∧ gap ≠ [] → (Text.ascii gap ++ cs).head?.all Text.isSpace = true := by
  rintro ⟨hGap, hSome⟩
  cases gap with
  | nil => exact absurd rfl hSome
  | cons b gap => exact (Bool.and_eq_true_iff.mp (Text.all_isSpace_ascii hGap)).1

/-- The line of a layout is its words with white space between them. -/
theorem spaced_line (h : l.Separated) :
    (∀ w ∈ l.words, IsWord w.toList) → Spaced (l.words.map String.toList) l.line := by
  intro hWords
  obtain ⟨hCommand, hKey, hEndpoint, hRing⟩ := forall_mem_words.mp hWords
  have hEnd : (Text.ascii l.trail).head?.all Text.isSpace = true := by
    cases hTrail : l.trail with
    | nil => rfl
    | cons b trail =>
      rw [← List.append_nil (Text.ascii (b :: trail)), ← hTrail]
      exact head?_all_gap ⟨h.trail, hTrail ▸ List.cons_ne_nil _ _⟩
  have space {gap : List UInt8} : gap ⊆ Text.spaces → (Text.ascii gap).all Text.isSpace = true :=
    Text.all_isSpace_ascii
  exact .word (space h.lead) hCommand.unbroken (head?_all_gap h.afterCommand) <|
    .word (space h.afterCommand.1) hKey.unbroken (head?_all_gap h.afterKey) <|
    .word (space h.afterKey.1) hEndpoint.unbroken (head?_all_gap h.afterEndpoint) <|
    .word (space h.afterEndpoint.1) hRing.unbroken hEnd <| .blank (space h.trail)

theorem nul_not_mem_line (h : l.Separated) :
    (∀ w ∈ l.words, IsWord w.toList) → Char.ofNat 0 ∉ l.line := by
  intro hWords
  obtain ⟨hCommand, hKey, hEndpoint, hRing⟩ := forall_mem_words.mp hWords
  have space {gap : List UInt8} : gap ⊆ Text.spaces → Char.ofNat 0 ∉ Text.ascii gap := fun hGap =>
    Text.nul_not_mem_of_all_isSpace (Text.all_isSpace_ascii hGap)
  simp only [line, List.mem_append, not_or]
  exact ⟨space h.lead, hCommand.nul_not_mem, space h.afterCommand.1, hKey.nul_not_mem,
    space h.afterKey.1, hEndpoint.nul_not_mem, space h.afterEndpoint.1, hRing.nul_not_mem,
    space h.trail⟩

theorem holds_words (h : l.Separated) :
    (∀ w ∈ l.words, IsWord w.toList) → Holds l.words l.bytes := by
  intro hWords
  refine ⟨_, l.line, l.nuls, (bytes_eq h).symm, String.toList_ofList, ?_, spaced_line h hWords⟩
  intro hEnd
  exact nul_not_mem_line h hWords (List.mem_of_getLast? hEnd)

/-- Every datagram that holds four words has a layout. -/
theorem exists_of_holds : Holds ws d → ws.length = wordCount →
    ∃ l : Layout, l.Separated ∧ l.words = ws ∧ l.bytes = d := by
  rintro ⟨text, line, nuls, rfl, hLine, -, hSpaced⟩ hCount
  obtain ⟨command, rest, rfl⟩ := List.exists_cons_of_length_eq_add_one hCount
  obtain ⟨key, endpoint, ring, rfl⟩ := List.length_eq_three.mp (Nat.succ.inj hCount)
  -- Word by word from the front. What is left begins with white space, so the next gap is not
  -- empty.
  obtain ⟨lead, _, hLead, rfl, hSpaced, hStart, -⟩ := hSpaced.exists_gap
  obtain ⟨afterCommand, _, hCommand, rfl, hSpaced, hStart', hGap⟩ := hSpaced.exists_gap
  have hCommand' := hGap hStart
  obtain ⟨afterKey, _, hKey, rfl, hSpaced, hStart, hGap⟩ := hSpaced.exists_gap
  have hKey' := hGap hStart'
  obtain ⟨afterEndpoint, _, hEndpoint, rfl, hSpaced, -, hGap⟩ := hSpaced.exists_gap
  have hEndpoint' := hGap hStart
  cases hSpaced with
  | blank hTrail =>
    obtain ⟨trail, hSpaces, rfl⟩ := Text.exists_ascii_eq hTrail
    let l : Layout :=
      ⟨lead, command, afterCommand, key, afterKey, endpoint, afterEndpoint, ring, trail, nuls⟩
    have hSeparated : l.Separated :=
      ⟨hLead, ⟨hCommand, hCommand'⟩, ⟨hKey, hKey'⟩, ⟨hEndpoint, hEndpoint'⟩, hSpaces⟩
    refine ⟨l, hSeparated, rfl, ?_⟩
    have hText : String.ofList (l.line ++ List.replicate l.nuls (Char.ofNat 0)) = text :=
      String.toList_inj.mp (String.toList_ofList.trans hLine.symm)
    rw [bytes_eq hSeparated, hText]

end Layout

/-- The words of a message stand in a datagram as four words with white space between them. -/
theorem holds_iff_layout (hMeans : Means ws m) :
    Holds ws d ↔ ∃ l : Layout, l.Separated ∧ l.words = ws ∧ l.bytes = d := by
  constructor
  · intro h
    apply Layout.exists_of_holds h
    cases hMeans
    rfl
  · rintro ⟨l, hSeparated, rfl, rfl⟩
    exact Layout.holds_words hSeparated (isWord_of_means hMeans)

/-! ## Writing a message again -/

theorem ringWord_eq : RingWord ring name →
    Message.ringWord name = if ring = noRingToo then Message.noRing else ring := by
  intro h
  cases h with
  | hyphen => rfl
  | none => rfl
  | name r =>
    -- Names of rings begin with a slash.
    have hSlash := r.wellFormed.slash
    have hName : r.text ≠ noRingToo := by
      intro h
      rw [h] at hSlash
      exact absurd hSlash (by decide)
    rw [if_neg hName, Message.ringWord]

theorem render_eq_intercalate (m : Message) : m.render = " ".intercalate m.tokens := by
  apply String.toList_inj.mp
  rw [m.toList_render, String.toList_intercalate]
  rfl

/-! ## What the reader accepts -/

/-- Words mean one message at most. -/
theorem Means.unique {m' : Message} : Means ws m → Means ws m' → m = m' := by
  intro h h'
  have hRead := (readWords_of_means h).symm.trans (readWords_of_means h')
  injection hRead

/-- A datagram holds one row of words at most. -/
theorem Holds.unique {ws' : List String} : Holds ws d → Holds ws' d → ws = ws' := by
  intro h h'
  obtain ⟨text, _, _, hText, _⟩ := id h
  exact ((holds_iff hText).mp h).symm.trans ((holds_iff hText).mp h')

/-- The four words are those of a message. -/
structure Layout.Says (l : Layout) (m : Message) : Prop where
  separated : l.Separated
  means : Means l.words m

theorem Layout.Says.holds {l : Layout} (h : l.Says m) : Holds l.words l.bytes :=
  holds_words h.separated (isWord_of_means h.means)

/-- What is written for a message is made of the words that said it, but for the word that stands
for a missing ring. -/
theorem Layout.Says.encode_eq {l : Layout} (h : l.Says m) :
    m.encode = (" ".intercalate [l.command, l.key, l.endpoint,
      if l.ring = noRingToo then Message.noRing else l.ring]).toByteArray := by
  obtain ⟨-, hMeans⟩ := h
  generalize hWords : l.words = ws at hMeans
  cases hMeans with
  | @message _ ring hRing =>
    injection hWords with hCommand hWords
    injection hWords with hKey hWords
    injection hWords with hEndpoint hWords
    injection hWords with hLast
    rw [Message.encode, render_eq_intercalate, Message.tokens, hCommand, hKey, hEndpoint, hLast,
      ringWord_eq hRing]

/-- A message is read from exactly those datagrams that are laid out to say it. -/
theorem parse_eq_ok_iff_layout :
    parse d = .ok m ↔ d.size ≤ maxSize ∧ ∃ l : Layout, l.Says m ∧ l.bytes = d := by
  rw [parse_eq_ok_iff]
  constructor
  · rintro ⟨ws, hSize, hHolds, hMeans⟩
    obtain ⟨l, hSeparated, rfl, hBytes⟩ := (holds_iff_layout hMeans).mp hHolds
    exact ⟨hSize, l, ⟨hSeparated, hMeans⟩, hBytes⟩
  · rintro ⟨hSize, l, hSays, rfl⟩
    exact ⟨l.words, hSize, hSays.holds, hSays.means⟩

/-- A datagram is read as a message if it fits and consists of the words of that message, in white
space and before NULs. Its words are then the only ones it consists of, and written again they
differ in nothing but the word for a missing ring. Every other datagram is rejected for the first
rule that it breaks. -/
theorem reads_grammar (d : ByteArray) :
    (∀ m, parse d = .ok m ↔ d.size ≤ maxSize ∧ ∃ l : Layout, l.Says m ∧ l.bytes = d) ∧
      (∀ (l l' : Layout) (m m' : Message), l.Says m → l'.Says m' → l.bytes = d → l'.bytes = d →
        l.words = l'.words ∧ m = m') ∧
      (∀ (l : Layout) (m : Message), l.Says m → l.bytes = d →
        m.encode = (" ".intercalate [l.command, l.key, l.endpoint,
            if l.ring = noRingToo then Message.noRing else l.ring]).toByteArray ∧
          parse m.encode = .ok m) ∧
      ∀ fault, parse d = .error fault ↔ Rejected d fault := by
  refine ⟨fun m => parse_eq_ok_iff_layout, ?_, ?_, fun fault => parse_eq_error_iff⟩
  -- Both layouts hold the words of one datagram, and words mean one message.
  · rintro l l' m m' hSays hSays' rfl hBytes
    have hWords : l.words = l'.words := hSays.holds.unique (hBytes ▸ hSays'.holds)
    exact ⟨hWords, hSays.means.unique (hWords ▸ hSays'.means)⟩
  · intro l m hSays _
    exact ⟨hSays.encode_eq, m.parse_encode⟩

open Listing.Sample

namespace Sample

/-- A tab, blanks, a line feed and NULs around the words, and the other word for a missing ring. -/
def layout : Layout :=
  ⟨[0x09], "DEREGISTER", [0x20], "k", [0x20, 0x20], "//b/.", [0x0A], "none", [0x0D], 2⟩

/-- Bob withdraws. -/
def message : Message :=
  ⟨.deregister, meeting, ⟨bobAgain.endpoint, none⟩⟩

theorem layout_says : layout.Says message where
  separated := by constructor <;> decide
  means := .message message .none

end Sample

theorem reads_grammar_withdrawal :
    parse Sample.layout.bytes = .ok Sample.message ∧
      Sample.message.encode = "DEREGISTER k //b/. -".toByteArray := by
  have hRead := ((reads_grammar Sample.layout.bytes).1 Sample.message).mpr
    ⟨by decide, Sample.layout, Sample.layout_says, rfl⟩
  have hWritten := (reads_grammar Sample.layout.bytes).2.2.1 Sample.layout Sample.message
    Sample.layout_says rfl
  exact ⟨hRead, hWritten.1.trans (by decide)⟩

end Datagram
end RingBus
