import Mathlib.Data.List.Basic
import Mathlib.Data.List.TakeWhile
import RingBus.Segment
import RingBus.Semaphore.Name
import RingBus.Semaphore.Basic

/-!
# The words of ring names

A ring name is a slash in front of a word. The kernel files the segment of a ring under that word,
and its semaphores under the word with something in front and something behind. Hence two rings share
a segment only if they share their name, and likewise a semaphore. The segment of one ring and a
semaphore of another may be the same file.

* `SemaphoreName.Canonical`: one slash, and a word without slashes.
* `SemaphoreName.ofRing_eq_sanitize_append`: a suffix comes behind whatever a name is made of.
* `SemaphoreName.key_ofRing_inj`: no word is shared.
* `Semaphore.checkName_ofRing`: the kernel accepts the names of the semaphores of every ring.
* `Ring.Part`: the four files of a ring, which are four.
-/

namespace RingBus

namespace RingName

/-- A ring name is a slash, a first character and the rest of a word. -/
theorem exists_toList_eq (n : RingName) :
    ∃ c w, n.text.toList = '/' :: c :: w ∧ '/' ∉ c :: w := by
  have slash := n.wellFormed.slash
  have word := n.wellFormed.word
  have single := n.wellFormed.single
  cases h : n.text.toList with
  | nil =>
    rw [h] at slash
    cases slash
  | cons a rest =>
    rw [h] at slash word single
    cases rest with
    | nil => exact absurd rfl word
    | cons c w =>
      have ha : a = '/' := by simpa using slash
      exact ⟨c, w, by rw [ha], single⟩

/-- The word of a ring name is what follows its slash. -/
theorem toList_word (n : RingName) : (Shared.word n.text).toList = n.text.toList.tail := by
  rcases n.exists_toList_eq with ⟨c, w, hText, hSlash⟩
  have hc : c ≠ '/' := fun h => hSlash (by simp [h])
  simp [Shared.word, hText, hc]

/-- A ring name is a slash and a word. -/
theorem text_eq_append_word (n : RingName) : n.text = "/" ++ Shared.word n.text := by
  rcases n.exists_toList_eq with ⟨c, w, hText, _⟩
  apply String.toList_inj.mp
  rw [String.toList_append, toList_word, hText]
  rfl

theorem slash_not_mem_word (n : RingName) : '/' ∉ (Shared.word n.text).toList := by
  rw [toList_word]
  exact n.wellFormed.single

theorem word_ne_empty (n : RingName) : Shared.word n.text ≠ "" := by
  intro h
  apply n.wellFormed.word
  rw [← toList_word, h]
  rfl

/-- Different ring names have different words. -/
theorem word_injective {n m : RingName} (h : Shared.word n.text = Shared.word m.text) : n = m := by
  have hText : n.text = m.text := by
    rw [n.text_eq_append_word, m.text_eq_append_word, h]
  cases n
  cases m
  simpa using hText

theorem utf8ByteSize_word (n : RingName) :
    (Shared.word n.text).utf8ByteSize + 1 = n.text.utf8ByteSize := by
  have h := congrArg String.utf8ByteSize n.text_eq_append_word
  rw [String.utf8ByteSize_append] at h
  have one : "/".utf8ByteSize = 1 := by decide
  omega

theorem nul_not_mem_text (n : RingName) : Char.ofNat 0 ∉ n.text.toList := by
  intro h
  have plain := n.wellFormed.plain
  rw [List.any_eq_false] at plain
  exact plain _ h (by decide)

end RingName

namespace SemaphoreRole

theorem slash_not_mem_suffix (role : SemaphoreRole) : '/' ∉ role.suffix.toList := by
  cases role <;> decide

theorem nul_not_mem_suffix (role : SemaphoreRole) : Char.ofNat 0 ∉ role.suffix.toList := by
  cases role <;> decide

theorem utf8ByteSize_suffix_le (role : SemaphoreRole) : role.suffix.utf8ByteSize ≤ 7 := by
  cases role <;> decide

/-- The suffixes end in different characters. -/
theorem getLast?_suffix_injective {role role' : SemaphoreRole}
    (h : role.suffix.toList.getLast? = role'.suffix.toList.getLast?) : role = role' := by
  revert h
  cases role <;> cases role' <;> decide

/-- What a suffix stands behind can be told from the whole, and so can the suffix. -/
theorem append_suffix_inj {a b : String} {role role' : SemaphoreRole} :
    a ++ role.suffix = b ++ role'.suffix ↔ a = b ∧ role = role' := by
  constructor
  · intro h
    have hRole : role = role' := by
      apply getLast?_suffix_injective
      -- The suffix is never empty, so the last character of the whole is its last character.
      have drop : ∀ (text : String) (r : SemaphoreRole),
          (text ++ r.suffix).toList.getLast? = r.suffix.toList.getLast? := by
        intro text r
        rw [String.toList_append]
        cases r <;> exact List.getLast?_append_of_ne_nil _ (by decide)
      have hLast := congrArg (fun s => s.toList.getLast?) h
      simpa only [drop] using hLast
    subst hRole
    exact ⟨(String.append_left_inj _).mp h, rfl⟩
  · rintro ⟨rfl, rfl⟩
    rfl

end SemaphoreRole

/-- A semaphore name as it is made of any text: one slash, and a word without slashes. -/
structure SemaphoreName.Canonical (name : String) : Prop where
  slash : name.toList.head? = some '/'
  single : '/' ∉ name.toList.tail

/-- Ring names are in the form that semaphore names are derived from. -/
theorem RingName.canonical (n : RingName) : SemaphoreName.Canonical n.text :=
  ⟨n.wellFormed.slash, n.wellFormed.single⟩

namespace SemaphoreName

/-! ## Names made of any text -/

section

variable (base ring : String) (role : SemaphoreRole)

theorem slash_not_mem_word (base : List Char) : '/' ∉ word base := by
  intro h
  obtain ⟨c, _, hc⟩ := List.mem_map.mp h
  by_cases hSlash : c = '/'
  · simp [hSlash] at hc
  · simp [hSlash] at hc

theorem word_of_not_mem {w : List Char} (h : '/' ∉ w) : word w = w := by
  have hDrop : w.dropWhile (· == '/') = w := by
    cases w with
    | nil => rfl
    | cons c rest =>
      have hc : c ≠ '/' := fun hEq => h (hEq ▸ List.mem_cons_self)
      simp [hc]
  have hKept : ∀ c ∈ w, (if c = '/' then '_' else c) = c :=
    fun c hc => if_neg fun hEq : c = '/' => h (hEq ▸ hc)
  rw [word, hDrop]
  exact (List.map_congr_left hKept).trans (List.map_id _)

theorem word_append_suffix :
    word (ring ++ role.suffix).toList = word ring.toList ++ role.suffix.toList := by
  -- The suffix begins with an underscore, so slashes are dropped in front of it at most.
  have hDrop : (ring ++ role.suffix).toList.dropWhile (· == '/') =
      ring.toList.dropWhile (· == '/') ++ role.suffix.toList := by
    rw [String.toList_append]
    induction ring.toList with
    | nil => cases role <;> rfl
    | cons c rest ih =>
      by_cases hc : c = '/'
      · simpa [hc] using ih
      · simp [hc]
  have hSuffix : role.suffix.toList.map (fun c => if c = '/' then '_' else c) =
      role.suffix.toList := by
    cases role <;> rfl
  calc
    word (ring ++ role.suffix).toList
        = (ring.toList.dropWhile (· == '/') ++ role.suffix.toList).map
            (fun c => if c = '/' then '_' else c) := by rw [word, hDrop]
    _ = word ring.toList ++ role.suffix.toList := by rw [List.map_append, hSuffix, word]

/-- Whatever is sanitized has one slash, in front. -/
theorem canonical_sanitize : Canonical (sanitize base) where
  slash := by rw [sanitize, String.toList_ofList, List.head?_cons]
  single := by
    rw [sanitize, String.toList_ofList, List.tail_cons]
    exact slash_not_mem_word _

/-- There is nothing to change about a name that is one already. -/
theorem sanitize_of_canonical {name : String} (h : Canonical name) : sanitize name = name := by
  obtain ⟨slash, single⟩ := h
  apply String.toList_inj.mp
  rw [sanitize, String.toList_ofList]
  cases hName : name.toList with
  | nil =>
    rw [hName] at slash
    cases slash
  | cons c w =>
    rw [hName] at slash single
    obtain rfl : c = '/' := Option.some.inj slash
    -- The slash in front is dropped and put back.
    have hWord : word ('/' :: w) = word w := rfl
    have hSingle : '/' ∉ w := single
    rw [hWord, word_of_not_mem hSingle]

/-- Making a semaphore name of a text with a suffix puts the suffix behind what it makes of the
text. -/
theorem ofRing_eq_sanitize_append : ofRing ring role = sanitize ring ++ role.suffix := by
  apply String.toList_inj.mp
  rw [ofRing, String.toList_append, sanitize, sanitize, String.toList_ofList,
    String.toList_ofList, word_append_suffix, List.cons_append]

end

/-! ## Names made of ring names -/

variable (n m : RingName) (role role' : SemaphoreRole)

/-- Making a semaphore name of a ring name and a suffix changes nothing. -/
theorem ofRing_eq_append : ofRing n.text role = n.text ++ role.suffix := by
  rw [ofRing_eq_sanitize_append, sanitize_of_canonical n.canonical]

/-- The kernel files a semaphore of a ring under the word of the ring with the suffix. -/
theorem key_ofRing :
    Semaphore.key (ofRing n.text role) = Shared.word n.text ++ role.suffix := by
  rcases n.exists_toList_eq with ⟨c, w, hText, hSlash⟩
  have hc : c ≠ '/' := fun h => hSlash (by simp [h])
  apply String.toList_inj.mp
  rw [Semaphore.key, Shared.word, ofRing_eq_append, String.toList_ofList, String.toList_append,
    String.toList_append, n.toList_word, hText]
  simp [hc]

/-- Semaphores of different rings, or of one ring in different roles, have different words. -/
theorem key_ofRing_inj :
    Semaphore.key (ofRing n.text role) = Semaphore.key (ofRing m.text role') ↔
      n = m ∧ role = role' := by
  rw [key_ofRing, key_ofRing, SemaphoreRole.append_suffix_inj]
  constructor
  · rintro ⟨hKey, rfl⟩
    exact ⟨RingName.word_injective hKey, rfl⟩
  · rintro ⟨rfl, rfl⟩
    exact ⟨rfl, rfl⟩

end SemaphoreName

namespace Semaphore

variable (n : RingName) (role : SemaphoreRole)

theorem nulPosition?_ofRing : nulPosition? (SemaphoreName.ofRing n.text role) = none := by
  have none_in : Char.ofNat 0 ∉ (SemaphoreName.ofRing n.text role).toList := by
    rw [SemaphoreName.ofRing_eq_append, String.toList_append, List.mem_append]
    rintro (h | h)
    · exact n.nul_not_mem_text h
    · exact role.nul_not_mem_suffix h
  have all_kept : (SemaphoreName.ofRing n.text role).toList.takeWhile (· != Char.ofNat 0) =
      (SemaphoreName.ofRing n.text role).toList := by
    rw [List.takeWhile_eq_self_iff]
    intro c hc
    simpa using fun h : c = Char.ofNat 0 => none_in (h ▸ hc)
  simp [nulPosition?, all_kept]

/-- The words of a ring's semaphores stay below what the kernel can file. -/
theorem utf8ByteSize_key_ofRing_le :
    (key (SemaphoreName.ofRing n.text role)).utf8ByteSize ≤ 206 := by
  rw [SemaphoreName.key_ofRing, String.utf8ByteSize_append]
  have hKey := n.utf8ByteSize_word
  have hShort : n.text.utf8ByteSize ≤ 200 := n.wellFormed.short
  have hSuffix := role.utf8ByteSize_suffix_le
  omega

theorem isMalformed_ofRing : isMalformed (SemaphoreName.ofRing n.text role) = false := by
  have nonempty : key (SemaphoreName.ofRing n.text role) ≠ "" := by
    rw [SemaphoreName.key_ofRing]
    intro h
    have := congrArg String.toList h
    rw [String.toList_append] at this
    exact n.word_ne_empty (String.toList_inj.mp (List.append_eq_nil_iff.mp this).1)
  have noSlash : '/' ∉ (key (SemaphoreName.ofRing n.text role)).toList := by
    rw [SemaphoreName.key_ofRing, String.toList_append, List.mem_append]
    rintro (h | h)
    · exact n.slash_not_mem_word h
    · exact role.slash_not_mem_suffix h
  -- The word is far below the limit.
  have short : ¬ longestWord < (key (SemaphoreName.ofRing n.text role)).utf8ByteSize := by
    have h := utf8ByteSize_key_ofRing_le n role
    rw [longestWord]
    omega
  simp only [isMalformed, Bool.or_eq_false_iff, beq_eq_false_iff_ne, ne_eq,
    decide_eq_false_iff_not, List.contains_eq_mem]
  exact ⟨⟨nonempty, noSlash⟩, short⟩

theorem isOverlong_ofRing : isOverlong (SemaphoreName.ofRing n.text role) = false := by
  have short := utf8ByteSize_key_ofRing_le n role
  have fits : ¬ longestKey < (key (SemaphoreName.ofRing n.text role)).utf8ByteSize := by
    rw [longestKey]
    omega
  simp [isOverlong, fits]

/-- The kernel accepts the names of the semaphores of every ring. -/
theorem checkName_ofRing : checkName (SemaphoreName.ofRing n.text role) = .ok () := by
  simp [checkName, nulPosition?_ofRing, isMalformed_ofRing, isOverlong_ofRing]

/-- The file of a ring's semaphore is that of its segment with a mark in front and the role's suffix
behind. -/
theorem file_ofRing : file (SemaphoreName.ofRing n.text role) =
    "sem." ++ (Segment.file n.text ++ role.suffix) := by
  rw [file, SemaphoreName.key_ofRing, Segment.file]

end Semaphore

namespace Ring

/-! ## The files of a ring -/

/-- What the four files of a ring are to it. -/
inductive Part
  | segment
  | semaphore (role : SemaphoreRole)
  deriving DecidableEq

namespace Part

/-- The file that is one of the four parts of the ring of a name. -/
def file (name : RingName) : Part → String
  | segment => Segment.file name.text
  | semaphore role => Semaphore.file (SemaphoreName.ofRing name.text role)

variable {n m : RingName} {role role' : SemaphoreRole} {p q : Part}

/-- Different rings have different segment files. -/
theorem file_segment_inj : segment.file n = segment.file m ↔ n = m :=
  ⟨RingName.word_injective, fun h => h ▸ rfl⟩

/-- Different semaphores of valid rings have different files. -/
theorem file_semaphore_inj :
    (semaphore role).file n = (semaphore role').file m ↔ n = m ∧ role = role' := by
  rw [← SemaphoreName.key_ofRing_inj]
  exact String.append_right_inj _

/-- A semaphore of a ring is filed under more than the word of the ring. -/
theorem file_segment_ne_semaphore (role : SemaphoreRole) :
    segment.file n ≠ (semaphore role).file n := by
  intro h
  have hSize := congrArg String.utf8ByteSize h
  have hPrefix : "sem.".utf8ByteSize = 4 := by decide
  simp only [file, Semaphore.file_ofRing, String.utf8ByteSize_append, hPrefix] at hSize
  omega

/-- The four files of a ring are four. -/
theorem file_injective (h : p.file n = q.file n) : p = q := by
  cases p with
  | segment =>
    cases q with
    | segment => rfl
    | semaphore role => exact absurd h (file_segment_ne_semaphore role)
  | semaphore role =>
    cases q with
    | segment => exact absurd h.symm (file_segment_ne_semaphore _)
    | semaphore role' => rw [(file_semaphore_inj.mp h).2]

/-- A semaphore of one ring may be where the segment of another would be. -/
example : (segment.file ⟨"/sem.r_free", by constructor <;> decide⟩) =
    (semaphore .free).file ⟨"/r", by constructor <;> decide⟩ := by
  decide

end Part
end Ring
end RingBus
