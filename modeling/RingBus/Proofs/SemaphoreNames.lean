import RingBus.Proofs.Triplets

/-!
# Semaphore names

Whatever a name is made of, it is one slash and a word, and making a name of it again changes
nothing. The part that a semaphore plays stands at the end of its name, so two names are equal only
if the parts are, and if the texts they are made of come to the same name themselves. No two rings
share a semaphore, and the kernel takes the names of all of them.

* `SemaphoreName.ofRing_inj`: what two equal names have in common.
* `Semaphore.Acceptable`: what the kernel asks of a name.
-/

namespace RingBus

namespace Semaphore

/-- What the kernel asks of a name: it has no NUL in it, and behind the slash that the kernel drops
stands one word, which is not too long for a file. -/
structure Acceptable (name : String) : Prop where
  plain : Char.ofNat 0 ∉ name.toList
  word : key name ≠ ""
  single : '/' ∉ (key name).toList
  short : (key name).utf8ByteSize ≤ longestKey

/-- The kernel accepts a name if and only if it is acceptable. -/
theorem checkName_eq_ok_iff_acceptable {name : String} :
    checkName name = .ok () ↔ Acceptable name := by
  have hMalformed : isMalformed name = false ↔
      key name ≠ "" ∧ '/' ∉ (key name).toList ∧ (key name).utf8ByteSize ≤ longestWord := by
    simp only [isMalformed, Bool.or_eq_false_iff, beq_eq_false_iff_ne, List.contains_eq_mem,
      decide_eq_false_iff_not, gt_iff_lt, not_lt, and_assoc, ne_eq]
  -- Being too long for a file name counts only for names that are otherwise well formed.
  have hOverlong : isMalformed name = false →
      (isOverlong name = false ↔ (key name).utf8ByteSize ≤ longestKey) := by
    intro h
    simp [isOverlong, h]
  rw [checkName_eq_ok_iff, nulPosition?_eq_none_iff]
  constructor
  · rintro ⟨hNul, hWell, hShort⟩
    obtain ⟨hWord, hSingle, -⟩ := hMalformed.mp hWell
    exact ⟨hNul, hWord, hSingle, (hOverlong hWell).mp hShort⟩
  · rintro ⟨hNul, hWord, hSingle, hShort⟩
    have hWell := hMalformed.mpr ⟨hWord, hSingle, hShort.trans (by decide)⟩
    exact ⟨hNul, hWell, (hOverlong hWell).mpr hShort⟩

end Semaphore

namespace SemaphoreName

variable {s t : String} {n m : RingName} {role role' : SemaphoreRole}

/-- What is sanitized stays as it is. -/
theorem sanitize_sanitize (s : String) : sanitize (sanitize s) = sanitize s :=
  sanitize_of_canonical (canonical_sanitize s)

/-- Names agree if the sanitized ring names and the roles do. -/
theorem ofRing_inj : ofRing s role = ofRing t role' ↔ sanitize s = sanitize t ∧ role = role' := by
  rw [ofRing_eq_sanitize_append, ofRing_eq_sanitize_append, SemaphoreRole.append_suffix_inj]

/-- The kernel can tell the semaphores of rings apart, so their names are different. -/
theorem ofRing_text_inj :
    ofRing n.text role = ofRing m.text role' ↔ n = m ∧ role = role' := by
  constructor
  · intro h
    exact (key_ofRing_inj n m role role').mp (congrArg Semaphore.key h)
  · rintro ⟨rfl, rfl⟩
    rfl

/-- A name is one slash and a word, and is not changed by making a name of it. What it is made of
can be told from it up to slashes, and so can the role. Semaphores of different rings have different
names, also for the kernel, which takes them all. -/
theorem names_canonical_and_apart :
    (∀ s, Canonical (sanitize s) ∧ sanitize (sanitize s) = sanitize s) ∧
      (∀ s role, ofRing s role = sanitize s ++ role.suffix) ∧
      (∀ s t role role',
        ofRing s role = ofRing t role' ↔ sanitize s = sanitize t ∧ role = role') ∧
      (∀ (n m : RingName) role role',
        (ofRing n.text role = ofRing m.text role' ↔ n = m ∧ role = role') ∧
          (Semaphore.key (ofRing n.text role) = Semaphore.key (ofRing m.text role') ↔
            n = m ∧ role = role')) ∧
      ∀ (n : RingName) role,
        Semaphore.Acceptable (ofRing n.text role) ∧
          (Semaphore.key (ofRing n.text role)).utf8ByteSize ≤ 206 ∧
          Semaphore.checkName (ofRing n.text role) = .ok () := by
  refine ⟨?_, ofRing_eq_sanitize_append, fun _ _ _ _ => ofRing_inj, ?_, ?_⟩
  · intro s
    exact ⟨canonical_sanitize s, sanitize_sanitize s⟩
  · intro n m role role'
    exact ⟨ofRing_text_inj, key_ofRing_inj n m role role'⟩
  · intro n role
    -- The words of these names are at most 206 bytes long, which the kernel accepts.
    have hTaken := Semaphore.checkName_ofRing n role
    exact ⟨Semaphore.checkName_eq_ok_iff_acceptable.mp hTaken,
      Semaphore.utf8ByteSize_key_ofRing_le n role, hTaken⟩

/-- A slash inside a text makes the same name as an underscore, but no ring name has one there. -/
example : ofRing "a/b" .free = ofRing "//a_b" .free := by decide

end SemaphoreName
end RingBus
