import Mathlib.Data.String.Basic
import RingBus.Proofs.Discovery.RoundTrip
import RingBus.Proofs.Names

/-!
# Derived names

The customary name of a ring consists of a family, a key and an identity, with underscores in
between. Keys may contain underscores and digits themselves, but a number contains no underscore:
the last one in such a name stands in front of the number.

* `RingName.IsPart`: what may be part of a ring name.
* `RingName.exists_derived_iff`: when there is a derived name.
* `RingName.derived_inj`: what can be told from a derived name.
-/

namespace RingBus

/-! ## Texts of key characters -/

theorem isKeyChar_of_isDigit {c : Char} : c.isDigit = true → isKeyChar c = true := by
  intro h
  simp [isKeyChar, Char.isAlphanum, h]

theorem isDigit_of_mem_toString {n : Nat} {c : Char} :
    c ∈ (toString n).toList → c.isDigit = true := by
  intro h
  have hMem : c ∈ Nat.toDigits 10 n := Nat.toList_repr ▸ h
  exact Nat.isDigit_of_mem_toDigits (by decide) (Nat.le_refl _) hMem

/-- Different numbers are written differently. -/
theorem toString_inj {n n' : Nat} : (toString n).toList = (toString n').toList → n = n' := by
  intro h
  have hDigits : Nat.toDigits 10 n = Nat.toDigits 10 n' :=
    Nat.toList_repr.symm.trans (h.trans Nat.toList_repr)
  have hRead := congrArg (Nat.ofDigitChars 10 · 0) hDigits
  simpa [Nat.ofDigitChars_toDigits] using hRead

/-- What may stand in a key takes one byte each. -/
theorem utf8ByteSize_of_isKeyChar {s : String} :
    (∀ c ∈ s.toList, isKeyChar c = true) → s.utf8ByteSize = s.toList.length := by
  intro h
  rw [← String.utf8Len_toList]
  generalize s.toList = cs at h
  induction cs with
  | nil => rfl
  | cons c rest ih =>
    have hLast := (toNat_of_isKeyChar (h c (.head _))).2
    have hOne : c.utf8Size = 1 := by
      apply Char.utf8Size_eq_one_iff.mpr
      exact UInt32.le_iff_toNat_le.mpr (hLast.trans (by decide))
    rw [String.utf8Len_cons, hOne, ih fun d hd => h d (.tail _ hd), List.length_cons]

/-- No number of 64 bits has more than 20 digits. -/
theorem utf8ByteSize_toString_le (n : UInt64) : (toString n).utf8ByteSize ≤ 20 := by
  have hDigits : ∀ c ∈ (toString n).toList, isKeyChar c = true :=
    fun c hc => isKeyChar_of_isDigit (isDigit_of_mem_toString (n := n.toNat) hc)
  rw [utf8ByteSize_of_isKeyChar hDigits]
  have hSmall : n.toNat < 10 ^ 20 := n.toNat_lt.trans (by decide)
  have hLength : (Nat.repr n.toNat).length ≤ 20 :=
    (Nat.length_repr_le_iff (by decide)).mpr hSmall
  rwa [← String.length_toList] at hLength

/-! ## The last separator -/

/-- Two lists are cut in the same way at an element that does not come again. -/
theorem append_cons_inj_of_last {α : Type} {x : α} {a b c d : List α} (hb : x ∉ b)
    (hd : x ∉ d) : a ++ x :: b = c ++ x :: d ↔ a = c ∧ b = d := by
  constructor
  · intro h
    rcases List.append_eq_append_iff.mp h with ⟨gap, hFront, hBack⟩ | ⟨gap, hFront, hBack⟩
    · cases gap with
      | nil => exact ⟨by simpa using hFront.symm, by simpa using hBack⟩
      | cons y gap =>
        -- Then the element would come again behind the first one.
        have hMem : x ∈ b := by simp [(List.cons.inj hBack).2]
        exact absurd hMem hb
    · cases gap with
      | nil => exact ⟨by simpa using hFront, by simpa using hBack.symm⟩
      | cons y gap =>
        have hMem : x ∈ d := by simp [(List.cons.inj hBack).2]
        exact absurd hMem hd
  · rintro ⟨rfl, rfl⟩
    rfl

namespace RingName

/-! ## Reading a name -/

theorem ofString_of_wellFormed {text : String} (h : WellFormed text) :
    ofString text = .ok ⟨text, h⟩ := by
  have hCheck : check text = .ok ⟨text, h⟩ := check_text ⟨text, h⟩
  rw [ofString, hCheck]
  rfl

theorem text_of_ofString {text : String} {name : RingName} :
    ofString text = .ok name → name.text = text := by
  intro h
  cases hCheck : check text with
  | ok name' =>
    rw [ofString, hCheck] at h
    cases h
    exact text_of_check hCheck
  | error fault =>
    rw [ofString, hCheck] at h
    cases h

/-- A text is a ring name if and only if it follows the rules of one. -/
theorem exists_ofString_iff {text : String} :
    (∃ name, ofString text = .ok name) ↔ WellFormed text := by
  constructor
  · rintro ⟨name, h⟩
    exact text_of_ofString h ▸ name.wellFormed
  · intro h
    exact ⟨_, ofString_of_wellFormed h⟩

/-! ## What names are derived from -/

/-- A text that may be part of a ring name. -/
structure IsPart (s : String) : Prop where
  single : '/' ∉ s.toList
  plain : s.toList.any Text.isBlankOrControl = false

variable {family identity : String} {key key' : ServiceKey} {name name' : RingName}

theorem isPart_of_isKeyChar {s : String} (h : ∀ c ∈ s.toList, isKeyChar c = true) : IsPart s where
  single hMem := absurd (h _ hMem) (by decide)
  plain := by
    apply List.any_eq_false.mpr
    intro c hc
    rw [isBlankOrControl_of_isKeyChar (h c hc)]
    exact Bool.false_ne_true

/-- Service keys may stand inside ring names. -/
theorem isPart_key (key : ServiceKey) : IsPart key.text :=
  isPart_of_isKeyChar (List.all_eq_true.mp key.plain)

/-- Numbers may stand inside ring names. -/
theorem isPart_toString (n : Nat) : IsPart (toString n) :=
  isPart_of_isKeyChar fun _ hc => isKeyChar_of_isDigit (isDigit_of_mem_toString hc)

/-- The text of the customary name. -/
def customary (family : String) (key : ServiceKey) (identity : String) : String :=
  s!"/{family}_{key.text}_{identity}"

theorem toList_customary :
    (customary family key identity).toList =
      '/' :: ((family.toList ++ '_' :: key.text.toList) ++ '_' :: identity.toList) := by
  simp [customary, toString]

theorem utf8ByteSize_customary :
    (customary family key identity).utf8ByteSize =
      family.utf8ByteSize + key.text.utf8ByteSize + identity.utf8ByteSize + 3 := by
  have hSlash : "/".utf8ByteSize = 1 := rfl
  have hUnderscore : "_".utf8ByteSize = 1 := rfl
  simp only [customary, toString, String.utf8ByteSize_append, hSlash, hUnderscore]
  omega

/-- A customary name is valid if its parts may stand in a ring name and it is short enough. The key
is always such a part. -/
theorem wellFormed_customary_iff :
    WellFormed (customary family key identity) ↔
      IsPart family ∧ IsPart identity ∧
        (customary family key identity).utf8ByteSize ≤ maxLength := by
  have hKey := isPart_key key
  have hSlash : Text.isBlankOrControl '/' = false := by decide
  have hUnderscore : Text.isBlankOrControl '_' = false := by decide
  constructor
  · rintro ⟨-, -, hSingle, hShort, hPlain⟩
    simp only [toList_customary, List.tail_cons, List.mem_append, List.mem_cons, not_or] at hSingle
    simp only [toList_customary, List.any_cons, List.any_append, Bool.or_eq_false_iff] at hPlain
    exact ⟨⟨hSingle.1.1, hPlain.2.1.1⟩, ⟨hSingle.2.2, hPlain.2.2.2⟩, hShort⟩
  · rintro ⟨hFamily, hIdentity, hShort⟩
    constructor
    · rw [toList_customary, List.head?_cons]
    · simp [toList_customary]
    · simp [toList_customary, hFamily.single, hKey.single, hIdentity.single]
    · exact hShort
    · simp [toList_customary, hFamily.plain, hKey.plain, hIdentity.plain, hSlash, hUnderscore]

/-! ## Derived names -/

theorem text_of_derived :
    derived family key identity = .ok name → name.text = customary family key identity :=
  text_of_ofString

/-- Deriving a name fails for its family, its identity or its length only. -/
theorem exists_derived_iff :
    (∃ name, derived family key identity = .ok name) ↔
      IsPart family ∧ IsPart identity ∧
        (customary family key identity).utf8ByteSize ≤ maxLength :=
  exists_ofString_iff.trans wellFormed_customary_iff

/-- There is always room for a key and a number in a name. -/
theorem exists_derived_number (key : ServiceKey) (n : UInt64) :
    ∃ name, derived "shmbus" key (toString n) = .ok name := by
  have hFamily : IsPart "shmbus" := isPart_of_isKeyChar (List.all_eq_true.mp (by decide))
  refine exists_derived_iff.mpr ⟨hFamily, isPart_toString n.toNat, ?_⟩
  have hKey : key.text.utf8ByteSize ≤ 64 := key.short
  have hNumber := utf8ByteSize_toString_le n
  have hName : "shmbus".utf8ByteSize = 6 := by decide
  rw [utf8ByteSize_customary, hName, maxLength]
  omega

/-- The number is what stands behind the last underscore, and the key is what stands between it and
the family. -/
theorem derived_inj {n n' : Nat} (h : derived family key (toString n) = .ok name)
    (h' : derived family key' (toString n') = .ok name') :
    name = name' ↔ key = key' ∧ n = n' := by
  constructor
  · rintro rfl
    -- Digits hold no underscore, so the last one stands in front of the number, and the key is
    -- known then.
    have hDigits : ∀ m : Nat, '_' ∉ (toString m).toList :=
      fun m hMem => absurd (isDigit_of_mem_toString hMem) (by decide)
    have hText := congrArg String.toList ((text_of_derived h).symm.trans (text_of_derived h'))
    rw [toList_customary, toList_customary] at hText
    obtain ⟨hFront, hNumber⟩ :=
      (append_cons_inj_of_last (hDigits n) (hDigits n')).mp (List.cons.inj hText).2
    have hKey : key.text = key'.text :=
      String.toList_inj.mp (List.cons.inj (List.append_cancel_left hFront)).2
    refine ⟨?_, toString_inj hNumber⟩
    cases key
    cases key'
    simpa using hKey
  · rintro ⟨rfl, rfl⟩
    exact Except.ok.inj (h.symm.trans h')

/-- Every key and every number of 64 bits has a derived name. Two derived names of one family are the
same only for the same key and the same number. Whatever a name is to be derived from, there is one
unless the family or the identity cannot be part of it or all of it is too long. -/
theorem derived_valid_and_unique :
    (∀ (key : ServiceKey) (n : UInt64), ∃ name, derived "shmbus" key (toString n) = .ok name) ∧
      (∀ family key key' (n n' : Nat) name name',
        derived family key (toString n) = .ok name →
        derived family key' (toString n') = .ok name' →
          (name = name' ↔ key = key' ∧ n = n')) ∧
      ∀ family key identity,
        ((∃ name, derived family key identity = .ok name) ↔
          IsPart family ∧ IsPart identity ∧
            (customary family key identity).utf8ByteSize ≤ maxLength) ∧
        ∀ name, derived family key identity = .ok name →
          name.text = customary family key identity := by
  refine ⟨exists_derived_number, ?_, ?_⟩
  · intro family key key' n n' name name' h h'
    exact derived_inj h h'
  · intro family key identity
    exact ⟨exists_derived_iff, fun _ => text_of_derived⟩

namespace Sample

def short : ServiceKey := ⟨"a", by decide, by decide, by decide⟩

/-- A key that ends like a name derived from the other one. -/
def long : ServiceKey := ⟨"a_1", by decide, by decide, by decide⟩

end Sample

/-- An identity with an underscore could be taken for the end of a key. -/
example : customary "ring" Sample.short "1_2" = customary "ring" Sample.long "2" := by decide

theorem derived_valid_and_unique_underscore :
    ∃ name name', derived "shmbus" Sample.short (toString 12) = .ok name ∧
      derived "shmbus" Sample.long (toString 2) = .ok name' ∧ name ≠ name' := by
  obtain ⟨hExists, hUnique, -⟩ := derived_valid_and_unique
  obtain ⟨name, hName⟩ := hExists Sample.short 12
  obtain ⟨name', hName'⟩ := hExists Sample.long 2
  refine ⟨name, name', hName, hName', fun hSame => ?_⟩
  have hNumber := ((hUnique "shmbus" Sample.short Sample.long 12 2 name name' hName hName').mp
    hSame).2
  exact absurd hNumber (by decide)

end RingName
end RingBus
