import RingBus.Proofs.Semaphores

/-!
# Creating three semaphores at once

The names of three semaphores can be made of any text, also of one that contains NULs or slashes,
or that is so long that the kernel takes only some of the three names. Three semaphores get created
one after the other; this module shows that nobody ever sees only some of them.

* `Catalog.Intact`: a change that adds and removes no name and touches no object that there was.
* `Semaphore.checkName_ofRing_iff`: the texts for which the kernel takes a name.
* `Triplet.Minted`: three semaphores were added, and nothing else happened.
* `Triplet.allOrNothing`: one of the two is what every creation comes to, and which one.
-/

namespace RingBus

namespace Catalog

variable {α : Type} {c d e : Catalog α}

/-- Every name leads where it led, and every object that there was is what it was. Objects without
a name may have been added. -/
structure Intact (c d : Catalog α) : Prop where
  named : d.named = c.named
  count : c.count ≤ d.count
  object : ∀ id, id < c.count → d.object id = c.object id

theorem intact_refl (c : Catalog α) : c.Intact c :=
  ⟨rfl, Nat.le_refl _, fun _ _ => rfl⟩

/-- Names that survive two changes survive both together. -/
theorem Intact.trans (h : c.Intact d) (h' : d.Intact e) : c.Intact e where
  named := h'.named.trans h.named
  count := Nat.le_trans h.count h'.count
  object id hId := (h'.object id (Nat.lt_of_lt_of_le hId h.count)).trans (h.object id hId)

theorem Intact.unlink (h : c.Intact d) (name : String) : (c.unlink name).Intact (d.unlink name) where
  named := by simp only [Catalog.unlink, h.named]
  count := h.count
  object := h.object

theorem intact_unlink_insert {name : String} (a : α) :
    c.named name = none → c.Intact ((c.insert name a).unlink name) := by
  intro hFree
  refine ⟨c.named_unlink_insert name a hFree, Nat.le_succ _, ?_⟩
  intro id hId
  exact c.object_insert_of_lt name a hId

theorem unlink_comm (c : Catalog α) (n m : String) :
    (c.unlink n).unlink m = (c.unlink m).unlink n := by
  have same : ∀ k, ((c.unlink n).unlink m).named k = ((c.unlink m).unlink n).named k := by
    intro k
    by_cases hn : k = n <;> by_cases hm : k = m <;> simp [Catalog.unlink, hn, hm]
  exact congrArg (Catalog.mk c.toNumbered) (funext same)

/-- Adding two objects under free names and removing the names in the same order. -/
theorem intact_unlink_unlink {n m : String} (a b : α) :
    c.named n = none → (c.insert n a).named m = none →
      c.Intact ((((c.insert n a).insert m b).unlink n).unlink m) := by
  intro hFirst hSecond
  -- The name that came last might as well go first.
  rw [unlink_comm]
  have hInner : (c.insert n a).Intact (((c.insert n a).insert m b).unlink m) :=
    intact_unlink_insert b hSecond
  exact (intact_unlink_insert a hFirst).trans (hInner.unlink n)

end Catalog

/-! ## Names made of any text -/

namespace SemaphoreName

variable (ring : String) (role role' : SemaphoreRole)

theorem toList_key_ofRing :
    (Semaphore.key (ofRing ring role)).toList = word ring.toList ++ role.suffix.toList := by
  have hSlash : '/' ∉ word (ring ++ role.suffix).toList := slash_not_mem_word _
  have hWord := word_append_suffix ring role
  -- The kernel drops the slash in front of the word and meets no other one.
  have hKept : (word (ring ++ role.suffix).toList).dropWhile (· == '/') =
      word (ring ++ role.suffix).toList := by
    cases h : word (ring ++ role.suffix).toList with
    | nil => rfl
    | cons c rest =>
      have hc : c ≠ '/' := by
        intro hEq
        apply hSlash
        rw [h, hEq]
        exact List.mem_cons_self
      simp [hc]
  simp only [Semaphore.key, Shared.word, ofRing, sanitize, String.toList_ofList, List.dropWhile_cons,
    beq_self_eq_true, if_true, hKept]
  exact hWord

/-- What the three names made of one text have in common. -/
def stem (ring : String) : String :=
  String.ofList (word ring.toList)

/-- The key of a ring's semaphore is the ring's stem and the role's suffix. -/
theorem key_ofRing_eq_stem_append :
    Semaphore.key (ofRing ring role) = stem ring ++ role.suffix := by
  apply String.toList_inj.mp
  rw [toList_key_ofRing, String.toList_append, stem, String.toList_ofList]

/-- The three names made of one text are filed under three words. -/
theorem key_ofRing_injective {ring : String} {role role' : SemaphoreRole} :
    Semaphore.key (ofRing ring role) = Semaphore.key (ofRing ring role') → role = role' := by
  intro h
  rw [key_ofRing_eq_stem_append, key_ofRing_eq_stem_append] at h
  exact (SemaphoreRole.append_suffix_inj.mp h).2

/-- The three names made of one text lead to three files. -/
theorem file_ofRing_injective {ring : String} {role role' : SemaphoreRole}
    (h : Semaphore.file (ofRing ring role) = Semaphore.file (ofRing ring role')) : role = role' :=
  key_ofRing_injective ((String.append_right_inj _).mp h)

/-- The semaphores of a ring have different files. -/
theorem file_ne_file {ring : String} {role role' : SemaphoreRole} (h : role ≠ role') :
    Semaphore.file (ofRing ring role) ≠ Semaphore.file (ofRing ring role') :=
  fun hFile => h (file_ofRing_injective hFile)

theorem utf8ByteSize_key_ofRing :
    (Semaphore.key (ofRing ring role)).utf8ByteSize =
      (stem ring).utf8ByteSize + role.suffix.utf8ByteSize := by
  rw [key_ofRing_eq_stem_append, String.utf8ByteSize_append]

/-- Making a semaphore name of a text loses slashes only, and brings underscores only. -/
theorem mem_word_iff {c : Char} {base : List Char} (hSlash : c ≠ '/') (hUnderscore : c ≠ '_') :
    c ∈ word base ↔ c ∈ base := by
  -- The slashes in front are dropped, and this character is none of them.
  have hDrop : c ∈ base.dropWhile (· == '/') ↔ c ∈ base := by
    induction base with
    | nil => rfl
    | cons a rest ih =>
      by_cases ha : a = '/'
      · simpa [ha, hSlash] using ih
      · simp [ha]
  constructor
  · intro h
    obtain ⟨a, ha, hEq⟩ := List.mem_map.mp h
    by_cases hSlash' : a = '/'
    · exact absurd (by simpa [hSlash'] using hEq.symm) hUnderscore
    · have hSame : a = c := by simpa [hSlash'] using hEq
      exact hDrop.mp (hSame ▸ ha)
  · intro h
    exact List.mem_map.mpr ⟨c, hDrop.mpr h, if_neg hSlash⟩

/-- A semaphore's name has a NUL exactly if the ring's name has one. -/
theorem nul_mem_ofRing_iff :
    Char.ofNat 0 ∈ (ofRing ring role).toList ↔ Char.ofNat 0 ∈ ring.toList := by
  have hSuffix := role.nul_not_mem_suffix
  rw [ofRing, sanitize, String.toList_ofList, word_append_suffix]
  constructor
  · intro h
    rcases List.mem_cons.mp h with hSlash | hRest
    · exact absurd hSlash (by decide)
    · rcases List.mem_append.mp hRest with hWord | hEnd
      · exact (mem_word_iff (by decide) (by decide)).mp hWord
      · exact absurd hEnd hSuffix
  · intro h
    have hWord := (mem_word_iff (c := Char.ofNat 0) (by decide) (by decide)).mpr h
    exact List.mem_cons_of_mem _ (List.mem_append_left _ hWord)

end SemaphoreName

namespace Semaphore

theorem nulPosition?_eq_none_iff {text : String} :
    nulPosition? text = none ↔ Char.ofNat 0 ∉ text.toList := by
  have hPrefix := List.takeWhile_prefix (l := text.toList) (· != Char.ofNat 0)
  constructor
  · intro h hNul
    have hLength : ¬ (text.toList.takeWhile (· != Char.ofNat 0)).length < text.toList.length := by
      intro hShort
      simp [nulPosition?, hShort] at h
    -- A part in front that is as long as the text is the text, and has no NUL in it.
    have hAll := hPrefix.eq_of_length_le (Nat.le_of_not_lt hLength)
    have hKept := List.takeWhile_eq_self_iff.mp hAll _ hNul
    simp at hKept
  · intro hNul
    have hAll : text.toList.takeWhile (· != Char.ofNat 0) = text.toList := by
      apply List.takeWhile_eq_self_iff.mpr
      intro c hc
      simpa using fun h : c = Char.ofNat 0 => hNul (h ▸ hc)
    simp [nulPosition?, hAll]

/-- The kernel takes a name made of a text unless there is a NUL in it or the word gets too
long. -/
theorem checkName_ofRing_iff {ring : String} {role : SemaphoreRole} :
    checkName (SemaphoreName.ofRing ring role) = .ok () ↔
      Char.ofNat 0 ∉ ring.toList ∧
        (SemaphoreName.stem ring).utf8ByteSize + role.suffix.utf8ByteSize ≤ longestKey := by
  have hNonempty : key (SemaphoreName.ofRing ring role) ≠ "" := by
    intro h
    have hText := congrArg String.toList h
    rw [SemaphoreName.toList_key_ofRing] at hText
    have hSuffix := (List.append_eq_nil_iff.mp hText).2
    cases role <;> cases hSuffix
  have hSlash : '/' ∉ (key (SemaphoreName.ofRing ring role)).toList := by
    rw [SemaphoreName.toList_key_ofRing]
    intro h
    rcases List.mem_append.mp h with hWord | hSuffix
    · exact SemaphoreName.slash_not_mem_word _ hWord
    · exact role.slash_not_mem_suffix hSuffix
  rw [← SemaphoreName.utf8ByteSize_key_ofRing, ← SemaphoreName.nul_mem_ofRing_iff ring role,
    ← nulPosition?_eq_none_iff]
  cases hNul : nulPosition? (SemaphoreName.ofRing ring role) with
  | some position => simp [checkName, hNul]
  | none =>
    -- Of what the kernel objects to, only the length is left.
    have hMalformed : isMalformed (SemaphoreName.ofRing ring role) =
        decide ((key (SemaphoreName.ofRing ring role)).utf8ByteSize > 255) := by
      simp [isMalformed, hNonempty, hSlash, longestWord]
    have hOverlong : isOverlong (SemaphoreName.ofRing ring role) =
        (!decide ((key (SemaphoreName.ofRing ring role)).utf8ByteSize > 255) &&
          decide ((key (SemaphoreName.ofRing ring role)).utf8ByteSize > 251)) := by
      rw [isOverlong, hMalformed, longestKey]
    by_cases hWord : (key (SemaphoreName.ofRing ring role)).utf8ByteSize > 255
    · have hKey : ¬ (key (SemaphoreName.ofRing ring role)).utf8ByteSize ≤ longestKey := by
        rw [longestKey]
        omega
      simp [checkName, hNul, hMalformed, hWord, hKey]
    · by_cases hLong : (key (SemaphoreName.ofRing ring role)).utf8ByteSize > 251
      · have hKey : ¬ (key (SemaphoreName.ofRing ring role)).utf8ByteSize ≤ longestKey :=
          Nat.not_le.mpr hLong
        simp [checkName, hNul, hMalformed, hOverlong, hWord, hLong, hKey]
      · have hKey : (key (SemaphoreName.ofRing ring role)).utf8ByteSize ≤ longestKey :=
          Nat.le_of_not_lt hLong
        simp [checkName, hNul, hMalformed, hOverlong, hWord, hLong, hKey]

/-! ## One semaphore -/

/-- When a semaphore can be created. -/
structure Creatable (name : String) (initial : Nat) (all : Shared) : Prop where
  accepted : checkName name = .ok ()
  bounded : initial ≤ maxCount
  unused : all.named (file name) = none

section

variable {name : String} {initial : Nat} {all : Shared}

theorem checkName_eq_ok_iff :
    checkName name = .ok () ↔
      nulPosition? name = none ∧ isMalformed name = false ∧ isOverlong name = false := by
  cases hNul : nulPosition? name with
  | some position => simp [checkName, hNul]
  | none =>
    cases hMalformed : isMalformed name <;> cases hOverlong : isOverlong name <;>
      simp [checkName, hNul, hMalformed, hOverlong]

theorem creatable_insert_iff {other : String} {m : Memory} :
    file name ≠ other →
      (Creatable name initial (all.insert other m) ↔ Creatable name initial all) := by
  intro hOther
  have hNamed := all.named_insert_other m hOther
  constructor
  · intro h
    exact ⟨h.accepted, h.bounded, hNamed.symm.trans h.unused⟩
  · intro h
    exact ⟨h.accepted, h.bounded, hNamed.trans h.unused⟩

/-- What can be created is, as a new file. -/
theorem create_of_creatable :
    Creatable name initial all →
      create name initial all =
        .ok (all.insert (file name) (image initial), ⟨name, all.count⟩) := by
  intro h
  obtain ⟨hNul, hMalformed, hOverlong⟩ := checkName_eq_ok_iff.mp h.accepted
  have hBound : ¬ initial > maxCount := Nat.not_lt.mpr h.bounded
  simp [create, hNul, hMalformed, hOverlong, hBound, h.unused]

/-- What cannot be created is refused, and nothing changes. -/
theorem create_of_not_creatable :
    ¬ Creatable name initial all → ∃ e, create name initial all = .error e := by
  intro h
  cases hCreate : create name initial all with
  | error e => exact ⟨e, rfl⟩
  | ok made =>
    -- Everything that creating checks was in order.
    exfalso
    apply h
    unfold create at hCreate
    split at hCreate
    · cases hCreate
    rename_i hNul
    split at hCreate
    · cases hCreate
    rename_i hRequest
    split at hCreate
    · cases hCreate
    rename_i hOverlong
    split at hCreate
    · cases hCreate
    rename_i hUnused
    rw [not_or] at hRequest
    have hAccepted : checkName name = .ok () :=
      checkName_eq_ok_iff.mpr ⟨hNul, by simpa using hRequest.1, by simpa using hOverlong⟩
    exact ⟨hAccepted, Nat.le_of_not_lt hRequest.2, hUnused⟩

/-- A name under which a semaphore could be created can be removed. -/
theorem unlink_of_accepted :
    checkName name = .ok () → unlink name all = .ok (all.unlink (file name)) := by
  intro h
  obtain ⟨hNul, _, hOverlong⟩ := checkName_eq_ok_iff.mp h
  simp [unlink, hNul, hOverlong]

end

end Semaphore

/-! ## Three semaphores -/

namespace Triplet

variable {ring : String} {slots : UInt32} {all : Shared}

/-- What a semaphore counts at first. -/
def initially (slots : Nat) : SemaphoreRole → Nat
  | .free => slots
  | .filled => 0
  | .mutex => 1

/-- When three semaphores can be created under names made of a text. -/
def Mintable (ring : String) (slots : UInt32) (all : Shared) : Prop :=
  ∀ role, Semaphore.Creatable (SemaphoreName.ofRing ring role) (initially slots.toNat role) all

/-- From `all` to `after` three semaphores were added under the names made of a text, and nothing
else happened. -/
structure Minted (ring : String) (slots : Nat) (t : Triplet) (all after : Shared) : Prop where
  named : ∀ role, after.named (Semaphore.file (SemaphoreName.ofRing ring role)) =
    some (t.playing role).id
  named_other : ∀ file, (∀ role, file ≠ Semaphore.file (SemaphoreName.ofRing ring role)) →
    after.named file = all.named file
  name : ∀ role, (t.playing role).name = SemaphoreName.ofRing ring role
  /-- The semaphores were not there before, and they are three. -/
  new : ∀ role, all.count ≤ (t.playing role).id
  apart : ∀ role role', (t.playing role).id = (t.playing role').id → role = role'
  object : ∀ id, id < all.count → after.object id = all.object id
  content : ∀ role,
    after.object (t.playing role).id = Semaphore.image (initially slots role)
  units : ∀ role, (t.playing role).value after = initially slots role

/-- What a caller can rely on when the creation of three semaphores came to `outcome`. A file that
is in the way need not be that of a semaphore. -/
structure AllOrNothing (ring : String) (slots : UInt32) (all : Shared)
    (outcome : Shared × Except SemaphoreError Triplet) : Prop where
  succeeds_iff : (∃ t, outcome.2 = .ok t) ↔
    slots.toNat ≤ Semaphore.maxCount ∧ Char.ofNat 0 ∉ ring.toList ∧
      (SemaphoreName.stem ring).utf8ByteSize ≤ 244 ∧
      ∀ role, all.named (Semaphore.file (SemaphoreName.ofRing ring role)) = none
  mints : ∀ t, outcome.2 = .ok t → Minted ring slots.toNat t all outcome.1
  spares : ∀ e, outcome.2 = .error e → all.Intact outcome.1

theorem initially_le (hSlots : slots.toNat ≤ Semaphore.maxCount) (role : SemaphoreRole) :
    initially slots.toNat role ≤ Semaphore.maxCount := by
  cases role with
  | free => exact hSlots
  | filled => exact Nat.zero_le _
  | mutex => exact (by decide : 1 ≤ Semaphore.maxCount)

/-- Three semaphores can be created for any text that is short enough, has no NUL and has no such
semaphore yet. -/
theorem mintable_iff :
    Mintable ring slots all ↔
      slots.toNat ≤ Semaphore.maxCount ∧ Char.ofNat 0 ∉ ring.toList ∧
        (SemaphoreName.stem ring).utf8ByteSize ≤ 244 ∧
        ∀ role, all.named (Semaphore.file (SemaphoreName.ofRing ring role)) = none := by
  -- The longest suffix has seven bytes, and the kernel takes words of 251 bytes.
  have hFilled : SemaphoreRole.filled.suffix.utf8ByteSize = 7 := by decide
  constructor
  · intro h
    obtain ⟨hNul, hShort⟩ := Semaphore.checkName_ofRing_iff.mp (h .filled).accepted
    rw [hFilled, Semaphore.longestKey] at hShort
    exact ⟨(h .free).bounded, hNul, by omega, fun role => (h role).unused⟩
  · rintro ⟨hSlots, hNul, hShort, hUnused⟩ role
    have hSuffix := role.utf8ByteSize_suffix_le
    have hFits : (SemaphoreName.stem ring).utf8ByteSize + role.suffix.utf8ByteSize ≤
        Semaphore.longestKey := by
      rw [Semaphore.longestKey]
      omega
    exact ⟨Semaphore.checkName_ofRing_iff.mpr ⟨hNul, hFits⟩, initially_le hSlots role,
      hUnused role⟩

/-- The files after three semaphores were added. -/
def minted (ring : String) (slots : Nat) (all : Shared) : Shared :=
  ((all.insert (Semaphore.file (SemaphoreName.ofRing ring .free)) (Semaphore.image slots)).insert
    (Semaphore.file (SemaphoreName.ofRing ring .filled)) (Semaphore.image 0)).insert
    (Semaphore.file (SemaphoreName.ofRing ring .mutex)) (Semaphore.image 1)

/-- The handles on the semaphores that get added. -/
def handles (ring : String) (all : Shared) : Triplet :=
  ⟨⟨SemaphoreName.ofRing ring .free, all.count⟩,
    ⟨SemaphoreName.ofRing ring .filled, all.count + 1⟩,
    ⟨SemaphoreName.ofRing ring .mutex, all.count + 2⟩⟩

section

variable {slots : Nat} {id : Nat} {file : String} (role : SemaphoreRole)

theorem name_handles : ((handles ring all).playing role).name = SemaphoreName.ofRing ring role := by
  cases role <;> rfl

/-- The semaphores get the next three numbers. -/
theorem id_handles (ring : String) (all : Shared) :
    all.count ≤ ((handles ring all).playing role).id ∧
    ((handles ring all).playing role).id < all.count + 3 := by
  cases role <;> simp only [handles, playing] <;> omega

theorem id_handles_injective {role role' : SemaphoreRole}
    (h : ((handles ring all).playing role).id = ((handles ring all).playing role').id) :
    role = role' := by
  cases role <;> cases role' <;> simp only [handles, playing, reduceCtorEq] at h ⊢ <;> omega

/-- The names of new semaphores lead to them. -/
theorem named_minted : (minted ring slots all).named
    (Semaphore.file (SemaphoreName.ofRing ring role)) =
      some ((handles ring all).playing role).id := by
  cases role with
  | free =>
    -- The two that were added later have other names.
    rw [minted, Catalog.named_insert_other _ _ (SemaphoreName.file_ne_file (by decide)),
      Catalog.named_insert_other _ _ (SemaphoreName.file_ne_file (by decide)),
      Catalog.named_insert_same]
    rfl
  | filled =>
    rw [minted, Catalog.named_insert_other _ _ (SemaphoreName.file_ne_file (by decide)),
      Catalog.named_insert_same]
    rfl
  | mutex => exact Catalog.named_insert_same _ _ _

theorem named_minted_other
    (h : ∀ role, file ≠ Semaphore.file (SemaphoreName.ofRing ring role)) :
    (minted ring slots all).named file = all.named file := by
  rw [minted, Catalog.named_insert_other _ _ (h .mutex), Catalog.named_insert_other _ _ (h .filled),
    Catalog.named_insert_other _ _ (h .free)]

/-- New semaphores have their first counts. -/
theorem object_minted (slots : Nat) : (minted ring slots all).object
    ((handles ring all).playing role).id = Semaphore.image (initially slots role) := by
  have hLast : all.count ≠ all.count + 1 + 1 := by omega
  cases role <;>
    simp [playing, handles, initially, minted, Catalog.insert, Numbered.add, hLast]

theorem object_minted_other (h : ∀ role, id ≠ ((handles ring all).playing role).id) :
    (minted ring slots all).object id = all.object id :=
  (Numbered.object_add_other _ (h .mutex)).trans
    ((Numbered.object_add_other _ (h .filled)).trans (Numbered.object_add_other _ (h .free)))

theorem object_minted_of_lt (h : id < all.count) :
    (minted ring slots all).object id = all.object id :=
  object_minted_other fun role => Nat.ne_of_lt (Nat.lt_of_lt_of_le h (id_handles role _ _).1)

/-- The semaphores count what they should. -/
theorem units_minted (h : initially slots role ≤ Semaphore.maxCount) :
    ((handles ring all).playing role).units (minted ring slots all) = initially slots role :=
  Semaphore.units_image (object_minted role slots) h

end

/-- Three new semaphores are minted as their handles say. -/
theorem minted_handles (hSlots : slots.toNat ≤ Semaphore.maxCount) :
    Minted ring slots.toNat (handles ring all) all (minted ring slots.toNat all) where
  named := named_minted
  named_other _ := named_minted_other
  name := name_handles
  new role := (id_handles role _ _).1
  apart _ _ := id_handles_injective
  object _ := object_minted_of_lt
  content role := object_minted role slots.toNat
  units role := by
    have hMost := initially_le hSlots role
    rw [Semaphore.value_of_le (units_minted role hMost ▸ hMost), units_minted role hMost]

/-- The semaphore created first does not stand in the way of the second. -/
theorem creatable_filled_iff {units : Nat} (m : Memory) :
    Semaphore.Creatable (SemaphoreName.ofRing ring .filled) units
        (all.insert (Semaphore.file (SemaphoreName.ofRing ring .free)) m) ↔
      Semaphore.Creatable (SemaphoreName.ofRing ring .filled) units all :=
  Semaphore.creatable_insert_iff (SemaphoreName.file_ne_file (by decide))

/-- The semaphores created before do not stand in the way of the third. -/
theorem creatable_mutex_iff {units : Nat} (m m' : Memory) :
    Semaphore.Creatable (SemaphoreName.ofRing ring .mutex) units
        ((all.insert (Semaphore.file (SemaphoreName.ofRing ring .free)) m).insert
          (Semaphore.file (SemaphoreName.ofRing ring .filled)) m') ↔
      Semaphore.Creatable (SemaphoreName.ofRing ring .mutex) units all :=
  (Semaphore.creatable_insert_iff (SemaphoreName.file_ne_file (by decide))).trans
    (Semaphore.creatable_insert_iff (SemaphoreName.file_ne_file (by decide)))

/-- If the three semaphores can be created, they are. -/
theorem create_of_mintable :
    Mintable ring slots all →
      create ring slots all = (minted ring slots.toNat all, .ok (handles ring all)) := by
  intro h
  have hFree := Semaphore.create_of_creatable (h .free)
  have hFilled := Semaphore.create_of_creatable
    ((creatable_filled_iff (Semaphore.image slots.toNat)).mpr (h .filled))
  have hMutex := Semaphore.create_of_creatable
    ((creatable_mutex_iff (Semaphore.image slots.toNat) (Semaphore.image 0)).mpr (h .mutex))
  simp only [initially] at hFree hFilled hMutex
  simp only [create, hFree, hFilled, hMutex]
  rfl

theorem withdraw_of_accepted {name : String} {id : Nat} :
    Semaphore.checkName name = .ok () →
      withdraw ⟨name, id⟩ all = all.unlink (Semaphore.file name) := by
  intro h
  simp only [withdraw, Semaphore.unlink_of_accepted h]

/-- If one of the three cannot be created, no name has changed. -/
theorem create_of_not_mintable :
    ¬ Mintable ring slots all →
      ∃ after e, create ring slots all = (after, .error e) ∧ all.Intact after := by
  intro h
  by_cases hFree : Semaphore.Creatable (SemaphoreName.ofRing ring .free) slots.toNat all
  swap
  · -- The first one fails, and nothing was added.
    obtain ⟨e, hCreate⟩ := Semaphore.create_of_not_creatable hFree
    exact ⟨all, e, by simp only [create, hCreate], Catalog.intact_refl all⟩
  have hFirst := Semaphore.create_of_creatable hFree
  by_cases hFilled : Semaphore.Creatable (SemaphoreName.ofRing ring .filled) 0 all
  swap
  · -- The second one fails, and the name of the first one is removed.
    obtain ⟨e, hCreate⟩ := Semaphore.create_of_not_creatable
      (mt (creatable_filled_iff (Semaphore.image slots.toNat)).mp hFilled)
    have hIntact := Catalog.intact_unlink_insert (Semaphore.image slots.toNat) hFree.unused
    refine ⟨_, e, ?_, hIntact⟩
    simp only [create, hFirst, hCreate, withdraw_of_accepted hFree.accepted]
  have hSecond := Semaphore.create_of_creatable
    ((creatable_filled_iff (Semaphore.image slots.toNat)).mpr hFilled)
  have hMutex : ¬ Semaphore.Creatable (SemaphoreName.ofRing ring .mutex) 1 all := by
    intro hMutex
    apply h
    intro role
    cases role with
    | free => exact hFree
    | filled => exact hFilled
    | mutex => exact hMutex
  -- The third one fails, and the names of both are removed.
  obtain ⟨e, hCreate⟩ := Semaphore.create_of_not_creatable
    (mt (creatable_mutex_iff (Semaphore.image slots.toNat) (Semaphore.image 0)).mp hMutex)
  have hUnused := (creatable_filled_iff (Semaphore.image slots.toNat)).mpr hFilled |>.unused
  have hIntact := Catalog.intact_unlink_unlink (Semaphore.image slots.toNat) (Semaphore.image 0)
    hFree.unused hUnused
  refine ⟨_, e, ?_, hIntact⟩
  simp only [create, hFirst, hSecond, hCreate, withdraw_of_accepted hFree.accepted,
    withdraw_of_accepted hFilled.accepted]

/-- Either all three semaphores are created, or no name and no object is touched. -/
theorem allOrNothing (ring : String) (slots : UInt32) (all : Shared) :
    AllOrNothing ring slots all (create ring slots all) := by
  by_cases h : Mintable ring slots all
  -- Either every check is passed, or the names made by then are removed again.
  · have hCreate := create_of_mintable h
    rw [hCreate]
    refine ⟨iff_of_true ⟨_, rfl⟩ (mintable_iff.mp h), ?_, ?_⟩
    · intro t ht
      cases ht
      exact minted_handles (h .free).bounded
    · intro e he
      cases he
  · obtain ⟨after, e, hCreate, hIntact⟩ := create_of_not_mintable h
    rw [hCreate]
    refine ⟨iff_of_false ?_ (mt mintable_iff.mpr h), ?_, ?_⟩
    · rintro ⟨t, ht⟩
      cases ht
    · intro t ht
      cases ht
    · intro e' he
      exact hIntact

/-! ### Names of rings -/

section

variable {n : RingName} (role : SemaphoreRole)

/-- The kernel takes the names of the semaphores of a ring, so only a file can be in the way. -/
theorem mintable_ofRing_iff (hSlots : slots.toNat ≤ Semaphore.maxCount) :
    Mintable n.text slots all ↔
      ∀ role, all.named (Semaphore.file (SemaphoreName.ofRing n.text role)) = none :=
  ⟨fun h role => (h role).unused, fun h role =>
    ⟨Semaphore.checkName_ofRing n role, initially_le hSlots role, h role⟩⟩

/-- None of the three names is left. -/
theorem named_removed : (removed n all).named
    (Semaphore.file (SemaphoreName.ofRing n.text role)) = none := by
  cases role with
  | free =>
    rw [removed, Catalog.named_unlink_other _ (SemaphoreName.file_ne_file (by decide)),
      Catalog.named_unlink_other _ (SemaphoreName.file_ne_file (by decide)),
      Catalog.named_unlink_same]
  | filled =>
    rw [removed, Catalog.named_unlink_other _ (SemaphoreName.file_ne_file (by decide)),
      Catalog.named_unlink_same]
  | mutex => exact Catalog.named_unlink_same _ _

/-- All other names are left. -/
theorem named_removed_other {file : String}
    (h : ∀ role, file ≠ Semaphore.file (SemaphoreName.ofRing n.text role)) :
    (removed n all).named file = all.named file := by
  rw [removed, Catalog.named_unlink_other _ (h .mutex), Catalog.named_unlink_other _ (h .filled),
    Catalog.named_unlink_other _ (h .free)]

end

end Triplet

end RingBus
