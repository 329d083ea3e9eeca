import RingBus.Host.Files

/-!
# Places in the file tree

Where a path leads depends on directories alone. What is made and removed at a plainly named place
leaves the directories, so it leaves where all other paths lead.

* `Files.SameDirectories`: two trees differ in no directory.
* `Files.place?`: the place at which a path can name a file.
* `Files.remove_cases`: removing by path empties that place, unless it is a directory.
-/

namespace RingBus

namespace Files

variable {f g : Files} {path : String} {place π : List String} {id : Nat}

/-! ## Directories -/

/-- The directories of two trees are the same. -/
structure SameDirectories (f g : Files) : Prop where
  workingDirectory : f.workingDirectory = g.workingDirectory
  isDirectory : ∀ place, f.isDirectory place = g.isDirectory place

namespace SameDirectories

theorem refl (f : Files) : SameDirectories f f :=
  ⟨rfl, fun _ => rfl⟩

theorem symm (same : SameDirectories f g) : SameDirectories g f :=
  ⟨same.workingDirectory.symm, fun place => (same.isDirectory place).symm⟩

theorem trans {h : Files} (same : SameDirectories f g) (same' : SameDirectories g h) :
    SameDirectories f h :=
  ⟨same.workingDirectory.trans same'.workingDirectory,
    fun place => (same.isDirectory place).trans (same'.isDirectory place)⟩

end SameDirectories

theorem isDirectory_iff : f.isDirectory place = true ↔ f.entry place = some .directory := by
  unfold isDirectory
  split
  next h => exact iff_of_true rfl h
  next h => exact iff_of_false Bool.false_ne_true h

theorem follow_cons_of_word {slashed : Bool} {word : String} {rest : List String}
    (hDot : word ≠ ".") (hDots : word ≠ "..") :
    f.follow slashed place (word :: rest) =
      if maxWord < word.utf8ByteSize then .error .nameTooLong
      else if rest.isEmpty then .ok ⟨place ++ [word], true, slashed⟩
      else
        match f.entry (place ++ [word]) with
        | none => .error .noEntry
        | some .directory => f.follow slashed (place ++ [word]) rest
        | some _ => .error .notDirectory := by
  rw [follow, if_neg hDot]
  exact if_neg hDots

/-- A path goes on through directories only. -/
theorem follow_cons_eq_ok_iff {slashed : Bool} {word : String} {rest : List String}
    {at_ : Location} :
    f.follow slashed place (word :: rest) = .ok at_ ↔
      word = "." ∧ f.follow slashed place rest = .ok at_ ∨
      word = ".." ∧ f.follow slashed place.dropLast rest = .ok at_ ∨
      (word ≠ "." ∧ word ≠ ".." ∧ word.utf8ByteSize ≤ maxWord) ∧
        (rest = [] ∧ at_ = ⟨place ++ [word], true, slashed⟩ ∨
          rest ≠ [] ∧ f.isDirectory (place ++ [word]) = true ∧
            f.follow slashed (place ++ [word]) rest = .ok at_) := by
  by_cases hDot : word = "."
  · subst hDot
    rw [follow, if_pos rfl]
    simp
  by_cases hDots : word = ".."
  · subst hDots
    rw [follow, if_neg hDot, if_pos rfl]
    simp
  rw [follow_cons_of_word hDot hDots]
  by_cases hLong : maxWord < word.utf8ByteSize
  · rw [if_pos hLong]
    simp [hDot, hDots, Nat.not_le.mpr hLong]
  rw [if_neg hLong]
  simp only [hDot, hDots, Nat.not_lt.mp hLong, false_and, false_or, ne_eq, not_false_eq_true,
    true_and]
  cases rest with
  | nil =>
    simp only [List.isEmpty_nil, if_true, not_true_eq_false, false_and, or_false, true_and,
      Except.ok.injEq]
    exact eq_comm
  | cons next more =>
    simp only [List.isEmpty_cons, Bool.false_eq_true, if_false, reduceCtorEq, false_and, false_or,
      not_false_eq_true, true_and, isDirectory_iff]
    -- Not at the end, so the tree has to have a directory here.
    cases hEntry : f.entry (place ++ [word]) with
    | none => simp
    | some e => cases e <;> simp

/-- Following words leads to the same place in trees with the same directories. -/
theorem SameDirectories.follow (same : SameDirectories f g) {slashed : Bool}
    {words : List String} {at_ : Location} :
    f.follow slashed place words = .ok at_ → g.follow slashed place words = .ok at_ := by
  intro h
  induction words generalizing place with
  | nil => exact h
  | cons word rest ih =>
    -- In each of its cases a word asks the tree for nothing but a directory.
    rw [follow_cons_eq_ok_iff] at h ⊢
    rw [← same.isDirectory]
    exact h.imp (And.imp_right ih)
      (Or.imp (And.imp_right ih) (And.imp_right (Or.imp_right (And.imp_right (And.imp_right ih)))))

/-- The words of a path. -/
def words (path : String) : List String :=
  ((Path.pieces path.toList).map String.ofList).filter (· != "")

theorem locate_eq_follow (hEmpty : path ≠ "") (hShort : path.utf8ByteSize ≤ maxPath) :
    f.locate path =
      f.follow (path.toList.getLast? == some '/')
        (if Path.isAbsolute path then [] else f.workingDirectory) (words path) := by
  rw [locate, if_neg hEmpty, if_neg (Nat.not_lt.mpr hShort)]
  rfl

/-- A path leads to the same place in trees with the same directories. -/
theorem SameDirectories.locate (same : SameDirectories f g) {at_ : Location} :
    f.locate path = .ok at_ → g.locate path = .ok at_ := by
  intro h
  by_cases hEmpty : path = ""
  · rw [Files.locate, if_pos hEmpty] at h
    cases h
  by_cases hLong : maxPath < path.utf8ByteSize
  · rw [Files.locate, if_neg hEmpty, if_pos hLong] at h
    cases h
  rw [locate_eq_follow hEmpty (Nat.not_lt.mp hLong)] at h ⊢
  rw [← same.workingDirectory]
  exact same.follow h

/-! ## Dots -/

/-- Dots inside a path do not count. -/
theorem follow_filter {slashed : Bool} {words : List String} (hLast : words.getLast? ≠ some ".") :
    f.follow slashed place (words.filter (· != ".")) = f.follow slashed place words := by
  induction words generalizing place with
  | nil => rfl
  | cons word rest ih =>
    have hRest : rest ≠ [] → rest.getLast? ≠ some "." := by
      intro hSome
      rwa [List.getLast?_cons_of_ne_nil hSome] at hLast
    by_cases hDot : word = "."
    -- A dot is not the last word, so following it leads nowhere new.
    · have hSome : rest ≠ [] := by
        rintro rfl
        exact hLast (congrArg some hDot)
      rw [List.filter_cons_of_neg (by simp [hDot]), follow, if_pos hDot]
      exact ih (hRest hSome)
    rw [List.filter_cons_of_pos (by simp [hDot])]
    by_cases hSome : rest = []
    · rw [hSome, List.filter_nil]
    have ih' := fun place => @ih place (hRest hSome)
    by_cases hDots : word = ".."
    · rw [follow, follow, if_neg hDot, if_neg hDot, if_pos hDots, if_pos hDots]
      exact ih' _
    · -- Something other than dots follows, so the word stands last in neither.
      have hMem : rest.getLast hSome ∈ rest.filter (· != ".") := by
        refine List.mem_filter.mpr ⟨List.getLast_mem hSome, bne_iff_ne.mpr ?_⟩
        intro hDot'
        exact hRest hSome ((List.getLast?_eq_some_getLast hSome).trans (congrArg some hDot'))
      rw [follow_cons_of_word hDot hDots, follow_cons_of_word hDot hDots, ih',
        List.isEmpty_eq_false_iff.mpr (List.ne_nil_of_mem hMem),
        List.isEmpty_eq_false_iff.mpr hSome]

theorem slashed_of_follow {slashed : Bool} {words : List String} {at_ : Location} :
    f.follow slashed place words = .ok at_ → at_.slashed = slashed := by
  intro h
  induction words generalizing place with
  | nil =>
    cases h
    rfl
  | cons word rest ih =>
    rcases follow_cons_eq_ok_iff.mp h with ⟨_, hRest⟩ | ⟨_, hRest⟩ | ⟨_, ⟨_, rfl⟩ | ⟨_, _, hRest⟩⟩
    · exact ih hRest
    · exact ih hRest
    · rfl
    · exact ih hRest

theorem getLast?_of_plain {slashed : Bool} {words : List String} {at_ : Location} :
    f.follow slashed place words = .ok at_ → at_.plain = true → words.getLast? ≠ some "." := by
  intro h hPlain
  induction words generalizing place with
  | nil => exact nofun
  | cons word rest ih =>
    -- Nothing behind would leave the place without a plain name.
    have hMore : (∃ place', f.follow slashed place' rest = .ok at_) →
        (word :: rest).getLast? ≠ some "." := by
      rintro ⟨place', hRest⟩
      have hSome : rest ≠ [] := by
        rintro rfl
        cases hRest
        cases hPlain
      rw [List.getLast?_cons_of_ne_nil hSome]
      exact ih hRest
    rcases follow_cons_eq_ok_iff.mp h with ⟨_, hRest⟩ | ⟨_, hRest⟩ |
      ⟨⟨hDot, _⟩, ⟨rfl, _⟩ | ⟨_, _, hRest⟩⟩
    · exact hMore ⟨_, hRest⟩
    · exact hMore ⟨_, hRest⟩
    · exact fun hLast => hDot (Option.some.inj hLast)
    · exact hMore ⟨_, hRest⟩

/-- A path that starts among directories and does not end in a plain word leads to a directory. -/
theorem isDirectory_of_not_plain {slashed : Bool} {words : List String} {at_ : Location}
    (hStart : ∀ above, above <+: place → f.isDirectory above = true) :
    f.follow slashed place words = .ok at_ → at_.plain = false →
      f.isDirectory at_.place = true := by
  intro h hDots
  -- On the words: whatever is above the place that has been reached is a directory, too.
  induction words generalizing place with
  | nil =>
    cases h
    exact hStart place (List.prefix_refl _)
  | cons word rest ih =>
    rcases follow_cons_eq_ok_iff.mp h with ⟨_, hRest⟩ | ⟨_, hRest⟩ |
      ⟨_, ⟨_, rfl⟩ | ⟨_, hDirectory, hRest⟩⟩
    · exact ih hStart hRest
    · exact ih (fun above hAbove => hStart above (hAbove.trans (List.dropLast_prefix _))) hRest
    · cases hDots
    · refine ih (fun above hAbove => ?_) hRest
      rcases List.prefix_concat_iff.mp hAbove with rfl | hAbove
      · exact hDirectory
      · exact hStart above hAbove

/-! ## Files with a plain name -/

/-- The place at which a path names a file, if it ends in a plain word. -/
def place? (f : Files) (path : String) : Option (List String) :=
  match f.locate path with
  | .ok ⟨place, true, false⟩ => some place
  | _ => none

/-- A path names a place if it leads there plainly, without a slash behind. -/
theorem place?_eq_some_iff : f.place? path = some π ↔ f.locate path = .ok ⟨π, true, false⟩ := by
  unfold place?
  constructor
  · intro h
    split at h
    next hLocate => rw [hLocate, Option.some.inj h]
    next => cases h
  · intro h
    rw [h]

/-- A path names the same place in trees with the same directories. -/
theorem SameDirectories.place? (same : SameDirectories f g) : f.place? path = g.place? path := by
  apply Option.ext
  intro π
  rw [place?_eq_some_iff, place?_eq_some_iff]
  exact ⟨same.locate, same.symm.locate⟩

/-- A path finds the socket at its place. -/
theorem find_of_socket :
    f.place? path = some π → f.entry π = some (.socket id) →
      f.find path = .ok (π, .socket id) := by
  intro hPlace hEntry
  simp only [find, place?_eq_some_iff.mp hPlace, bind, Except.bind, hEntry]
  rfl

/-- A path that finds a socket leads to its place without a slash behind. -/
theorem locate_of_find_socket :
    f.find path = .ok (π, .socket id) →
      ∃ plain, f.locate path = .ok ⟨π, plain, false⟩ ∧ f.entry π = some (.socket id) := by
  intro h
  unfold find at h
  cases hLocate : f.locate path with
  | error _ =>
    rw [hLocate] at h
    cases h
  | ok at_ =>
    rw [hLocate] at h
    simp only [bind, Except.bind] at h
    split at h
    next => cases h
    next => cases h
    next hEntry =>
      split at h
      next => cases h
      next hSlashed =>
        cases h
        rw [Bool.not_eq_true] at hSlashed
        exact ⟨at_.plain, by rw [← hSlashed], hEntry⟩

theorem find_of_none :
    f.place? path = some π → f.entry π = none → f.find path = .error .noEntry := by
  intro hPlace hEntry
  simp only [find, place?_eq_some_iff.mp hPlace, bind, Except.bind, hEntry]

theorem vacant_of_none :
    f.place? path = some π → f.entry π = none → f.vacant path = .ok ⟨π, true, false⟩ := by
  intro hPlace hEntry
  simp only [vacant, place?_eq_some_iff.mp hPlace, bind, Except.bind, hEntry]
  rfl

/-- Unless there is nothing at its place, a path is vacant only if it ends in a slash. -/
theorem slashed_of_vacant {at_ : Location} :
    (∀ π, f.place? path = some π → f.entry π ≠ none) → f.vacant path = .ok at_ →
      at_.slashed = true := by
  intro hTaken hVacant
  unfold vacant at hVacant
  cases hLocate : f.locate path with
  | error _ =>
    rw [hLocate] at hVacant
    cases hVacant
  | ok found =>
    rw [hLocate] at hVacant
    simp only [bind, Except.bind] at hVacant
    split at hVacant
    next => cases hVacant
    next hFree =>
      cases hVacant
      rw [Bool.or_eq_true, not_or, Bool.not_eq_true', Bool.not_eq_false,
        Option.not_isSome_iff_eq_none] at hFree
      rcases at_ with ⟨place, plain, slashed⟩
      cases slashed with
      | true => rfl
      | false =>
        -- Then the path names a file at its place, where something is.
        obtain rfl : plain = true := hFree.1
        exact absurd hFree.2 (hTaken place (place?_eq_some_iff.mpr hLocate))

/-! ## Changes at a place -/

/-- A path removes what is at its place, unless that is a directory. -/
theorem remove_of_place :
    f.place? path = some π → f.isDirectory π = false → f.remove path = f.erase π := by
  intro hPlace hFile
  rw [remove, place?_eq_some_iff.mp hPlace]
  simp [hFile]

theorem remove_of_directory :
    f.place? path = some π → f.isDirectory π = true → f.remove path = f := by
  intro hPlace hDirectory
  rw [remove, place?_eq_some_iff.mp hPlace]
  simp [hDirectory]

/-- A path that names no place removes nothing. -/
theorem remove_of_no_place : f.place? path = none → f.remove path = f := by
  intro hNone
  rw [remove]
  cases hLocate : f.locate path with
  | error _ => rfl
  | ok at_ =>
    rcases at_ with ⟨place, plain, slashed⟩
    cases plain with
    | false => rfl
    | true =>
      cases slashed with
      | true => rfl
      | false =>
        rw [place?_eq_some_iff.mpr hLocate] at hNone
        cases hNone

theorem entry_erase_of_ne (h : place ≠ π) : (f.erase π).entry place = f.entry place :=
  if_neg h

theorem entry_put_of_ne {e : Entry} (h : place ≠ π) : (f.put π e).entry place = f.entry place :=
  if_neg h

theorem put_erase {e : Entry} : (f.erase π).put π e = f.put π e := by
  have hEntry : (fun p => if p = π then some e else if p = π then none else f.entry p) =
      fun p => if p = π then some e else f.entry p := by
    funext p
    split <;> rfl
  rw [put, put, erase]
  exact congrArg (Files.mk · f.workingDirectory) hEntry

/-- What changes at one place only, and neither was nor is a directory, leaves the directories. -/
theorem sameDirectories_of_entry (hWorking : f.workingDirectory = g.workingDirectory)
    (hOther : ∀ place ≠ π, f.entry place = g.entry place) (hf : f.isDirectory π = false)
    (hg : g.isDirectory π = false) : SameDirectories f g := by
  refine ⟨hWorking, ?_⟩
  intro place
  by_cases hPlace : place = π
  · rw [hPlace, hf, hg]
  · rw [isDirectory, isDirectory, hOther place hPlace]

theorem sameDirectories_erase (h : f.isDirectory π = false) : SameDirectories (f.erase π) f := by
  refine sameDirectories_of_entry rfl (fun _ => entry_erase_of_ne) ?_ h
  rw [isDirectory, erase]
  simp

theorem sameDirectories_put_socket (h : f.isDirectory π = false) :
    SameDirectories (f.put π (.socket id)) f := by
  refine sameDirectories_of_entry rfl (fun _ => entry_put_of_ne) ?_ h
  rw [isDirectory, put]
  simp

/-- Removing by path does nothing, or empties the place of the path. -/
theorem remove_cases (f : Files) (path : String) :
    (∃ π, f.place? path = some π ∧ f.isDirectory π = false ∧ f.remove path = f.erase π) ∨
      f.remove path = f ∧ ∀ π, f.place? path = some π → f.isDirectory π = true := by
  cases hPlace : f.place? path with
  | none => exact .inr ⟨remove_of_no_place hPlace, fun π h => by cases h⟩
  | some π =>
    cases hDirectory : f.isDirectory π with
    | false => exact .inl ⟨π, rfl, hDirectory, remove_of_place hPlace hDirectory⟩
    | true =>
      refine .inr ⟨remove_of_directory hPlace hDirectory, ?_⟩
      intro π' h
      rw [← Option.some.inj h, hDirectory]

/-- Removal leaves all directories. -/
theorem sameDirectories_remove (f : Files) (path : String) :
    SameDirectories (f.remove path) f := by
  rcases remove_cases f path with ⟨π, _, hFile, hRemove⟩ | ⟨hRemove, _⟩
  · rw [hRemove]
    exact sameDirectories_erase hFile
  · rw [hRemove]
    exact .refl f

/-- Whatever a path does not name stays. -/
theorem entry_remove_of_ne (h : f.place? path ≠ some π) :
    (f.remove path).entry π = f.entry π := by
  rcases remove_cases f path with ⟨π', hPlace, _, hRemove⟩ | ⟨hRemove, _⟩
  · rw [hRemove]
    exact entry_erase_of_ne fun hSame => h (hSame ▸ hPlace)
  · rw [hRemove]

/-- A socket that is found after something was removed could be found before. -/
theorem find_of_find_remove {removed : String} :
    (f.remove removed).find path = .ok (π, .socket id) → f.find path = .ok (π, .socket id) := by
  intro hFind
  obtain ⟨plain, hLocate, hEntry⟩ := locate_of_find_socket hFind
  -- What was removed is not at the place of the socket, because the socket is still there.
  have hBefore : f.entry π = some (.socket id) := by
    rcases remove_cases f removed with ⟨π', _, _, hRemove⟩ | ⟨hRemove, _⟩
    · rw [hRemove] at hEntry
      by_cases hPlace : π = π'
      · exact absurd (hEntry.symm.trans (if_pos hPlace)) (Option.some_ne_none _)
      · rwa [entry_erase_of_ne hPlace] at hEntry
    · rwa [hRemove] at hEntry
  have hLocate' := (sameDirectories_remove f removed).locate hLocate
  simp only [find, hLocate', bind, Except.bind, hBefore]
  rfl

end Files

end RingBus
