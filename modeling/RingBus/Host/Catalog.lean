/-!
# Objects and their names

The kernel keeps objects apart from the names that lead to them: a name can be removed while
handles go on using the object, and a later object of the same name is another one. A `Catalog`
holds both. Objects are told apart by a running number that is never used twice.
-/

namespace RingBus

/-- The objects of one kind. -/
structure Numbered (α : Type) where
  /-- How many objects there have been. -/
  count : Nat
  /-- The object of each number. -/
  object : Nat → α

namespace Numbered

variable {α : Type}

def set (t : Numbered α) (id : Nat) (a : α) : Numbered α :=
  { t with object := fun i => if i = id then a else t.object i }

/-- Adds an object. Its number is the count before. -/
def add (t : Numbered α) (a : α) : Numbered α :=
  { count := t.count + 1
    object := fun i => if i = t.count then a else t.object i }

/-! ### What stands under a number -/

variable {t : Numbered α} {a b : α} {i j : Nat}

@[simp] theorem object_add_count (t : Numbered α) (a : α) : (t.add a).object t.count = a :=
  if_pos rfl

theorem object_add_other (a : α) (h : i ≠ t.count) : (t.add a).object i = t.object i :=
  if_neg h

@[simp] theorem object_set_same (t : Numbered α) (j : Nat) (a : α) : (t.set j a).object j = a :=
  if_pos rfl

theorem object_set_other (a : α) (h : i ≠ j) : (t.set j a).object i = t.object i :=
  if_neg h

/-- What stands under a number after an addition is what was added, or stood there before. -/
theorem of_object_add (h : (t.add a).object i = b) :
    (i = t.count ∧ a = b) ∨ (i ≠ t.count ∧ t.object i = b) := by
  by_cases hNew : i = t.count
  · exact .inl ⟨hNew, by simpa [hNew] using h⟩
  · exact .inr ⟨hNew, (object_add_other a hNew).symm.trans h⟩

/-- What stands under a number after a replacement is the new object, or stood there before. -/
theorem of_object_set (h : (t.set j a).object i = b) :
    (i = j ∧ a = b) ∨ (i ≠ j ∧ t.object i = b) := by
  by_cases hNew : i = j
  · exact .inl ⟨hNew, by simpa [hNew] using h⟩
  · exact .inr ⟨hNew, (object_set_other a hNew).symm.trans h⟩

theorem set_of_object (h : t.object j = a) : t.set j a = t := by
  have hObject : (fun i => if i = j then a else t.object i) = t.object := by
    funext i
    split
    next hi => rw [hi, h]
    next => rfl
  rw [set, hObject]

theorem set_set : (t.set j a).set j b = t.set j b := by
  have hObject : (fun i => if i = j then b else if i = j then a else t.object i) =
      fun i => if i = j then b else t.object i := by
    funext i
    split <;> rfl
  simp only [set, hObject]

end Numbered

/-- The objects of one kind, and the names under which they can be found. -/
structure Catalog (α : Type) extends Numbered α where
  /-- The number that a name leads to. -/
  named : String → Option Nat

namespace Catalog

variable {α : Type}

def empty [Inhabited α] : Catalog α :=
  ⟨⟨0, fun _ => default⟩, fun _ => none⟩

def set (c : Catalog α) (id : Nat) (a : α) : Catalog α :=
  { c with toNumbered := c.toNumbered.set id a }

def insert (c : Catalog α) (name : String) (a : α) : Catalog α :=
  { toNumbered := c.toNumbered.add a
    named := fun n => if n = name then some c.count else c.named n }

/-- Removes a name; the object stays. -/
def unlink (c : Catalog α) (name : String) : Catalog α :=
  { c with named := fun n => if n = name then none else c.named n }

/-! ## What the operations do to objects and names -/

@[simp] theorem object_set_same (c : Catalog α) (id : Nat) (a : α) :
    (c.set id a).object id = a := by
  simp [set, Numbered.set]

@[simp] theorem object_set_other (c : Catalog α) {id i : Nat} (a : α) (h : i ≠ id) :
    (c.set id a).object i = c.object i := by
  simp [set, Numbered.set, h]

@[simp] theorem named_set (c : Catalog α) (id : Nat) (a : α) :
    (c.set id a).named = c.named := rfl

@[simp] theorem count_set (c : Catalog α) (id : Nat) (a : α) :
    (c.set id a).count = c.count := rfl

theorem set_set (c : Catalog α) (id : Nat) (a b : α) : (c.set id a).set id b = c.set id b :=
  congrArg (Catalog.mk · c.named) Numbered.set_set

theorem set_of_object (c : Catalog α) {id : Nat} {a : α} (h : c.object id = a) : c.set id a = c :=
  congrArg (Catalog.mk · c.named) (Numbered.set_of_object h)

/-- Replacements of two objects may come in any order. -/
theorem set_comm (c : Catalog α) {i j : Nat} (a b : α) (h : i ≠ j) :
    (c.set i a).set j b = (c.set j b).set i a := by
  have hObject : ((c.set i a).set j b).object = ((c.set j b).set i a).object := by
    funext k
    by_cases hi : k = i
    · subst hi
      rw [object_set_other _ _ h, object_set_same, object_set_same]
    · by_cases hj : k = j
      · subst hj
        rw [object_set_same, object_set_other _ _ hi, object_set_same]
      · rw [object_set_other _ _ hj, object_set_other _ _ hi, object_set_other _ _ hi,
          object_set_other _ _ hj]
  exact congrArg (fun object => (⟨⟨c.count, object⟩, c.named⟩ : Catalog α)) hObject

@[simp] theorem count_insert (c : Catalog α) (name : String) (a : α) :
    (c.insert name a).count = c.count + 1 := rfl

theorem named_insert_other (c : Catalog α) {name n : String} (a : α) (h : n ≠ name) :
    (c.insert name a).named n = c.named n := by
  simp [insert, h]

/-- What is put in the place of an object that was just added might as well have been added. -/
theorem set_insert (c : Catalog α) (name : String) (a b : α) :
    (c.insert name a).set c.count b = c.insert name b := by
  have hObject : ((c.insert name a).set c.count b).object = (c.insert name b).object := by
    funext id
    by_cases h : id = c.count <;> simp [insert, set, Numbered.add, Numbered.set, h]
  exact congrArg (fun object => (⟨⟨c.count + 1, object⟩, (c.insert name b).named⟩ : Catalog α))
    hObject

@[simp] theorem named_unlink_same (c : Catalog α) (name : String) :
    (c.unlink name).named name = none := by
  simp [unlink]

theorem named_unlink_other (c : Catalog α) {name n : String} (h : n ≠ name) :
    (c.unlink name).named n = c.named n := by
  simp [unlink, h]

@[simp] theorem named_insert_same (c : Catalog α) (name : String) (a : α) :
    (c.insert name a).named name = some c.count := by
  simp [insert]

@[simp] theorem object_insert_same (c : Catalog α) (name : String) (a : α) :
    (c.insert name a).object c.count = a := by
  simp [insert, Numbered.add]

theorem object_insert_of_lt (c : Catalog α) (name : String) (a : α) {i : Nat} (h : i < c.count) :
    (c.insert name a).object i = c.object i := by
  simp [insert, Numbered.add, Nat.ne_of_lt h]

@[simp] theorem object_unlink (c : Catalog α) (name : String) :
    (c.unlink name).object = c.object := rfl

@[simp] theorem count_unlink (c : Catalog α) (name : String) :
    (c.unlink name).count = c.count := rfl

/-- Adding an object under a free name and removing the name again leaves the names as they
were. -/
theorem named_unlink_insert (c : Catalog α) (name : String) (a : α) (h : c.named name = none) :
    ((c.insert name a).unlink name).named = c.named := by
  funext n
  by_cases hn : n = name
  · simp [insert, unlink, hn, h]
  · simp [insert, unlink, hn]

end Catalog
end RingBus
