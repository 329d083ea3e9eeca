import RingBus.Config.Field
import Mathlib.Data.List.Perm.Basic

/-!
# Reading records

A record is read from the entries of a mapping, one after the other, and the reader keeps in mind
which fields it has met. What comes of it is told here without that memory: the entries can be read
if every key is a known field, every value fits its field, and no key occurs twice; and then each
field has the value that stands behind its key, wherever that is.

Nodes are taken for what they say. Where a node stands in the text does not matter to what is read
from it, only to how a fault is told.
-/

namespace RingBus
namespace Config

/-! ## Contents -/

/-- What a node says that may be the value of a field. -/
inductive Content
  | scalar (tag : Option String) (text : String) (style : Yaml.Style)
  | compound
  deriving DecidableEq, Repr

namespace Content

/-- What a node says. -/
def ofNode : Yaml.Node → Content
  | .scalar _ tag text style => .scalar tag text style
  | _ => .compound

/-- The text of a scalar. -/
def text? : Content → Option String
  | .scalar _ text _ => some text
  | .compound => none

/-- The text of a scalar that may spell a value of the kind `asked`: one that is plain, or a literal
whose tag asks for that kind. -/
def spelling? (asked : Yaml.Expectation) : Content → Option String
  | .scalar tag text style =>
    if style = .plain ∨ style = .literal ∧ tag = some asked.tag then some text else none
  | .compound => none

/-- The truth value that a scalar spells. -/
def boolean? (c : Content) : Option Bool :=
  (c.spelling? .boolean).bind Yaml.boolean?

/-- The number of at most so many bits that a scalar spells. -/
def number? (bits : Nat) (c : Content) : Option Nat :=
  ((c.spelling? .integer).bind Yaml.natural?).filter (· < Nat.pow 2 bits)

/-- The number of 32 bits that a scalar spells. -/
def uint32? (c : Content) : Option UInt32 :=
  (c.number? 32).map UInt32.ofNat

/-- The number of 64 bits that a scalar spells. -/
def uint64? (c : Content) : Option UInt64 :=
  (c.number? 64).map UInt64.ofNat

end Content

variable {σ α β : Type}

theorem reject_ne_ok (node : Yaml.Node) (expected : String) (a : α) :
    reject node expected ≠ .ok a := by
  unfold reject
  repeat' split
  all_goals simp

/-- A reader that gets from a node what `parse` gets from its content. -/
def Parses (read : Yaml.Node → Except Fault α) (parse : Content → Option α) : Prop :=
  ∀ node a, read node = .ok a ↔ parse (.ofNode node) = some a

/-- Texts are read from every scalar. -/
theorem parses_readText (expected : String) : Parses (readText expected) Content.text? := by
  intro node s
  cases node <;> simp [readText, Content.ofNode, Content.text?, reject_ne_ok]

/-- A scalar is read by its spelling, if its tag does not ask for another kind. -/
theorem parses_readScalar (asked : Yaml.Expectation) (parse : String → Option α)
    (expected : String) :
    Parses (readScalar asked parse expected) fun c => (c.spelling? asked).bind parse := by
  intro node a
  cases node with
  | scalar head tag text style =>
    simp only [readScalar, Content.ofNode, Content.spelling?, Bool.or_eq_true, Bool.and_eq_true,
      beq_iff_eq]
    split
    · cases h : parse text <;> simp [h, reject_ne_ok]
    · simp [reject_ne_ok]
  | _ => simp [readScalar, Content.ofNode, Content.spelling?, reject_ne_ok]

theorem parses_readBoolean : Parses readBoolean Content.boolean? :=
  parses_readScalar _ _ _

/-- A number is read if it is one of 64 bits that fits in the bits asked for. -/
theorem readNumber_eq_ok_iff {bits n : Nat} {node : Yaml.Node} :
    readNumber bits node = .ok n ↔
      readScalar .integer (fun s => (Yaml.natural? s).filter (· < UInt64.size)) s!"u{bits}" node
        = .ok n ∧ n < Nat.pow 2 bits := by
  simp only [readNumber]
  generalize readScalar .integer _ _ node = read
  cases read with
  | error fault => simp [bind, Except.bind]
  | ok m =>
    by_cases small : m < Nat.pow 2 bits
    · simp only [bind, Except.bind, if_pos small, pure, Except.pure]
      grind
    · simp only [bind, Except.bind, if_neg small, throw, throwThe, MonadExceptOf.throw]
      grind

/-- A number of at most 64 bits is read by its spelling, if it is small enough. -/
theorem parses_readNumber {bits : Nat} (small : bits ≤ 64) :
    Parses (readNumber bits) (Content.number? bits) := by
  intro node n
  have inside : Nat.pow 2 bits ≤ UInt64.size := Nat.pow_le_pow_right (by decide) small
  rw [readNumber_eq_ok_iff, parses_readScalar, Content.number?]
  simp only [Option.bind_eq_some_iff, Option.filter_eq_some_iff, decide_eq_true_eq]
  -- The reader asks for 64 bits first, which is no more than it asks for in the end.
  constructor
  · rintro ⟨⟨s, spelt, reads, -⟩, bounded⟩
    exact ⟨⟨s, spelt, reads⟩, bounded⟩
  · rintro ⟨⟨s, spelt, reads⟩, bounded⟩
    exact ⟨⟨s, spelt, reads, by omega⟩, bounded⟩

/-! ## Entries -/

/-- What the entries of a mapping say, of whose values `view` tells what counts. -/
def said (root : Yaml.Node) (view : Yaml.Node → α) (entries : List (Yaml.Node × Yaml.Node)) :
    List (Content × α) :=
  entries.map fun e => (.ofNode (resolve root e.1), view (resolve root e.2))

/-- The value that stands behind a name. -/
def named? (entries : List (Content × α)) (name : String) : Option α :=
  (entries.find? fun e => e.1.text? == some name).map Prod.snd

/-- Entries that a record may have whose fields are those of `schema`, each with what its values
must be like: the keys are fields, the values are like that, and no key occurs twice. -/
structure Admissible (schema : List (String × (α → Prop))) (entries : List (Content × α)) :
    Prop where
  known : ∀ e ∈ entries, ∃ name fits, (name, fits) ∈ schema ∧ e.1.text? = some name ∧ fits e.2
  once : (entries.map (·.1.text?)).Nodup

variable {root : Yaml.Node} {view : Yaml.Node → α} {schema : List (String × (α → Prop))}

@[simp] theorem said_nil : said root view [] = [] := rfl

@[simp] theorem said_cons (e : Yaml.Node × Yaml.Node) (entries : List (Yaml.Node × Yaml.Node)) :
    said root view (e :: entries) =
      (.ofNode (resolve root e.1), view (resolve root e.2)) :: said root view entries := rfl

@[simp] theorem named?_nil (name : String) : named? ([] : List (Content × α)) name = none := rfl

theorem named?_cons (e : Content × α) (entries : List (Content × α)) (name : String) :
    named? (e :: entries) name =
      if e.1.text? = some name then some e.2 else named? entries name := by
  by_cases h : e.1.text? = some name <;> simp [named?, h]

/-- A name is not found exactly if no entry goes by it. -/
theorem named?_eq_none_iff {entries : List (Content × α)} {name : String} :
    named? entries name = none ↔ some name ∉ entries.map (·.1.text?) := by
  simp [named?]

/-- No key occurs twice, so what stands behind a name does not depend on where it stands. -/
theorem named?_eq_some_iff {entries : List (Content × α)}
    (once : (entries.map (·.1.text?)).Nodup) {name : String} {a : α} :
    named? entries name = some a ↔ ∃ c, (c, a) ∈ entries ∧ c.text? = some name := by
  induction entries with
  | nil => simp
  | cons e entries ih =>
    obtain ⟨fresh, once⟩ := List.nodup_cons.1 once
    rw [named?_cons]
    split
    -- The first entry has the name. No later one does, because no key occurs twice.
    · next here =>
      constructor
      · rintro ⟨⟩
        exact ⟨e.1, by simp, here⟩
      · rintro ⟨c, mem, text⟩
        obtain rfl | later := List.mem_cons.1 mem
        · rfl
        · exact absurd (List.mem_map.2 ⟨_, later, text.trans here.symm⟩) fresh
    · next elsewhere =>
      rw [ih once]
      constructor
      · rintro ⟨c, mem, text⟩
        exact ⟨c, List.mem_cons_of_mem _ mem, text⟩
      · rintro ⟨c, mem, text⟩
        obtain rfl | later := List.mem_cons.1 mem
        · exact absurd text elsewhere
        · exact ⟨c, later, text⟩

theorem exists_mem_of_forall₂ {related : σ → α → Prop} {l : List σ} {l' : List α}
    (h : List.Forall₂ related l l') {a : σ} (mem : a ∈ l) : ∃ b ∈ l', related a b := by
  induction h with
  | nil => cases mem
  | @cons b b' _ _ head _ ih =>
    obtain rfl | later := List.mem_cons.1 mem
    · exact ⟨b', by simp, head⟩
    · obtain ⟨c, mem, same⟩ := ih later
      exact ⟨c, List.mem_cons_of_mem _ mem, same⟩

/-- Entries with the same keys, whose values are related one by one. -/
theorem keys_of_forall₂ {related : α → α → Prop} {entries entries' : List (Content × α)}
    (h : List.Forall₂ (fun e e' => e.1 = e'.1 ∧ related e.2 e'.2) entries entries') :
    entries.map (·.1.text?) = entries'.map (·.1.text?) := by
  induction h with
  | nil => rfl
  | cons head _ ih => simp [head.1, ih]

namespace Admissible

theorem nil : Admissible schema [] :=
  ⟨by simp, by simp⟩

/-- Entries are admissible if the first is a known field that fits and is not named again, and the
others are admissible. -/
theorem cons_iff {e : Content × α} {entries : List (Content × α)} :
    Admissible schema (e :: entries) ↔
      (∃ name fits, (name, fits) ∈ schema ∧ e.1.text? = some name ∧ fits e.2) ∧
        e.1.text? ∉ entries.map (·.1.text?) ∧ Admissible schema entries := by
  constructor
  · rintro ⟨known, once⟩
    obtain ⟨fresh, once⟩ := List.nodup_cons.1 once
    exact ⟨known e (by simp), fresh, fun e' mem => known e' (List.mem_cons_of_mem _ mem), once⟩
  · rintro ⟨here, fresh, known, once⟩
    exact ⟨List.forall_mem_cons.2 ⟨here, known⟩, List.nodup_cons.2 ⟨fresh, once⟩⟩

/-- The order of entries does not decide whether they are admissible. -/
theorem perm_iff {entries entries' : List (Content × α)} (perm : entries.Perm entries') :
    Admissible schema entries ↔ Admissible schema entries' := by
  have keys := perm.map (·.1.text?)
  constructor
  · rintro ⟨known, once⟩
    exact ⟨fun e mem => known e (perm.mem_iff.2 mem), keys.nodup_iff.1 once⟩
  · rintro ⟨known, once⟩
    exact ⟨fun e mem => known e (perm.mem_iff.1 mem), keys.nodup_iff.2 once⟩

/-- Values may be replaced by others that fit as well. -/
theorem of_forall₂ {related : α → α → Prop} {entries entries' : List (Content × α)}
    (fine : Admissible schema entries)
    (h : List.Forall₂ (fun e e' => e.1 = e'.1 ∧ related e.2 e'.2) entries entries')
    (closed : ∀ name fits, (name, fits) ∈ schema → ∀ a b, related a b → fits a → fits b) :
    Admissible schema entries' := by
  refine ⟨fun e' mem => ?_, keys_of_forall₂ h ▸ fine.once⟩
  obtain ⟨e, mem, key, same⟩ := exists_mem_of_forall₂ (List.Forall₂.flip h) mem
  obtain ⟨name, fits, known, text, fit⟩ := fine.known e mem
  exact ⟨name, fits, known, key ▸ text, closed name fits known _ _ same fit⟩

end Admissible

/-! ## Reading entries -/

section Reading

variable {fields : List (RecordField σ)} {start : Yaml.Place}

/-- What it takes to read an entry in front of others. -/
theorem readEntries_cons_eq_ok_iff {seen : List String} {e : Yaml.Node × Yaml.Node}
    {entries : List (Yaml.Node × Yaml.Node)} {record r : σ} :
    readEntries root fields start seen (e :: entries) record = .ok r ↔
      ∃ name field mid, (Content.ofNode (resolve root e.1)).text? = some name ∧
        fields.find? (fun field => field.name == name) = some field ∧ name ∉ seen ∧
        field.read (resolve root e.2) record = .ok mid ∧
        readEntries root fields start (name :: seen) entries mid = .ok r := by
  obtain ⟨key, value⟩ := e
  simp only [readEntries, ← parses_readText "field identifier" (resolve root key)]
  constructor
  · intro h
    repeat' split at h
    all_goals grind
  · rintro ⟨name, field, mid, text, found, fresh, read, rest⟩
    simp [text, found, fresh, read, rest]

/-- Fields that were read before do not occur again. -/
theorem fresh_of_readEntries {entries : List (Yaml.Node × Yaml.Node)} :
    ∀ {seen : List String} {record r : σ},
      readEntries root fields start seen entries record = .ok r →
        ∀ name ∈ seen, some name ∉ (said root view entries).map (·.1.text?) := by
  induction entries with
  | nil => simp
  | cons e entries ih =>
    intro seen record r h name mem
    obtain ⟨own, field, mid, text, -, fresh, -, rest⟩ := readEntries_cons_eq_ok_iff.1 h
    have later := ih rest name (List.mem_cons_of_mem _ mem)
    simp only [said_cons, List.map_cons, List.mem_cons, text, Option.some.injEq, not_or]
    exact ⟨fun same => fresh (same ▸ mem), later⟩

/-- A field that can be read from a node in the domain `dom` just if the value fits. -/
def Follows (view : Yaml.Node → α) (dom : Yaml.Node → Prop) (field : RecordField σ)
    (entry : String × (α → Prop)) : Prop :=
  field.name = entry.1 ∧
    ∀ node record, dom node → ((∃ r, field.read node record = .ok r) ↔ entry.2 (view node))

variable {dom : Yaml.Node → Prop}

/-- The names of the fields that are read are those of the schema. -/
theorem mem_names_iff (follows : List.Forall₂ (Follows view dom) fields schema) {name : String} :
    name ∈ fields.map RecordField.name ↔ ∃ fits, (name, fits) ∈ schema := by
  induction follows with
  | nil => simp
  | @cons field entry fields schema head _ ih =>
    simp only [List.map_cons, List.mem_cons, ih, head.1, Prod.ext_iff, exists_or]
    grind

/-- Looking a name up among the fields comes to looking it up in the schema. -/
theorem find_reads_iff (follows : List.Forall₂ (Follows view dom) fields schema)
    (distinct : (fields.map RecordField.name).Nodup) {name : String} {node : Yaml.Node}
    (inside : dom node) (record : σ) :
    (∃ field, fields.find? (fun field => field.name == name) = some field ∧
        ∃ r, field.read node record = .ok r) ↔
      ∃ fits, (name, fits) ∈ schema ∧ fits (view node) := by
  induction follows with
  | nil => simp
  | @cons field entry fields schema head rest ih =>
    obtain ⟨fresh, distinct⟩ := List.nodup_cons.1 distinct
    by_cases here : field.name = name
    · -- The names are distinct, so no later entry of the schema has this one.
      subst here
      have absent : ∀ fits, (field.name, fits) ∉ schema := fun fits mem =>
        fresh ((mem_names_iff rest).2 ⟨fits, mem⟩)
      simp only [List.find?_cons, beq_self_eq_true, Option.some.injEq, exists_eq_left',
        List.mem_cons, head.2 node record inside, absent, or_false]
      obtain ⟨name, fits⟩ := entry
      simp [head.1]
    · rw [List.find?_cons_of_neg (by simpa using here), ih distinct]
      have other : ∀ fits, (name, fits) ≠ entry := by
        rintro fits rfl
        exact here head.1
      simp [other]

/-- Entries can be read if the record may have them and none was read before. -/
theorem exists_readEntries_iff (follows : List.Forall₂ (Follows view dom) fields schema)
    (distinct : (fields.map RecordField.name).Nodup) {entries : List (Yaml.Node × Yaml.Node)}
    (inside : ∀ e ∈ entries, ∀ name ∈ fields.map RecordField.name,
      (Content.ofNode (resolve root e.1)).text? = some name → dom (resolve root e.2)) :
    ∀ (seen : List String) (record : σ),
      (∃ r, readEntries root fields start seen entries record = .ok r) ↔
        Admissible schema (said root view entries) ∧
          ∀ name ∈ seen, some name ∉ (said root view entries).map (·.1.text?) := by
  induction entries with
  | nil => exact fun seen record => ⟨fun _ => ⟨.nil, by simp⟩, fun _ => ⟨record, rfl⟩⟩
  | cons e entries ih =>
    intro seen record
    obtain ⟨inHead, inside⟩ := List.forall_mem_cons.1 inside
    -- The key of the first entry joins `seen`: being new to `seen` later on is what keeps the
    -- remaining keys apart from it.
    constructor
    · rintro ⟨r, h⟩
      refine ⟨?_, fresh_of_readEntries h⟩
      obtain ⟨name, field, mid, text, found, fresh, read, rest⟩ := readEntries_cons_eq_ok_iff.1 h
      obtain ⟨fine, later⟩ := (ih inside _ _).1 ⟨r, rest⟩
      have named : field.name = name := by simpa using List.find?_some found
      have inDom := inHead name
        (named ▸ List.mem_map_of_mem (List.mem_of_find?_eq_some found)) text
      obtain ⟨fits, mem, fit⟩ :=
        (find_reads_iff follows distinct inDom record).1 ⟨field, found, mid, read⟩
      exact Admissible.cons_iff.2
        ⟨⟨name, fits, mem, text, fit⟩, text ▸ later name (by simp), fine⟩
    · rintro ⟨fine, fresh⟩
      obtain ⟨⟨name, fits, mem, text, fit⟩, once, fine⟩ := Admissible.cons_iff.1 fine
      simp only [said_cons, List.map_cons, List.mem_cons, not_or] at fresh
      have inDom := inHead name ((mem_names_iff follows).2 ⟨fits, mem⟩) text
      obtain ⟨field, found, mid, read⟩ :=
        (find_reads_iff follows distinct inDom record).2 ⟨fits, mem, fit⟩
      have unseen : name ∉ seen := fun mem => (fresh name mem).1 text.symm
      obtain ⟨r, rest⟩ := (ih inside (name :: seen) mid).2
        ⟨fine, List.forall_mem_cons.2 ⟨text ▸ once, fun own mem => (fresh own mem).2⟩⟩
      exact ⟨r, readEntries_cons_eq_ok_iff.2
        ⟨name, field, mid, text, found, unseen, read, rest⟩⟩

/-- Of all the fields, only `name` matters to what `get` gets from the record, and its value does as
`parse` has it. -/
def Observed (fields : List (RecordField σ)) (view : Yaml.Node → α) (name : String)
    (parse : α → Option β) (get : σ → β) : Prop :=
  ∀ field ∈ fields, ∀ node record r, field.read node record = .ok r →
    get r = if field.name = name then (parse (view node)).getD (get record) else get record

/-- What is got from a record after its entries were read is the value that stands behind the name,
wherever it stands, or what was got before. -/
theorem get_of_readEntries {name : String} {parse : α → Option β} {get : σ → β}
    (observed : Observed fields view name parse get) {entries : List (Yaml.Node × Yaml.Node)} :
    ∀ {seen : List String} {record r : σ},
      readEntries root fields start seen entries record = .ok r →
        get r = ((named? (said root view entries) name).bind parse).getD (get record) := by
  induction entries with
  | nil =>
    rintro seen record r ⟨⟩
    rfl
  | cons e entries ih =>
    intro seen record r h
    obtain ⟨own, field, mid, text, found, -, read, rest⟩ := readEntries_cons_eq_ok_iff.1 h
    have named : field.name = own := by simpa using List.find?_some found
    have effect := observed field (List.mem_of_find?_eq_some found) _ _ _ read
    rw [ih rest, said_cons, named?_cons, effect, named, text]
    by_cases here : own = name
    · -- No later entry has this key, so the value that was read stays.
      subst here
      have noMore : named? (said root view entries) own = none :=
        named?_eq_none_iff.2 (fresh_of_readEntries rest own (by simp))
      simp [noMore]
    · simp [here]

end Reading

/-! ## Reading records -/

/-- The entries of a mapping. Nothing else has any. -/
def entriesOf : Yaml.Node → List (Yaml.Node × Yaml.Node)
  | .mapping _ entries => entries
  | _ => []

/-- A mapping, or nothing at all. -/
inductive IsRecord : Yaml.Node → Prop
  | mapping (head : Yaml.Head) (entries : List (Yaml.Node × Yaml.Node)) :
    IsRecord (.mapping head entries)
  | empty (head : Yaml.Head) (tag : Option String) : IsRecord (.scalar head tag "" .plain)

instance : DecidablePred IsRecord
  | .mapping head entries => isTrue (.mapping head entries)
  | .scalar head tag text style =>
    if h : text = "" ∧ style = .plain then
      isTrue (by obtain ⟨rfl, rfl⟩ := h; exact .empty head tag)
    else isFalse (by rintro ⟨⟩; exact h ⟨rfl, rfl⟩)
  | .sequence _ _ => isFalse (by rintro ⟨⟩)
  | .alias _ => isFalse (by rintro ⟨⟩)
  | .cut _ => isFalse (by rintro ⟨⟩)

/-- Only records are read as such. -/
theorem isRecord_of_readRecord {fields : List (RecordField σ)} {expected : String}
    {node : Yaml.Node} {record r : σ} (h : readRecord root fields expected node record = .ok r) :
    IsRecord node := by
  unfold readRecord at h
  split at h
  · exact .mapping _ _
  · exact .empty _ _
  · exact absurd h (reject_ne_ok _ _ _)

/-- A record is its entries. -/
theorem IsRecord.readRecord_eq {node : Yaml.Node} (h : IsRecord node) (root : Yaml.Node)
    (fields : List (RecordField σ)) (expected : String) :
    ∃ start, ∀ record, readRecord root fields expected node record =
      readEntries root fields start [] (entriesOf node) record := by
  cases h with
  | mapping head entries => exact ⟨head.place, fun record => rfl⟩
  | empty head tag => exact ⟨.start, fun record => rfl⟩

end Config
end RingBus
