import RingBus.Config.Basic
import RingBus.Proofs.Config.Records

/-!
# The layout of a document

What a document says is laid out by sections and fields. From that layout alone follows whether
settings come of the document, and which: `Outline.Valid` says what may stand where, and
`Outline.settings` fills in what is absent. In neither does the order of sections or of fields
count.
-/

namespace RingBus
namespace Config

/-! ## Layout -/

/-- The sections of a document with their keys, and the fields of each. -/
abbrev Outline := List (Content × List (Content × Content))

/-- The fields of a section. -/
def fieldsOf (root node : Yaml.Node) : List (Content × Content) :=
  said root .ofNode (entriesOf node)

/-- What a tree says. -/
def outline (root : Yaml.Node) : Outline :=
  said root (fieldsOf root) (entriesOf (resolve root root))

/-- What a section on the daemon may say. -/
def daemonSchema : List (String × (Content → Prop)) :=
  [("socket_path", fun c => c.text?.isSome), ("evict_unreachable", fun c => c.boolean?.isSome)]

/-- What a section on clients may say. -/
def clientSchema : List (String × (Content → Prop)) :=
  [("socket_dir", fun c => c.text?.isSome)]

/-- What a section on rings may say. -/
def ringSchema : List (String × (Content → Prop)) :=
  [("slot_count", fun c => c.uint32?.isSome), ("slot_size", fun c => c.uint32?.isSome),
   ("open_attempts", fun c => c.uint32?.isSome), ("open_backoff_ms", fun c => c.uint64?.isSome)]

/-- What a document may say. -/
def documentSchema : List (String × (List (Content × Content) → Prop)) :=
  [("daemon", Admissible daemonSchema), ("client", Admissible clientSchema),
   ("ring", Admissible ringSchema)]

namespace Outline

/-- Every key is known and stands there once, among the sections and in each section, and every
value is of its field's type. -/
def Valid (o : Outline) : Prop :=
  Admissible documentSchema o

/-- What stands in a field of a section. -/
def given? (o : Outline) (heading field : String) : Option Content :=
  (named? o heading).bind (named? · field)

/-- That something stands in a field of a section. -/
def Stands (o : Outline) (heading field : String) (c : Content) : Prop :=
  ∃ key fields, (key, fields) ∈ o ∧ key.text? = some heading ∧
    ∃ key', (key', c) ∈ fields ∧ key'.text? = some field

/-- What is set, and what is used where nothing is. -/
def settings (o : Outline) : Settings where
  socketPath := ((o.given? "daemon" "socket_path").bind Content.text?).getD "/tmp/ipc_daemon.sock"
  evictUnreachable := ((o.given? "daemon" "evict_unreachable").bind Content.boolean?).getD false
  socketDir := ((o.given? "client" "socket_dir").bind Content.text?).getD "/tmp"
  slotCount := ((o.given? "ring" "slot_count").bind Content.uint32?).getD 8
  slotSize := ((o.given? "ring" "slot_size").bind Content.uint32?).getD 256
  openAttempts := ((o.given? "ring" "open_attempts").bind Content.uint32?).getD 20
  openBackoffMillis := ((o.given? "ring" "open_backoff_ms").bind Content.uint64?).getD 100

/-- The same sections with the same fields, in another order. -/
def Reordered (o o' : Outline) : Prop :=
  ∃ mid, o.Perm mid ∧ List.Forall₂ (fun s s' => s.1 = s'.1 ∧ s.2.Perm s'.2) mid o'

end Outline

/-- A document without fault whose root is a mapping or empty, and each section of it too. -/
structure Sectioned (doc : Yaml.Document) : Prop where
  whole : doc.fault? = none
  root : IsRecord (resolve doc.root doc.root)
  sections : ∀ e ∈ entriesOf (resolve doc.root doc.root), ∀ name ∈ ["daemon", "client", "ring"],
    (Content.ofNode (resolve doc.root e.1)).text? = some name → IsRecord (resolve doc.root e.2)

instance : DecidablePred Sectioned := fun doc =>
  decidable_of_iff
    (doc.fault? = none ∧ IsRecord (resolve doc.root doc.root) ∧
      ∀ e ∈ entriesOf (resolve doc.root doc.root), ∀ name ∈ ["daemon", "client", "ring"],
        (Content.ofNode (resolve doc.root e.1)).text? = some name →
          IsRecord (resolve doc.root e.2))
    ⟨fun ⟨whole, root, sections⟩ => ⟨whole, root, sections⟩,
      fun ⟨whole, root, sections⟩ => ⟨whole, root, sections⟩⟩

/-! ## Reading sections -/

variable {α β : Type}

/-- A field made of a reader and a setter reads what the reader's grammar says, and sets it. -/
theorem make_read_eq_ok_iff {read : Yaml.Node → Except Fault α} {parse : Content → Option α}
    (parses : Parses read parse) {name : String} {set : α → Settings → Settings}
    {node : Yaml.Node} {s r : Settings} :
    (RecordField.make name read set).read node s = .ok r ↔
      ∃ a, parse (.ofNode node) = some a ∧ set a s = r := by
  simp only [← parses node, RecordField.make]
  cases read node <;> simp [Except.map]

/-- A field that is read by itself follows what its values must be like. -/
theorem follows_make {read : Yaml.Node → Except Fault α} {parse : Content → Option α}
    (parses : Parses read parse) (name : String) (set : α → Settings → Settings)
    {fits : Content → Prop} (same : ∀ c, fits c ↔ (parse c).isSome) :
    Follows .ofNode (fun _ => True) (RecordField.make name read set) (name, fits) := by
  refine ⟨rfl, fun node record _ => ?_⟩
  simp [make_read_eq_ok_iff parses, same, Option.isSome_iff_exists]

theorem follows_daemonFields :
    List.Forall₂ (Follows Content.ofNode fun _ => True) Settings.daemonFields daemonSchema :=
  .cons (follows_make (parses_readText _) _ _ fun _ => .rfl) <|
  .cons (follows_make parses_readBoolean _ _ fun _ => .rfl) .nil

theorem follows_clientFields :
    List.Forall₂ (Follows Content.ofNode fun _ => True) Settings.clientFields clientSchema :=
  .cons (follows_make (parses_readText _) _ _ fun _ => .rfl) .nil

theorem follows_ringFields :
    List.Forall₂ (Follows Content.ofNode fun _ => True) Settings.ringFields ringSchema := by
  have narrow := parses_readNumber (show 32 ≤ 64 by decide)
  have wide := parses_readNumber (show 64 ≤ 64 by decide)
  exact .cons (follows_make narrow _ _ fun _ => by simp [Content.uint32?]) <|
    .cons (follows_make narrow _ _ fun _ => by simp [Content.uint32?]) <|
    .cons (follows_make narrow _ _ fun _ => by simp [Content.uint32?]) <|
    .cons (follows_make wide _ _ fun _ => by simp [Content.uint64?]) .nil

/-- A section can be read if its fields can. -/
theorem follows_section {fields : List (RecordField Settings)}
    {schema : List (String × (Content → Prop))}
    (follows : List.Forall₂ (Follows Content.ofNode fun _ => True) fields schema)
    (distinct : (fields.map RecordField.name).Nodup) (root : Yaml.Node) (name expected : String) :
    Follows (fieldsOf root) IsRecord ⟨name, readRecord root fields expected⟩
      (name, Admissible schema) := by
  refine ⟨rfl, fun node record isRecord => ?_⟩
  obtain ⟨start, same⟩ := isRecord.readRecord_eq root fields expected
  simp only [same]
  rw [exists_readEntries_iff follows distinct (fun _ _ _ _ _ => trivial)]
  simp [fieldsOf]

/-- The reader of a document knows the sections that its schema allows, and no others. -/
theorem follows_sections (root : Yaml.Node) :
    List.Forall₂ (Follows (fieldsOf root) IsRecord) (Settings.sections root) documentSchema :=
  .cons (follows_section follows_daemonFields (by decide) root _ _) <|
  .cons (follows_section follows_clientFields (by decide) root _ _) <|
  .cons (follows_section follows_ringFields (by decide) root _ _) .nil

/-- Settings come of a document if its outline is valid. -/
theorem exists_settings_iff {doc : Yaml.Document} (sectioned : Sectioned doc) :
    (∃ s, Settings.ofNode doc.root = .ok s) ↔ (outline doc.root).Valid := by
  obtain ⟨start, same⟩ :=
    sectioned.root.readRecord_eq doc.root (Settings.sections doc.root) "struct RawConfig"
  simp only [Settings.ofNode, same]
  rw [exists_readEntries_iff (follows_sections doc.root) (by simp [Settings.sections])
    sectioned.sections]
  simp [Outline.Valid, outline]

/-! ## What is read -/

/-- Of all settings, only the field at `place` matters to what `get` gets, and its value does as
`parse` has it. -/
structure Observes (get : Settings → β) (place : String × String) (parse : Content → Option β) :
    Prop where
  socketPath : ∀ c v s, c.text? = some v → get { s with socketPath := v } =
    if place = ("daemon", "socket_path") then (parse c).getD (get s) else get s
  evictUnreachable : ∀ c v s, c.boolean? = some v → get { s with evictUnreachable := v } =
    if place = ("daemon", "evict_unreachable") then (parse c).getD (get s) else get s
  socketDir : ∀ c v s, c.text? = some v → get { s with socketDir := v } =
    if place = ("client", "socket_dir") then (parse c).getD (get s) else get s
  slotCount : ∀ c v s, c.uint32? = some v → get { s with slotCount := v } =
    if place = ("ring", "slot_count") then (parse c).getD (get s) else get s
  slotSize : ∀ c v s, c.uint32? = some v → get { s with slotSize := v } =
    if place = ("ring", "slot_size") then (parse c).getD (get s) else get s
  openAttempts : ∀ c v s, c.uint32? = some v → get { s with openAttempts := v } =
    if place = ("ring", "open_attempts") then (parse c).getD (get s) else get s
  openBackoffMillis : ∀ c v s, c.uint64? = some v → get { s with openBackoffMillis := v } =
    if place = ("ring", "open_backoff_ms") then (parse c).getD (get s) else get s

theorem observes_socketPath :
    Observes Settings.socketPath ("daemon", "socket_path") Content.text? := by
  constructor <;> simp +contextual

theorem observes_evictUnreachable :
    Observes Settings.evictUnreachable ("daemon", "evict_unreachable") Content.boolean? := by
  constructor <;> simp +contextual

theorem observes_socketDir :
    Observes Settings.socketDir ("client", "socket_dir") Content.text? := by
  constructor <;> simp +contextual

theorem observes_slotCount :
    Observes Settings.slotCount ("ring", "slot_count") Content.uint32? := by
  constructor <;> simp +contextual

theorem observes_slotSize :
    Observes Settings.slotSize ("ring", "slot_size") Content.uint32? := by
  constructor <;> simp +contextual

theorem observes_openAttempts :
    Observes Settings.openAttempts ("ring", "open_attempts") Content.uint32? := by
  constructor <;> simp +contextual

theorem observes_openBackoffMillis :
    Observes Settings.openBackoffMillis ("ring", "open_backoff_ms") Content.uint64? := by
  constructor <;> simp +contextual

namespace Observes

variable {get : Settings → β} {place : String × String} {parse : Content → Option β}

/-- Of a section, only the field at `place` matters, if it is in that section. -/
def inside (place : String × String) (parse : Content → Option β) (name : String) (c : Content) :
    Option β :=
  if place.1 = name then parse c else none

/-- A field that is read by itself matters as it does once it is set. -/
theorem make {read : Yaml.Node → Except Fault α} {parse' : Content → Option α}
    (parses : Parses read parse') {set : α → Settings → Settings} {sec name : String}
    (effect : ∀ c a s, parse' c = some a → get (set a s) =
      if place = (sec, name) then (parse c).getD (get s) else get s)
    (node : Yaml.Node) (s r : Settings)
    (h : (RecordField.make name read set).read node s = .ok r) :
    get r = if name = place.2 then (inside place parse sec (.ofNode node)).getD (get s)
      else get s := by
  obtain ⟨a, parsed, rfl⟩ := (make_read_eq_ok_iff parses).1 h
  rw [effect _ a s parsed]
  obtain ⟨placeSec, placeName⟩ := place
  simp only [inside, Prod.mk.injEq]
  grind

theorem daemonFields (h : Observes get place parse) :
    Observed Settings.daemonFields .ofNode place.2 (inside place parse "daemon") get :=
  List.forall_mem_cons.2 ⟨make (parses_readText _) h.socketPath,
    List.forall_mem_singleton.2 (make parses_readBoolean h.evictUnreachable)⟩

theorem clientFields (h : Observes get place parse) :
    Observed Settings.clientFields .ofNode place.2 (inside place parse "client") get :=
  List.forall_mem_singleton.2 (make (parses_readText _) h.socketDir)

theorem ringFields (h : Observes get place parse) :
    Observed Settings.ringFields .ofNode place.2 (inside place parse "ring") get := by
  have narrow := parses_readNumber (show 32 ≤ 64 by decide)
  have wide := parses_readNumber (show 64 ≤ 64 by decide)
  refine List.forall_mem_cons.2 ⟨make narrow fun c n s number => ?_,
    List.forall_mem_cons.2 ⟨make narrow fun c n s number => ?_,
    List.forall_mem_cons.2 ⟨make narrow fun c n s number => ?_,
    List.forall_mem_singleton.2 (make wide fun c n s number => ?_)⟩⟩⟩
  · exact h.slotCount c _ s (by simp [Content.uint32?, number])
  · exact h.slotSize c _ s (by simp [Content.uint32?, number])
  · exact h.openAttempts c _ s (by simp [Content.uint32?, number])
  · exact h.openBackoffMillis c _ s (by simp [Content.uint64?, number])

/-- A section matters if the field at `place` is in it. -/
theorem of_readRecord {fields : List (RecordField Settings)} {name expected : String}
    (observed : Observed fields .ofNode place.2 (inside place parse name) get)
    (root node : Yaml.Node) (s r : Settings) (h : readRecord root fields expected node s = .ok r) :
    get r = if name = place.1 then ((named? (fieldsOf root node) place.2).bind parse).getD (get s)
      else get s := by
  obtain ⟨start, same⟩ := (isRecord_of_readRecord h).readRecord_eq root fields expected
  rw [same] at h
  rw [get_of_readEntries observed h]
  -- In another section, a field of the same name does not count.
  by_cases here : name = place.1
  · have own : inside place parse name = parse := funext fun c => if_pos here.symm
    rw [own, if_pos here, fieldsOf]
  · have other : inside place parse name = fun _ => none :=
      funext fun c => if_neg (Ne.symm here)
    simp [other, here]

theorem sections (h : Observes get place parse) (root : Yaml.Node) :
    Observed (Settings.sections root) (fieldsOf root) place.1
      (fun fields => (named? fields place.2).bind parse) get :=
  List.forall_mem_cons.2 ⟨of_readRecord h.daemonFields root,
    List.forall_mem_cons.2 ⟨of_readRecord h.clientFields root,
    List.forall_mem_singleton.2 (of_readRecord h.ringFields root)⟩⟩

/-- What is got from the settings of a document is what stands at `place`, or the default. -/
theorem of_ofNode (h : Observes get place parse) {root : Yaml.Node} {s : Settings}
    (read : Settings.ofNode root = .ok s) :
    get s = (((outline root).given? place.1 place.2).bind parse).getD (get {}) := by
  obtain ⟨start, same⟩ := (isRecord_of_readRecord read).readRecord_eq root (Settings.sections root)
    "struct RawConfig"
  rw [Settings.ofNode, same] at read
  rw [get_of_readEntries (h.sections root) read, Outline.given?, Option.bind_assoc, outline]

end Observes

/-- The settings read from a tree are those that its outline stands for. -/
theorem settings_of_ofNode {root : Yaml.Node} {s : Settings} (read : Settings.ofNode root = .ok s) :
    s = (outline root).settings := by
  cases s
  simp only [Outline.settings, Settings.mk.injEq]
  exact ⟨observes_socketPath.of_ofNode read, observes_evictUnreachable.of_ofNode read,
    observes_socketDir.of_ofNode read, observes_slotCount.of_ofNode read,
    observes_slotSize.of_ofNode read, observes_openAttempts.of_ofNode read,
    observes_openBackoffMillis.of_ofNode read⟩

/-! ## Order -/

namespace Outline

/-- A section is the entries of some schema. -/
theorem eq_admissible_of_mem {name : String} {fits : List (Content × Content) → Prop}
    (mem : (name, fits) ∈ documentSchema) : ∃ schema, fits = Admissible schema := by
  simp only [documentSchema, List.mem_cons, Prod.mk.injEq, List.not_mem_nil, or_false] at mem
  obtain ⟨-, rfl⟩ | ⟨-, rfl⟩ | ⟨-, rfl⟩ := mem <;> exact ⟨_, rfl⟩

/-- Neither the order of sections nor that of the fields in them makes a document invalid. -/
theorem Valid.of_reordered {o o' : Outline} (valid : o.Valid) (h : Reordered o o') : o'.Valid := by
  obtain ⟨mid, perm, same⟩ := h
  refine ((Admissible.perm_iff perm).1 valid).of_forall₂ same fun name fits mem a b perm fit => ?_
  obtain ⟨schema, rfl⟩ := eq_admissible_of_mem mem
  exact (Admissible.perm_iff perm).1 fit

theorem Reordered.symm {o o' : Outline} (h : Reordered o o') : Reordered o' o := by
  obtain ⟨mid, perm, same⟩ := h
  -- It comes to the same whether sections or fields change places first.
  obtain ⟨other, same, perm⟩ := List.perm_comp_forall₂ perm same
  exact ⟨other, perm.symm, same.flip.imp fun _ _ h => ⟨h.1.symm, h.2.symm⟩⟩

theorem Valid.once_of_mem {o : Outline} (valid : o.Valid) {key : Content}
    {fields : List (Content × Content)} (mem : (key, fields) ∈ o) :
    (fields.map (·.1.text?)).Nodup := by
  obtain ⟨name, fits, known, -, fit⟩ := valid.known _ mem
  obtain ⟨schema, rfl⟩ := eq_admissible_of_mem known
  exact fit.once

/-- Where no key occurs twice, it does not matter where a section stands, and where in it a field. -/
theorem Valid.given?_eq_some_iff {o : Outline} (valid : o.Valid) {heading field : String}
    {c : Content} : o.given? heading field = some c ↔ o.Stands heading field c := by
  rw [given?, Option.bind_eq_some_iff]
  constructor
  · rintro ⟨fields, found, inner⟩
    obtain ⟨key, mem, text⟩ := (named?_eq_some_iff valid.once).1 found
    exact ⟨key, fields, mem, text, (named?_eq_some_iff (valid.once_of_mem mem)).1 inner⟩
  · rintro ⟨key, fields, mem, text, inner⟩
    exact ⟨fields, (named?_eq_some_iff valid.once).2 ⟨key, mem, text⟩,
      (named?_eq_some_iff (valid.once_of_mem mem)).2 inner⟩

/-- What stands under a heading stands there in whatever order the document is written. -/
theorem Stands.of_reordered {o o' : Outline} {heading field : String} {c : Content}
    (h : Reordered o o') (stands : o.Stands heading field c) : o'.Stands heading field c := by
  obtain ⟨mid, perm, same⟩ := h
  obtain ⟨key, fields, mem, text, key', inner, text'⟩ := stands
  obtain ⟨⟨key, fields'⟩, mem', rfl, moved⟩ := exists_mem_of_forall₂ same (perm.mem_iff.1 mem)
  exact ⟨_, fields', mem', text, key', moved.mem_iff.1 inner, text'⟩

/-- What stands in a field does not depend on the order of sections and fields. -/
theorem given?_of_reordered {o o' : Outline} (valid : o.Valid) (h : Reordered o o')
    (heading field : String) : o.given? heading field = o'.given? heading field := by
  ext c
  rw [valid.given?_eq_some_iff, (valid.of_reordered h).given?_eq_some_iff]
  exact ⟨.of_reordered h, .of_reordered h.symm⟩

/-- A valid document means the same settings in whatever order it is written. -/
theorem settings_of_reordered {o o' : Outline} (valid : o.Valid) (h : Reordered o o') :
    o.settings = o'.settings := by
  simp only [settings, given?_of_reordered valid h]

end Outline

end Config
end RingBus
