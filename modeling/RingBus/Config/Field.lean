import RingBus.Decimal.Shortest
import RingBus.Text.Quoted
import RingBus.Yaml.Document
import RingBus.Yaml.Schema

/-!
# Fields of a document

How records are read from the tree of a document: each field by its name, at most once, and no
others. A problem is told together with the names that lead to it. What comes first in the document
is read first, so of several problems the first one is told.
-/

namespace RingBus
namespace Config

/-! ## Problems -/

/-- What a node holds. -/
inductive Found
  | value (v : Yaml.Value)
  | sequence
  | map

namespace Found

/-- A whole number, and how wide it is if it needs more than 64 bits. -/
def integerKind (n : Int) : String :=
  let width :=
    if Int.ofNat UInt64.size ≤ n then " as u128"
    else if n < -Int.ofNat (Nat.pow 2 63) then " as i128"
    else ""
  s!"integer `{n}`" ++ width

def kind : Found → String
  | .value .null => "unit value"
  | .value (.boolean b) => s!"boolean `{b}`"
  | .value (.integer n) => integerKind n
  | .value (.decimal x) => s!"floating point `" ++ Decimal.write .plain x ++ "`"
  | .value (.text s) => "string " ++ Text.quoted s
  | .sequence => "sequence"
  | .map => "map"

end Found

inductive Problem
  | unknownField (name : String) (known : List String)
  | duplicateField (name : String)
  | wrongType (found : Found) (expected : String)
  | wrongValue (found : Found) (expected : String)

namespace Problem

def choices (names : List String) : String :=
  match names.map fun n => s!"`{n}`" with
  | [] => "there are no fields"
  | [a] => s!"expected {a}"
  | [a, b] => s!"expected {a} or {b}"
  | several => "expected one of " ++ String.intercalate ", " several

def message : Problem → String
  | .unknownField name known => s!"unknown field `{name}`, " ++ choices known
  | .duplicateField name => s!"duplicate field `{name}`"
  | .wrongType found expected => s!"invalid type: {found.kind}, expected {expected}"
  | .wrongValue found expected => s!"invalid value: {found.kind}, expected {expected}"

end Problem

/-- Why a record could not be read. -/
inductive Fault
  /-- The document is at fault. -/
  | broken (fault : Yaml.Fault)
  /-- A node is at fault, to which these names lead, and which begins at a place. -/
  | at (path : List String) (problem : Problem) (place : Yaml.Place)

namespace Fault

def here (problem : Problem) (place : Yaml.Place) : Fault :=
  .at [] problem place

/-- The same fault, seen from the record that has the field `name`. -/
def under (name : String) : Fault → Fault
  | .broken fault => .broken fault
  | .at path problem place => .at (name :: path) problem place

/-- The problem with the names that lead to it. -/
def problemMessage : List String → Problem → String
  | [], problem => problem.message
  | path, problem => String.intercalate "." path ++ ": " ++ problem.message

/-- What is wrong with a node, in words that do not tell its place. -/
def message? : Fault → Option String
  | .broken _ => none
  | .at path problem _ => some (problemMessage path problem)

/-- What is wrong, in words that tell the place. -/
def placedMessage : Fault → String
  | .broken fault => fault.message
  | .at path problem place => problemMessage path problem ++ place.clause

end Fault

/-! ## Values -/

/-- The node that a node stands for, in the tree `root`. -/
def resolve (root : Yaml.Node) : Yaml.Node → Yaml.Node
  | .alias n => (root.find? n).getD (.cut (.unknownAnchor .start))
  | node => node

def placeOf : Yaml.Node → Yaml.Place
  | .scalar head .. => head.place
  | .sequence head _ => head.place
  | .mapping head _ => head.place
  | .alias _ => .start
  | .cut _ => .start

def reject {α : Type} (node : Yaml.Node) (expected : String) : Except Fault α :=
  match node with
  | .scalar head tag text style =>
    match Yaml.Value.ofScalar tag text style with
    | .ok v => .error (.here (.wrongType (.value v) expected) head.place)
    | .error asked =>
      .error (.here (.wrongValue (.value (.text text)) (wording asked)) head.place)
  | .sequence head _ => .error (.here (.wrongType .sequence expected) head.place)
  | .mapping head _ => .error (.here (.wrongType .map expected) head.place)
  | .alias _ => .error (.broken (.unknownAnchor .start))
  | .cut fault => .error (.broken fault)
where
  wording : Yaml.Expectation → String
    | .boolean => "a boolean"
    | .integer => "an integer"
    | .decimal => "a float"
    | .null => "null"

/-- Reads a scalar as a value of its own kind. It is plain, or a literal whose tag asks for that
kind. -/
def readScalar {α : Type} (asked : Yaml.Expectation) (parse : String → Option α)
    (expected : String) (node : Yaml.Node) : Except Fault α :=
  match node with
  | .scalar _ tag text style =>
    if style == .plain || (style == .literal && tag == some asked.tag) then
      match parse text with
      | some a => .ok a
      | none => reject node expected
    else reject node expected
  | node => reject node expected

def readBoolean : Yaml.Node → Except Fault Bool :=
  readScalar .boolean Yaml.boolean? "a boolean"

/-- Reads a number below `2 ^ bits`. Beyond 64 bits it counts as one of another type. -/
def readNumber (bits : Nat) (node : Yaml.Node) : Except Fault Nat := do
  let expected := s!"u{bits}"
  let n ← readScalar .integer (fun s => (Yaml.natural? s).filter (· < UInt64.size)) expected node
  if n < Nat.pow 2 bits then return n
  else throw (.here (.wrongValue (.value (.integer n)) expected) (placeOf node))

/-- Reads a text. Every scalar is one. -/
def readText (expected : String) : Yaml.Node → Except Fault String
  | .scalar _ _ text _ => .ok text
  | node => reject node expected

/-! ## Records -/

/-- A field of a record: its name, and how its value is read into the record. -/
structure RecordField (σ : Type) where
  name : String
  read : Yaml.Node → σ → Except Fault σ

/-- A field whose value is read by itself and put into the record by `set`. -/
def RecordField.make {σ α : Type} (name : String) (read : Yaml.Node → Except Fault α)
    (set : α → σ → σ) : RecordField σ :=
  ⟨name, fun node record => (read node).map (set · record)⟩

/-- How a key is named on the way to a problem. -/
def pathName : Yaml.Node → String
  | .scalar _ _ text _ => text
  | _ => "?"

/-- Reads the entries of a mapping that begins at `start` into a record, of which the fields `seen`
were read before. -/
def readEntries {σ : Type} (root : Yaml.Node) (fields : List (RecordField σ)) (start : Yaml.Place) :
    List String → List (Yaml.Node × Yaml.Node) → σ → Except Fault σ
  | _, [], record => .ok record
  | seen, (key, value) :: entries, record =>
    let resolved := resolve root key
    match readText "field identifier" resolved with
    | .error fault => .error fault
    | .ok name =>
      match fields.find? fun field => field.name == name with
      | none => .error (.here (.unknownField name (fields.map RecordField.name)) (placeOf resolved))
      | some field =>
        if seen.contains name then .error (.here (.duplicateField name) start)
        else
          match field.read (resolve root value) record with
          | .error fault => .error (fault.under (pathName key))
          | .ok record => readEntries root fields start (name :: seen) entries record

/-- Reads a record, whose absent fields stay as they are. Nothing at all is an empty record. -/
def readRecord {σ : Type} (root : Yaml.Node) (fields : List (RecordField σ)) (expected : String)
    (node : Yaml.Node) (record : σ) : Except Fault σ :=
  match node with
  | .mapping head entries => readEntries root fields head.place [] entries record
  | .scalar _ _ "" .plain => .ok record
  | node => reject node expected

end Config
end RingBus
