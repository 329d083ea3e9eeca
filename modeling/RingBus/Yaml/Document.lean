import RingBus.Yaml.Node
import RingBus.Yaml.Token.Reader

/-!
# Documents

Tokens are read into the tree that they stand for. The fuel of the readers bounds how many nodes
and entries are read; there are never more of them than tokens, so a document has fuel enough.
-/

namespace RingBus
namespace Yaml

/-! ## What is known while tokens are read -/

/-- What is left to read of a document. -/
structure Reading where
  tokens : Tokens
  /-- What each handle of a tag expands to. -/
  handles : List (String × String)
  /-- The number that each anchor's name stands for at present. -/
  anchors : List (String × Nat)

namespace Reading

def token? (s : Reading) : Option Token :=
  s.tokens.lexemes.head?.map Lexeme.token

/-- Where the next token begins. -/
def place (s : Reading) : Place :=
  (s.tokens.lexemes.head?.map Lexeme.place).getD .start

def next (s : Reading) : Reading :=
  { s with tokens := s.tokens.tail }

/-- Whether the next token is one of `ts`. -/
def sees (s : Reading) (ts : List Token) : Bool :=
  s.token?.any ts.contains

/-- What is wrong if the next token is a mistake. Without a next token, the fault is in the text. -/
def wrong (s : Reading) (what : Mistake) (during : Option (Task × Place)) : Fault :=
  if s.token? = none then s.tokens.fault else .mistake what s.place during

/-- Numbers a node whose anchor has this name. The number is how many names were in use before;
the name stands for it from now on. -/
def number (s : Reading) : Option String → Option Nat × Reading
  | none => (none, s)
  | some name =>
    let n := s.anchors.length
    (some n, { s with anchors := (name, n) :: s.anchors.filter fun a => a.1 != name })

end Reading

/-! ## Properties -/

structure WrittenTag where
  handle : String
  suffix : String
  place : Place

/-- What stands in front of a node. -/
structure Properties where
  anchor : Option String
  tag : Option WrittenTag

namespace Reading

/-- Reads the anchor and the tag in front of a node, in either order. -/
def properties (s : Reading) : Properties × Reading :=
  match s.tokens.lexemes with
  | ⟨.anchor name, _⟩ :: ⟨.tag handle suffix, place⟩ :: _ =>
    (⟨some name, some ⟨handle, suffix, place⟩⟩, s.next.next)
  | ⟨.tag handle suffix, place⟩ :: ⟨.anchor name, _⟩ :: _ =>
    (⟨some name, some ⟨handle, suffix, place⟩⟩, s.next.next)
  | ⟨.anchor name, _⟩ :: _ => (⟨some name, none⟩, s.next)
  | ⟨.tag handle suffix, place⟩ :: _ => (⟨none, some ⟨handle, suffix, place⟩⟩, s.next)
  | _ => (⟨none, none⟩, s)

/-- Expands the tag of a node that begins at `start`. A tag of an unknown handle is a fault. -/
def expand (s : Reading) (start : Place) : Option WrittenTag → Except Fault (Option String)
  | none => .ok none
  | some t =>
    if t.handle = "" then .ok (some t.suffix)
    else
      match s.handles.lookup t.handle with
      | some expansion => .ok (some (expansion ++ t.suffix))
      | none => .error (.mistake .unknownHandle t.place (some (.properties, start)))

end Reading

/-! ## Nodes -/

/-- What was read, and what is left to read or the fault that cut the document. -/
abbrev Read (α : Type) := α × Except Fault Reading

namespace Read

/-- A document that is cut before the next node. -/
def cut (fault : Fault) : Read Node := (.cut fault, .error fault)

/-- A sequence that is cut before its next item. -/
def cutItems (fault : Fault) : Read (List Node) := ([.cut fault], .error fault)

/-- A mapping that is cut before its next key. -/
def cutEntries (fault : Fault) : Read (List (Node × Node)) :=
  ([(.cut fault, .cut fault)], .error fault)

/-- A node followed by further nodes. -/
def cons (first : Read Node) (more : Reading → Read (List Node)) : Read (List Node) :=
  match first with
  | (node, .error fault) => ([node], .error fault)
  | (node, .ok s) => let (nodes, s) := more s; (node :: nodes, s)

/-- A key, its value, and further entries. -/
def entry (key : Read Node) (value : Reading → Read Node)
    (more : Reading → Read (List (Node × Node))) : Read (List (Node × Node)) :=
  match key with
  | (k, .error fault) => ([(k, .cut fault)], .error fault)
  | (k, .ok s) =>
    match value s with
    | (v, .error fault) => ([(k, v)], .error fault)
    | (v, .ok s) => let (entries, s) := more s; ((k, v) :: entries, s)

/-- Nothing, at a place, if one of `stops` is next. -/
def orAbsent (place : Place) (stops : List Token) (s : Reading) (read : Reading → Read Node) :
    Read Node :=
  if s.sees stops then (.absent place, .ok s) else read s

/-- The key of a lone pair among the items of a flow sequence. Where one of `stops` stands in place
of the key, it is passed over with it. -/
def orPassed (stops : List Token) (s : Reading) (read : Reading → Read Node) : Read Node :=
  if s.sees stops then (.absent s.place.next, .ok s.next) else read s

/-- No value, if the document goes on at all. -/
def nothing (s : Reading) : Read Node :=
  if s.token? = none then cut s.tokens.fault else (.absent s.place, .ok s)

/-- A value, which begins with an indicator. Without it, or in front of one of `stops`, the value
is absent. Inside a block, an absent value is where the indicator ends. -/
def value (inBlock : Bool) (stops : List Token) (s : Reading) (read : Reading → Read Node) :
    Read Node :=
  if s.sees [.value] then
    orAbsent (if inBlock then s.place.next else s.next.place) stops s.next read
  else nothing s

end Read

mutual

/-- Reads a node. Inside a block it may be a block itself, and inside a block mapping a sequence
that is not indented. -/
def readNode (inBlock inMapping : Bool) : Nat → Reading → Read Node
  | 0, s => .cut s.tokens.fault
  | fuel + 1, s =>
    match s.token? with
    | some (.alias name) =>
      match s.anchors.lookup name with
      | some n => (.alias n, .ok s.next)
      | none => .cut (.unknownAnchor s.place)
    | _ =>
      let start := s.place
      let (props, s) := s.properties
      match s.token?, s.expand start props.tag with
      | none, _ => .cut s.tokens.fault
      | some _, .error fault => .cut fault
      | some t, .ok tag =>
        let (n, s') := s.number props.anchor
        let head : Head := ⟨start, n⟩
        match t with
        | .scalar text style =>
          (.scalar head (if tag = some "!" then none else tag) text style, .ok s'.next)
        | .flowSequenceStart =>
          (readFlowItems true s.place fuel s'.next).map (.sequence head) id
        | .flowMappingStart =>
          (readFlowEntries true s.place fuel s'.next).map (.mapping head) id
        | t =>
          if inMapping && t == .blockEntry then
            (readPlainItems fuel s').map (.sequence head) id
          else if inBlock && t == .blockSequenceStart then
            (readBlockItems s.place fuel s'.next).map (.sequence head) id
          else if inBlock && t == .blockMappingStart then
            (readBlockEntries s.place fuel s'.next).map (.mapping head) id
          else if props.anchor.isSome || tag.isSome then (.scalar head tag "" .plain, .ok s')
          else
            let task := if inBlock then Task.blockNode else Task.flowNode
            .cut (s.wrong .noContent (some (task, start)))

/-- Reads the items of a block sequence that begins at `start`. -/
def readBlockItems (start : Place) : Nat → Reading → Read (List Node)
  | 0, s => .cutItems s.tokens.fault
  | fuel + 1, s =>
    match s.token? with
    | some .blockEntry =>
      Read.cons
        (Read.orAbsent s.place.next [.blockEntry, .blockEnd] s.next (readNode true false fuel))
        (readBlockItems start fuel)
    | some .blockEnd => ([], .ok s.next)
    | _ => .cutItems (s.wrong .noHyphen (some (.blockSequence, start)))

/-- Reads the items of a sequence that is not indented inside its mapping. -/
def readPlainItems : Nat → Reading → Read (List Node)
  | 0, s => .cutItems s.tokens.fault
  | fuel + 1, s =>
    match s.token? with
    | some .blockEntry =>
      let stops := [.blockEntry, .key, .value, .blockEnd]
      Read.cons (Read.orAbsent s.place.next stops s.next (readNode true false fuel))
        (readPlainItems fuel)
    | none => .cutItems s.tokens.fault
    | some _ => ([], .ok s)

/-- Reads the entries of a block mapping that begins at `start`. -/
def readBlockEntries (start : Place) : Nat → Reading → Read (List (Node × Node))
  | 0, s => .cutEntries s.tokens.fault
  | fuel + 1, s =>
    let stops := [.key, .value, .blockEnd]
    match s.token? with
    | some .key =>
      Read.entry (Read.orAbsent s.place.next stops s.next (readNode true true fuel))
        (fun s => Read.value true stops s (readNode true true fuel))
        (readBlockEntries start fuel)
    | some .blockEnd => ([], .ok s.next)
    | _ => .cutEntries (s.wrong .noKey (some (.blockMapping, start)))

/-- Reads the items of a flow sequence that begins at `start`. All but the first come after a
comma. -/
def readFlowItems (first : Bool) (start : Place) : Nat → Reading → Read (List Node)
  | 0, s => .cutItems s.tokens.fault
  | fuel + 1, s =>
    let stops := [.flowEntry, .flowSequenceEnd]
    let item (s : Reading) : Read (List Node) :=
      match s.token? with
      | some .flowSequenceEnd => ([], .ok s.next)
      | some .key =>
        let pair := Read.entry (Read.orPassed (.value :: stops) s.next (readNode false false fuel))
          (fun s => Read.value false stops s (readNode false false fuel)) (fun s => ([], .ok s))
        Read.cons (pair.map (.mapping ⟨s.place, none⟩) id) (readFlowItems false start fuel)
      | _ => Read.cons (readNode false false fuel s) (readFlowItems false start fuel)
    match s.token? with
    | some .flowSequenceEnd => ([], .ok s.next)
    | some .flowEntry => if first then item s else item s.next
    | _ =>
      if first then item s
      else .cutItems (s.wrong .noCommaOrBracket (some (.flowSequence, start)))

/-- Reads the entries of a flow mapping that begins at `start`. All but the first come after a
comma. -/
def readFlowEntries (first : Bool) (start : Place) : Nat → Reading → Read (List (Node × Node))
  | 0, s => .cutEntries s.tokens.fault
  | fuel + 1, s =>
    let stops := [.flowEntry, .flowMappingEnd]
    let entry (s : Reading) : Read (List (Node × Node)) :=
      match s.token? with
      | some .flowMappingEnd => ([], .ok s.next)
      | some .key =>
        Read.entry
          (Read.orAbsent s.next.place (.value :: stops) s.next (readNode false false fuel))
          (fun s => Read.value false stops s (readNode false false fuel))
          (readFlowEntries false start fuel)
      | _ =>
        Read.entry (readNode false false fuel s) Read.nothing (readFlowEntries false start fuel)
    match s.token? with
    | some .flowMappingEnd => ([], .ok s.next)
    | some .flowEntry => if first then entry s else entry s.next
    | _ =>
      if first then entry s
      else .cutEntries (s.wrong .noCommaOrBrace (some (.flowMapping, start)))

end

/-! ## Documents -/

/-- A document: its tree, and what is wrong with the text behind its beginning, if anything is. A
fault inside the tree is where the tree is cut as well. -/
structure Document where
  root : Node
  fault? : Option Fault

namespace Document

/-- A document that is cut before its tree begins. -/
def cut (fault : Fault) : Document :=
  ⟨.cut fault, some fault⟩

/-- What the handles of tags expand to if no directive says otherwise. -/
def standardHandles : List (String × String) :=
  [("!", "!"), ("!!", "tag:yaml.org,2002:")]

/-- Reads the directives in front of a document. There may be one for the version, which is 1.1 or
1.2, and one for each handle. -/
def readDirectives (versioned : Bool) (handles : List (String × String)) :
    List Lexeme → Except Fault (List (String × String) × List Lexeme)
  | ⟨.versionDirective major minor, place⟩ :: rest =>
    if versioned then .error (.mistake .secondVersion place none)
    else if major != 1 || (minor != 1 && minor != 2) then
      .error (.mistake .foreignVersion place none)
    else readDirectives true handles rest
  | ⟨.tagDirective handle expansion, place⟩ :: rest =>
    if (handles.lookup handle).isSome then .error (.mistake .secondHandle place none)
    else readDirectives versioned (handles ++ [(handle, expansion)]) rest
  | rest => .ok (handles ++ standardHandles, rest)

/-- Whether a document ends before this token without having begun. -/
def isOutside : Token → Bool
  | .versionDirective .. | .tagDirective .. | .documentStart | .documentEnd | .streamEnd => true
  | _ => false

/-- What is wrong behind the tree of a document. Markers of its end may follow it, but no other
document. -/
def faultBehind? (s : Reading) : Option Fault :=
  let behind := s.tokens.lexemes.map Lexeme.token
  if behind = [] then some s.tokens.fault
  else if (behind.dropWhile (· == .documentEnd)).head? = some .streamEnd then none
  else some .furtherDocument

/-- The document of a tree, and what is left to read after it. -/
def close (root : Read Node) : Document :=
  match root with
  | (node, .error fault) => ⟨node, some fault⟩
  | (node, .ok s) => ⟨node, faultBehind? s⟩

/-- Reads a document that begins with directives and the marker of its start. -/
def ofMarked (fuel : Nat) (tokens : Tokens) : Document :=
  match readDirectives false [] tokens.lexemes with
  | .error fault => cut fault
  | .ok (handles, lexemes) =>
    let s : Reading := ⟨{ tokens with lexemes }, handles, []⟩
    if s.sees [.documentStart] then
      let s := s.next
      if s.token?.any isOutside then close (.absent s.place, .ok s)
      else close (readNode true false fuel s)
    else cut (s.wrong .noDocumentStart none)

/-- The document that tokens stand for. No tokens but those of the stream stand for an empty
mapping. -/
def ofTokens (tokens : Tokens) : Document :=
  let fuel := 2 * tokens.lexemes.length + 2
  match tokens.lexemes with
  | ⟨.streamStart, _⟩ :: ⟨.streamEnd, place⟩ :: _ => ⟨.mapping ⟨place, none⟩ [], none⟩
  | ⟨.streamStart, _⟩ :: first :: _ =>
    if isOutside first.token && first.token != .documentEnd then ofMarked fuel tokens.tail
    else close (readNode true false fuel ⟨tokens.tail, standardHandles, []⟩)
  | _ => cut tokens.fault

def ofText (text : String) : Document :=
  ofTokens (.ofText text)

end Document
end Yaml
end RingBus
