import RingBus.Scenario.Answer

/-!
# Steps on segments
-/

namespace RingBus

/-- A step on a segment, by name or under an identifier. -/
inductive SegmentStep
  /-- Makes a segment of any size. -/
  | makePlain (name : String) (size : Nat)
  /-- Removes the name of a segment, whoever made it. -/
  | remove (name : String)
  | peek (name : String) (offset length : Nat)
  | poke (name : String) (offset : Nat) (data : ByteArray)
  | create (id name : String) (size : Nat)
  | openNamed (id name : String)
  | read (id : String) (offset length : Nat)
  | write (id : String) (offset : Nat) (data : ByteArray)
  | unlink (id : String)

namespace World

/-- The longest word in bytes under which the kernel can file a segment. -/
def longestSegmentKey : Nat := 255

/-- The longest word in bytes that is a name at all. -/
def longestSegmentWord : Nat := 259

/-- Makes a segment of zeros under a name that the kernel accepts. -/
def makeSegment (name : String) (size : Nat) (s : Shared) : Except Errno Shared :=
  let file := Segment.file name
  if file = "" ∨ file.toList.contains '/' ∨ longestSegmentWord < file.utf8ByteSize then
    .error .invalid
  else if longestSegmentKey < file.utf8ByteSize then .error .nameTooLong
  else if Shared.isTaken file s then .error .exists
  else .ok (s.insert file (Memory.zeroed size))

/-- Opens the segment of a name for one look. -/
def withNamed (w : World) (name : String) (look : World → Segment → World × Answer) :
    World × Answer :=
  match RingName.ofString name with
  | .error e => (w, .refused (.field e))
  | .ok name =>
    match Segment.openNamed name w.host.shared with
    | (shared, .error e) => (w.withShared shared, .refused (.segment e))
    | (shared, .ok segment) => look (w.withShared shared) segment

def withSegment (w : World) (id : String) (look : Segment → World × Answer) : World × Answer :=
  match w.object? id with
  | some (.segment segment) => look segment
  | _ => (w, .refused .noObject)

def readBytes (w : World) (segment : Segment) (offset length : Nat) : Answer :=
  match (segment.memory w.host.shared).read? offset length with
  | some bytes => .bytes bytes
  | none => .refused .outOfRange

def writeBytes (w : World) (segment : Segment) (offset : Nat) (data : ByteArray) :
    World × Answer :=
  let s := w.host.shared
  match (segment.memory s).write? offset data with
  | some memory => (w.withShared (s.set segment.id memory), .done)
  | none => (w, .refused .outOfRange)

def segmentStep (w : World) : SegmentStep → World × Answer
  | .makePlain name size =>
    match makeSegment name size w.host.shared with
    | .ok shared => (w.withShared shared, .flag true)
    | .error e => (w, .refused (.request (.kernel e)))
  | .remove name =>
    let s := w.host.shared
    let file := Segment.file name
    (w.withShared (s.unlink file), .flag (s.named file).isSome)
  | .peek name offset length =>
    w.withNamed name fun w segment => (w, w.readBytes segment offset length)
  | .poke name offset data => w.withNamed name fun w segment => w.writeBytes segment offset data
  | .create id name size =>
    match RingName.ofString name with
    | .error e => (w, .refused (.field e))
    | .ok name =>
      match Segment.create name size w.host.shared with
      | .error e => (w, .refused (.segment e))
      | .ok (shared, segment) =>
        ((w.withShared shared).put id (.segment segment), .segment segment)
  | .openNamed id name =>
    w.withNamed name fun w segment => (w.put id (.segment segment), .segment segment)
  | .read id offset length =>
    w.withSegment id fun segment => (w, w.readBytes segment offset length)
  | .write id offset data => w.withSegment id fun segment => w.writeBytes segment offset data
  | .unlink id =>
    w.withSegment id fun segment =>
      let (shared, segment, removed) := segment.unlink w.host.shared
      ((w.withShared shared).set id (.segment segment), .flag removed)

end World
end RingBus
