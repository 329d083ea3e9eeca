import RingBus.Discovery.Message

/-!
# The registry

Who is registered under which key. Under each key the participants stand in the order of
registration. A newcomer is told about everyone who is already there, and they are told about the
newcomer. Whoever registers again keeps its place. A key goes with its last participant.
-/

namespace RingBus

/-- A message that has to be delivered to one endpoint. -/
structure Notification where
  recipient : Endpoint
  message : Message

/-! ## Participants under one key -/

namespace Listing

/-- The participants after `p` registered: in the place of its earlier entry, or at the end. -/
def enlist (p : Participant) : List Participant → List Participant
  | [] => [p]
  | q :: rest => if q.endpoint == p.endpoint then p :: rest else q :: enlist p rest

/-- The participants other than an endpoint. -/
def without (e : Endpoint) (l : List Participant) : List Participant :=
  l.filter fun q => !(q.endpoint == e)

end Listing

/-! ## Services -/

/-- A key, and who is registered under it. -/
structure Service where
  key : ServiceKey
  participants : List Participant

namespace Service

/-- The services after the participants under a key became `l`. -/
def put (key : ServiceKey) (l : List Participant) : List Service → List Service
  | [] => [⟨key, l⟩]
  | s :: rest => if s.key = key then ⟨key, l⟩ :: rest else s :: put key l rest

/-- The service without an endpoint. -/
def without (e : Endpoint) (s : Service) : Service :=
  { s with participants := Listing.without e s.participants }

/-- No key stands twice. -/
def Apart (services : List Service) : Prop :=
  services.Pairwise fun s t => s.key ≠ t.key

theorem mem_put {key : ServiceKey} {l : List Participant} {s : Service} {services : List Service} :
    s ∈ put key l services → s = ⟨key, l⟩ ∨ s ∈ services := by
  intro h
  induction services with
  | nil => exact .inl (List.mem_singleton.mp h)
  | cons t rest ih =>
    unfold put at h
    split at h
    · rcases List.mem_cons.mp h with hNew | hRest
      · exact .inl hNew
      · exact .inr (.tail _ hRest)
    · rcases List.mem_cons.mp h with rfl | hRest
      · exact .inr (.head _)
      · exact (ih hRest).imp_right (.tail _)

theorem Apart.put {services : List Service} (h : Apart services) (key : ServiceKey)
    (l : List Participant) : Apart (put key l services) := by
  induction services with
  | nil => exact List.pairwise_singleton _ _
  | cons t rest ih =>
    obtain ⟨hHead, hRest⟩ := List.pairwise_cons.mp h
    unfold Service.put
    split
    next hKey => exact List.pairwise_cons.mpr ⟨hKey ▸ hHead, hRest⟩
    next hKey =>
      refine List.pairwise_cons.mpr ⟨?_, ih hRest⟩
      intro s hs
      rcases mem_put hs with rfl | hOld
      · exact hKey
      · exact hHead s hOld

theorem Apart.without {services : List Service} (h : Apart services) (e : Endpoint) :
    Apart (services.map (Service.without e)) :=
  List.pairwise_map.mpr h

end Service

/-- The keys that are kept, each with its participants. -/
structure Registry where
  services : List Service
  apart : Service.Apart services

namespace Registry

def empty : Registry :=
  ⟨[], .nil⟩

/-- What is kept under a key, if the key is. -/
def service? (r : Registry) (key : ServiceKey) : Option Service :=
  r.services.find? (·.key = key)

/-- The participants under a key, in the order of registration. -/
def peers (r : Registry) (key : ServiceKey) : List Participant :=
  match r.service? key with
  | some s => s.participants
  | none => []

def serviceCount (r : Registry) : Nat :=
  r.services.length

/-- How many registrations there are. -/
def size (r : Registry) : Nat :=
  r.services.foldr (fun s n => s.participants.length + n) 0

def isEmpty (r : Registry) : Bool :=
  r.services.isEmpty

/-! ## Changes -/

/-- Keeps participants under a key, in place of those that were there. -/
def put (r : Registry) (key : ServiceKey) (l : List Participant) : Registry :=
  ⟨Service.put key l r.services, r.apart.put key l⟩

def drop (r : Registry) (key : ServiceKey) : Registry :=
  ⟨r.services.filter (·.key ≠ key), r.apart.filter _⟩

/-- Registers a participant. The newcomer hears of each of the others, then each of them hears of
the newcomer. -/
def register (r : Registry) (key : ServiceKey) (p : Participant) :
    Registry × List Notification :=
  let others := Listing.without p.endpoint (r.peers key)
  (r.put key (Listing.enlist p (r.peers key)),
    others.map (fun other => ⟨p.endpoint, ⟨.peer, key, other⟩⟩) ++
      others.map (fun other => ⟨other.endpoint, ⟨.peer, key, p⟩⟩))

/-- Takes an endpoint off a key, and tells whether that took somebody off. -/
def withdraw (r : Registry) (key : ServiceKey) (endpoint : Endpoint) : Registry × Bool :=
  match r.service? key with
  | none => (r, false)
  | some s =>
    let left := Listing.without endpoint s.participants
    (if left.isEmpty then r.drop key else r.put key left,
      left.length != s.participants.length)

/-- The registry after an endpoint was taken off a key. -/
def deregister (r : Registry) (key : ServiceKey) (endpoint : Endpoint) : Registry :=
  (r.withdraw key endpoint).1

/-- Whether taking an endpoint off a key takes somebody off. -/
def lists (r : Registry) (key : ServiceKey) (endpoint : Endpoint) : Bool :=
  (r.withdraw key endpoint).2

/-- Takes an endpoint off every key, and tells how many registrations that took away. -/
def forget (r : Registry) (endpoint : Endpoint) : Registry × Nat :=
  (⟨(r.services.map (Service.without endpoint)).filter (!·.participants.isEmpty),
      (r.apart.without endpoint).filter _⟩,
    r.services.foldr
      (fun s n => s.participants.length - (s.without endpoint).participants.length + n) 0)

/-- The registry after an endpoint was taken off every key. -/
def evict (r : Registry) (endpoint : Endpoint) : Registry :=
  (r.forget endpoint).1

/-- How many registrations taking an endpoint off every key takes away. -/
def count (r : Registry) (endpoint : Endpoint) : Nat :=
  (r.forget endpoint).2

/-- Acts on a message. A daemon is not told about peers, so such a message changes nothing. -/
def handle (r : Registry) (m : Message) : Registry × List Notification :=
  match m.command with
  | .register => r.register m.key m.participant
  | .deregister => (r.deregister m.key m.participant.endpoint, [])
  | .peer => (r, [])

end Registry
end RingBus
