import RingBus.Discovery.Client
import RingBus.Discovery.Daemon
import RingBus.Proofs.Places

/-!
# Sockets and their files

A socket can be reached through the file that it was opened at, as long as nobody puts another
file there or removes it.

* `Host.takeOver_cases`: opening a socket at an endpoint makes its file, or changes nothing.
* `Daemon.bind_cases`, `Client.bindAt_cases`: the same for those who open one.
* `Host.LeadsTo`: what is sent to a path arrives at a socket.
* `Host.reach_of_key`: spellings of one endpoint reach the same socket.
* `Host.send_cases`: what is sent arrives, or changes nothing.
-/

namespace RingBus

namespace Endpoint

theorem text_ne_empty (e : Endpoint) : e.text ≠ "" := by
  intro h
  have hAbsolute := e.absolute
  rw [h] at hAbsolute
  cases hAbsolute

theorem nul_not_mem (e : Endpoint) : Char.ofNat 0 ∉ e.text.toList := by
  intro hMem
  have hNul : Text.isBlankOrControl (Char.ofNat 0) = true := by decide
  have hSome : e.text.toList.any Text.isBlankOrControl = true :=
    List.any_eq_true.mpr ⟨_, hMem, hNul⟩
  rw [e.plain] at hSome
  cases hSome

/-- Every endpoint can stand in a socket address. -/
theorem checkAddress_text (e : Endpoint) : Host.checkAddress e.text = .ok () := by
  have hNul : e.text.toList.contains (Char.ofNat 0) = false := by
    rw [← Bool.not_eq_true, List.contains_iff_mem]
    exact e.nul_not_mem
  have hShort : ¬ Host.maxAddress < e.text.utf8ByteSize := Nat.not_lt.mpr e.short
  rw [Host.checkAddress, hNul, if_neg Bool.false_ne_true, if_neg hShort]

end Endpoint

namespace Host

variable {h : Host} {path : String} {π : List String} {id : Nat} {e : Endpoint}

/-- The host with one more socket, whose file is at a place. -/
def installed (h : Host) (π : List String) : Host :=
  { h with
    files := h.files.put π (.socket h.sockets.count)
    sockets := h.sockets.add ⟨[], true, false⟩ }

/-! ## Opening a socket -/

theorem bind_text :
    h.bind e.text =
      match h.files.vacant e.text with
      | .error .exists => .error (.kernel .addressInUse)
      | .error cause => .error (.kernel cause)
      | .ok at_ =>
        if at_.slashed then .error (.kernel .noEntry)
        else .ok (h.installed at_.place, h.sockets.count) := by
  have hSome : e.text.isEmpty = false := by
    rw [← Bool.not_eq_true, String.isEmpty_iff]
    exact e.text_ne_empty
  rw [Host.bind, e.checkAddress_text, hSome]
  rfl

theorem bind_text_of_vacant :
    h.files.vacant e.text = .ok ⟨π, true, false⟩ →
      h.bind e.text = .ok (h.installed π, h.sockets.count) := by
  intro hVacant
  rw [bind_text, hVacant]
  rfl

theorem bind_text_refused :
    (∀ at_, h.files.vacant e.text = .ok at_ → at_.slashed = true) →
      ∃ cause, h.bind e.text = .error cause := by
  intro hSlashed
  rw [bind_text]
  cases hVacant : h.files.vacant e.text with
  | error cause => cases cause <;> exact ⟨_, rfl⟩
  | ok at_ => exact ⟨_, if_pos (hSlashed at_ hVacant)⟩

theorem takeOver_of_place :
    h.files.place? e.text = some π → h.files.isDirectory π = false →
      h.takeOver e.text = (h.installed π, .ok h.sockets.count) := by
  intro hPlace hFile
  have hRemove := Files.remove_of_place hPlace hFile
  -- What was there is gone, and the path leads to the same place as before.
  have hVacant : (h.removeFile e.text).files.vacant e.text = .ok ⟨π, true, false⟩ := by
    rw [removeFile, hRemove]
    refine Files.vacant_of_none ?_ (if_pos rfl)
    rw [(Files.sameDirectories_erase hFile).place?]
    exact hPlace
  rw [takeOver, bind_text_of_vacant hVacant]
  simp only [installed, removeFile, hRemove, Files.put_erase]

/-- Opening a socket at an endpoint makes its file in place of what is there, or changes nothing
at all. -/
theorem takeOver_cases (h : Host) (e : Endpoint) :
    (∃ π, h.files.place? e.text = some π ∧ h.files.isDirectory π = false ∧
        h.takeOver e.text = (h.installed π, .ok h.sockets.count)) ∨
      ∃ cause, h.takeOver e.text = (h, .error cause) := by
  rcases Files.remove_cases h.files e.text with ⟨π, hPlace, hFile, -⟩ | ⟨hRemove, hDirectory⟩
  · exact .inl ⟨π, hPlace, hFile, takeOver_of_place hPlace hFile⟩
  · -- There was nothing to remove, so what is in the way stays there.
    have hSame : h.removeFile e.text = h := by
      rw [removeFile, hRemove]
    obtain ⟨cause, hBind⟩ : ∃ cause, h.bind e.text = .error cause := by
      refine bind_text_refused fun at_ => Files.slashed_of_vacant ?_
      intro π hPlace hNone
      have hEntry := Files.isDirectory_iff.mp (hDirectory π hPlace)
      rw [hNone] at hEntry
      cases hEntry
    refine .inr ⟨cause, ?_⟩
    rw [takeOver, hSame, hBind]

end Host

namespace Daemon

/-- A daemon starts at the place of its path unless a directory is there, or else nothing changes.
-/
theorem bind_cases (h : Host) (e : Endpoint) (evicts : Bool) :
    (∃ π, h.files.place? e.text = some π ∧ h.files.isDirectory π = false ∧
        bind e evicts h =
          (h.installed π, .ok ⟨h.sockets.count, e, Registry.empty, evicts⟩)) ∨
      ∃ cause, bind e evicts h = (h, .error cause) := by
  rcases h.takeOver_cases e with ⟨π, hPlace, hFile, hTake⟩ | ⟨cause, hTake⟩
  · refine .inl ⟨π, hPlace, hFile, ?_⟩
    rw [bind, hTake]
  · refine .inr ⟨.bind e.text cause, ?_⟩
    rw [bind, hTake]

end Daemon

namespace Client

/-- A client starts at the place of its path unless a directory is there, or else nothing changes.
-/
theorem bindAt_cases (h : Host) (e daemon : Endpoint) :
    (∃ π, h.files.place? e.text = some π ∧ h.files.isDirectory π = false ∧
        bindAt e daemon h = (h.installed π, .ok ⟨h.sockets.count, e, daemon, []⟩)) ∨
      ∃ cause, bindAt e daemon h = (h, .error cause) := by
  rcases h.takeOver_cases e with ⟨π, hPlace, hFile, hTake⟩ | ⟨cause, hTake⟩
  · refine .inl ⟨π, hPlace, hFile, ?_⟩
    rw [bindAt, hTake]
  · refine .inr ⟨.bind e.text cause, ?_⟩
    rw [bindAt, hTake]

/-- The same for an endpoint that is made of a role and a process, if it is one. -/
theorem bind_cases (dir role process : String) (n : Nat) (daemon : Endpoint) (h : Host) :
    (∃ e π, endpointFor dir role process n = .ok e ∧
        bind dir role process n daemon h =
          (h.installed π, .ok ⟨h.sockets.count, e, daemon, []⟩)) ∨
      ∃ cause, bind dir role process n daemon h = (h, .error cause) := by
  unfold bind
  -- What the endpoint is made of does not matter here.
  generalize endpointFor dir role process n = derived
  cases derived with
  | error cause => exact .inr ⟨_, rfl⟩
  | ok e =>
    rcases bindAt_cases h e daemon with ⟨π, -, -, hBind⟩ | ⟨cause, hBind⟩
    · exact .inl ⟨e, π, rfl, hBind⟩
    · exact .inr ⟨cause, hBind⟩

end Client

namespace Host

variable {h : Host} {path : String} {π : List String} {id : Nat} {e : Endpoint}

/-! ## Reaching a socket -/

/-- What is sent to a path arrives at a socket, behind what waits there. -/
def LeadsTo (h : Host) (path : String) (id : Nat) : Prop :=
  ∀ datagram, ∃ h', h.send path datagram = (h', .delivered) ∧
    (h'.sockets.object id).queue = (h.sockets.object id).queue ++ [datagram]

theorem ne_empty_of_place {f : Files} : f.place? path = some π → path ≠ "" := by
  rintro hPlace rfl
  cases Files.place?_eq_some_iff.mp hPlace

theorem reach_of_address (hSome : path ≠ "") (hAddress : checkAddress path = .ok ()) :
    h.reach path =
      match h.files.find path with
      | .error e => .error (.kernel e)
      | .ok (_, .socket id) =>
        if (h.sockets.object id).live then .ok id else .error (.kernel .refused)
      | .ok _ => .error (.kernel .refused) := by
  have hNot : path.isEmpty = false := by
    rw [← Bool.not_eq_true, String.isEmpty_iff]
    exact hSome
  rw [reach, hAddress, hNot]
  rfl

/-- A path reaches the live socket at its place. -/
theorem reach_of_socket (hPlace : h.files.place? path = some π)
    (hAddress : checkAddress path = .ok ()) (hEntry : h.files.entry π = some (.socket id))
    (hLive : (h.sockets.object id).live = true) : h.reach path = .ok id := by
  rw [reach_of_address (ne_empty_of_place hPlace) hAddress, Files.find_of_socket hPlace hEntry]
  exact if_pos hLive

theorem reach_of_none (hPlace : h.files.place? path = some π)
    (hAddress : checkAddress path = .ok ()) (hEntry : h.files.entry π = none) :
    h.reach path = .error (.kernel .noEntry) := by
  rw [reach_of_address (ne_empty_of_place hPlace) hAddress, Files.find_of_none hPlace hEntry]

theorem send_of_error {cause : RequestError} {datagram : ByteArray} :
    h.reach path = .error cause → h.send path datagram = (h, .failed cause) := by
  intro hReach
  rw [send, hReach]

/-- The host after a datagram arrived at a socket. -/
def arrived (h : Host) (id : Nat) (datagram : ByteArray) : Host :=
  h.withSocket id fun s => { s with queue := s.queue ++ [datagram] }

theorem queue_arrived {datagram : ByteArray} :
    ((h.arrived id datagram).sockets.object id).queue =
      (h.sockets.object id).queue ++ [datagram] :=
  congrArg Socket.queue (Numbered.object_set_same _ _ _)

/-- A datagram goes to the end of the queue that its path reaches, if there is room. -/
theorem send_of_reach {datagram : ByteArray} :
    h.reach path = .ok id → (h.sockets.object id).full = false →
      h.send path datagram = (h.arrived id datagram, .delivered) := by
  intro hReach hRoom
  rw [send, hReach]
  simp only [hRoom, Bool.false_eq_true, if_false]
  rfl

theorem leadsTo_of_reach (hReach : h.reach path = .ok id)
    (hRoom : (h.sockets.object id).full = false) : h.LeadsTo path id := by
  intro datagram
  exact ⟨_, send_of_reach hReach hRoom, queue_arrived⟩

end Host

/-! ## Spellings of one endpoint -/

namespace Endpoint

variable {e e' : Endpoint} {f : Files} {π : List String}

/-- The path ends in a plain word, and neither in a dot nor in a slash. -/
def Direct (e : Endpoint) : Prop :=
  (Files.words e.text).getLast? ≠ some "." ∧ e.text.toList.getLast? ≠ some '/'

theorem filter_words (e : Endpoint) : (Files.words e.text).filter (· != ".") = e.key.words := by
  rw [key, Path.key, if_pos e.absolute, Files.words, List.filter_filter]
  refine List.filter_congr fun word _ => ?_
  exact Bool.and_comm _ _

theorem locate_text (f : Files) (e : Endpoint) :
    f.locate e.text = f.follow (e.text.toList.getLast? == some '/') [] (Files.words e.text) := by
  have hShort : e.text.utf8ByteSize ≤ Files.maxPath := Nat.le_trans e.short (by decide)
  rw [Files.locate_eq_follow e.text_ne_empty hShort, if_pos e.absolute]

/-- Where an endpoint leads depends on its key alone, if it leads to a file at all. -/
theorem place?_text_eq_some_iff :
    f.place? e.text = some π ↔
      e.Direct ∧ f.follow false [] e.key.words = .ok ⟨π, true, false⟩ := by
  rw [Files.place?_eq_some_iff, locate_text, ← filter_words]
  constructor
  · intro h
    have hSlash : (e.text.toList.getLast? == some '/') = false := (Files.slashed_of_follow h).symm
    have hDot := Files.getLast?_of_plain h rfl
    rw [hSlash] at h
    exact ⟨⟨hDot, beq_eq_false_iff_ne.mp hSlash⟩, (Files.follow_filter hDot).trans h⟩
  · rintro ⟨⟨hDot, hSlash⟩, h⟩
    rw [beq_eq_false_iff_ne.mpr hSlash]
    exact (Files.follow_filter hDot).symm.trans h

/-- An endpoint that finds a socket names its place. -/
theorem place_of_find_socket {id : Nat} (hRoot : f.isDirectory [] = true) :
    f.find e.text = .ok (π, .socket id) →
      f.place? e.text = some π ∧ f.entry π = some (.socket id) := by
  intro hFind
  obtain ⟨plain, hLocate, hEntry⟩ := Files.locate_of_find_socket hFind
  cases plain with
  | true => exact ⟨Files.place?_eq_some_iff.mpr hLocate, hEntry⟩
  | false =>
    -- Dots at the end lead to a directory.
    rw [locate_text] at hLocate
    have hStart : ∀ above, above <+: [] → f.isDirectory above = true := by
      intro above hAbove
      rw [List.prefix_nil.mp hAbove, hRoot]
    have hDirectory := Files.isDirectory_of_not_plain hStart hLocate rfl
    cases hEntry.symm.trans (Files.isDirectory_iff.mp hDirectory)

end Endpoint

namespace Host

variable {h : Host} {id : Nat} {e e' : Endpoint}

/-- A socket is reached through its file. -/
theorem place_of_reach (hRoot : h.files.isDirectory [] = true) :
    h.reach e.text = .ok id →
      ∃ π, h.files.place? e.text = some π ∧ h.files.entry π = some (.socket id) ∧
        (h.sockets.object id).live = true := by
  intro hReach
  rw [reach_of_address e.text_ne_empty e.checkAddress_text] at hReach
  split at hReach
  next => cases hReach
  next π id' hFind =>
    split at hReach
    next hLive =>
      cases hReach
      obtain ⟨hPlace, hEntry⟩ := Endpoint.place_of_find_socket hRoot hFind
      exact ⟨π, hPlace, hEntry, hLive⟩
    next => cases hReach
  next => cases hReach

/-- An endpoint that reaches a socket names its place directly. -/
theorem direct_of_reach (hRoot : h.files.isDirectory [] = true) :
    h.reach e.text = .ok id → e.Direct := by
  intro hReach
  obtain ⟨π, hPlace, _, _⟩ := place_of_reach hRoot hReach
  exact (Endpoint.place?_text_eq_some_iff.mp hPlace).1

/-- Endpoints that are the same reach the same socket, if both end in a plain word. -/
theorem reach_of_key (hRoot : h.files.isDirectory [] = true) (hKey : e.key = e'.key)
    (hDirect : e'.Direct) : h.reach e.text = .ok id → h.reach e'.text = .ok id := by
  intro hReach
  obtain ⟨π, hPlace, hEntry, hLive⟩ := place_of_reach hRoot hReach
  have hFollow := (Endpoint.place?_text_eq_some_iff.mp hPlace).2
  -- From here on only the words of the key count.
  rw [hKey] at hFollow
  exact reach_of_socket (Endpoint.place?_text_eq_some_iff.mpr ⟨hDirect, hFollow⟩)
    e'.checkAddress_text hEntry hLive

/-! ## Queues -/

variable {change : Socket → Socket} {datagram : ByteArray}

theorem object_withSocket_other {i : Nat} (hOther : i ≠ id) :
    (h.withSocket id change).sockets.object i = h.sockets.object i :=
  Numbered.object_set_other _ hOther

/-- The host after the oldest datagram was taken from a queue. -/
def relieved (h : Host) (id : Nat) (rest : List ByteArray) : Host :=
  h.withSocket id fun s => { s with queue := rest }

/-- The oldest datagram is received, cut to the room for it. -/
theorem receive?_of_queue {first : ByteArray} {rest : List ByteArray} (room : Nat)
    (hQueue : (h.sockets.object id).queue = first :: rest) :
    h.receive? id room = some (h.relieved id rest, first.extract 0 room) := by
  rw [receive?, hQueue]
  rfl

theorem receive?_of_nil (room : Nat) (hQueue : (h.sockets.object id).queue = []) :
    h.receive? id room = none := by
  rw [receive?, hQueue]

/-- Whom a path reaches does not depend on what waits in the queues. -/
theorem reach_withSocket (hLive : ∀ s, (change s).live = s.live) (path : String) :
    (h.withSocket id change).reach path = h.reach path := by
  have hSame : ∀ i, ((h.withSocket id change).sockets.object i).live =
      (h.sockets.object i).live := by
    intro i
    by_cases hi : i = id
    · rw [hi, withSocket, Numbered.object_set_same, hLive]
    · rw [object_withSocket_other hi]
  -- Files are the same, and of a socket only its liveness is asked for.
  simp only [reach, hSame]
  rfl

theorem reach_arrived (path : String) : (h.arrived id datagram).reach path = h.reach path := by
  refine reach_withSocket ?_ path
  exact fun _ => rfl

/-- What is sent arrives where its path leads, or changes nothing. -/
theorem send_cases (h : Host) (path : String) (datagram : ByteArray) :
    (∃ id, h.reach path = .ok id ∧ h.send path datagram = (h.arrived id datagram, .delivered)) ∨
      (∃ cause, h.reach path = .error cause ∧ h.send path datagram = (h, .failed cause)) ∨
        ∃ id, h.reach path = .ok id ∧ (h.sockets.object id).full = true ∧
          h.send path datagram = (h, .queueFull) := by
  cases hReach : h.reach path with
  | error cause => exact .inr (.inl ⟨cause, rfl, send_of_error hReach⟩)
  | ok id =>
    cases hFull : (h.sockets.object id).full with
    | false => exact .inl ⟨id, rfl, send_of_reach hReach hFull⟩
    | true =>
      refine .inr (.inr ⟨id, rfl, hFull, ?_⟩)
      rw [send, hReach]
      exact if_pos hFull

/-! ## Closing -/

/-- A path reaches a socket if it stands in an address and finds the socket alive. -/
theorem reach_eq_ok_iff :
    h.reach path = .ok id ↔
      checkAddress path = .ok () ∧ path ≠ "" ∧
        ∃ π, h.files.find path = .ok (π, .socket id) ∧ (h.sockets.object id).live = true := by
  constructor
  · intro hReach
    -- An address that cannot be stood in, or an empty path, would have ended it.
    have hAddress : checkAddress path = .ok () := by
      cases hCheck : checkAddress path with
      | ok _ => rfl
      | error _ =>
        rw [reach, hCheck] at hReach
        cases hReach
    have hSome : path ≠ "" := by
      rintro rfl
      rw [reach, hAddress] at hReach
      cases hReach
    rw [reach_of_address hSome hAddress] at hReach
    split at hReach
    next => cases hReach
    next π id' hFind =>
      split at hReach
      next hLive =>
        cases hReach
        exact ⟨hAddress, hSome, π, hFind, hLive⟩
      next => cases hReach
    next => cases hReach
  · rintro ⟨hAddress, hSome, π, hFind, hLive⟩
    rw [reach_of_address hSome hAddress, hFind]
    exact if_pos hLive

/-- Closing a client opens no way that was not open before. -/
theorem reach_of_close {c : Client} :
    (c.close h).reach path = .ok id → h.reach path = .ok id := by
  intro hReach
  obtain ⟨hAddress, hSome, π, hFind, hLive⟩ := reach_eq_ok_iff.mp hReach
  refine reach_eq_ok_iff.mpr ⟨hAddress, hSome, π, Files.find_of_find_remove hFind, ?_⟩
  by_cases hOwn : id = c.socket
  · -- The client's own socket is not live any more.
    rw [hOwn, Client.close, close, withSocket, Numbered.object_set_same] at hLive
    cases hLive
  · rwa [Client.close, close, object_withSocket_other hOwn] at hLive

end Host
end RingBus
