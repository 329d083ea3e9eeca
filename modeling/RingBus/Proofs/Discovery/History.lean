import Mathlib.Data.List.Induction
import Mathlib.Order.Lattice.Nat
import Mathlib.Tactic.IntervalCases
import RingBus.Discovery.Daemon
import RingBus.Proofs.Discovery.RoundTrip
import RingBus.Proofs.Discovery.Tally

/-!
# The registry is what its history says

A daemon receives datagrams of any bytes and forgets endpoints, in any order. Who is listed
afterwards, where, and with which entry can be read off what it went through.

* `Daemon.after`: the daemon after a history.
* `History.RegisteredAt`, `History.RemovedAt`: what happened under a key at a point of the history.
* `History.standing`: the registrations of an endpoint that no later removal undid.
* `History.Faithful`: the participants under a key are those of the standing registrations, in the
  order of the earliest of them, each with its latest entry.
-/

namespace RingBus

namespace Daemon

/-- What a daemon is exposed to. -/
inductive Input
  | datagram (bytes : ByteArray)
  | evict (e : Endpoint)

/-- The daemon after an input. -/
def take (d : Daemon) : Input → Daemon
  | .datagram bytes => (d.handle bytes).1
  | .evict e => { d with registry := d.registry.evict e }

/-- The daemon after a history. -/
def after (d : Daemon) (inputs : List Input) : Daemon :=
  inputs.foldl take d

theorem after_snoc (d : Daemon) (inputs : List Input) (x : Input) :
    d.after (inputs ++ [x]) = (d.after inputs).take x := by
  rw [after, List.foldl_append]
  rfl

namespace Input

/-- The input registers a participant under a key. -/
def Registers (x : Input) (key : ServiceKey) (p : Participant) : Prop :=
  ∃ bytes, x = .datagram bytes ∧ Datagram.parse bytes = .ok ⟨.register, key, p⟩

/-- The input takes an endpoint off a key. -/
inductive Removes (x : Input) (key : ServiceKey) (e : Path.Key) : Prop
  | deregistered (bytes : ByteArray) (p : Participant) :
    x = .datagram bytes → Datagram.parse bytes = .ok ⟨.deregister, key, p⟩ →
      p.endpoint.key = e → Removes x key e
  | evicted (endpoint : Endpoint) : x = .evict endpoint → endpoint.key = e → Removes x key e

/-- What an input amounts to under a key. -/
def under (key : ServiceKey) : Input → Move
  | .datagram bytes =>
    match Datagram.parse bytes with
    | .ok m => (Registry.Action.handle m).under key
    | .error _ => .rests
  | .evict e => .leaves e

variable {x : Input} {key : ServiceKey} {bytes : ByteArray} {m : Message} {p : Participant}
  {e : Path.Key} {endpoint : Endpoint}

/-- Under a key, a datagram is what its message is. -/
theorem under_of_ok :
    Datagram.parse bytes = .ok m →
      (datagram bytes).under key = (Registry.Action.handle m).under key := by
  intro h
  rw [under, h]

/-- Under any key, a datagram without a message is nothing. -/
theorem under_of_error {fault : DatagramFault} :
    Datagram.parse bytes = .error fault → (datagram bytes).under key = .rests := by
  intro h
  rw [under, h]

theorem under_handle_eq_joins_iff :
    (Registry.Action.handle m).under key = .joins p ↔ m = ⟨.register, key, p⟩ := by
  rcases m with ⟨command, key', p'⟩
  cases command with
  | register => by_cases hKey : key' = key <;> simp [Registry.Action.under, hKey]
  | deregister => by_cases hKey : key' = key <;> simp [Registry.Action.under, hKey]
  | peer => simp [Registry.Action.under]

theorem under_handle_eq_leaves_iff :
    (Registry.Action.handle m).under key = .leaves endpoint ↔
      ∃ p, m = ⟨.deregister, key, p⟩ ∧ p.endpoint = endpoint := by
  rcases m with ⟨command, key', p'⟩
  cases command with
  | register => by_cases hKey : key' = key <;> simp [Registry.Action.under, hKey]
  | deregister => by_cases hKey : key' = key <;> simp [Registry.Action.under, hKey]
  | peer => simp [Registry.Action.under]

/-- An input registers a participant exactly if it makes the participant join. -/
theorem registers_iff : x.Registers key p ↔ x.under key = .joins p := by
  constructor
  · rintro ⟨bytes, rfl, hParse⟩
    rw [under_of_ok hParse]
    exact under_handle_eq_joins_iff.mpr rfl
  · intro h
    cases x with
    | evict endpoint => cases h
    | datagram bytes =>
      cases hParse : Datagram.parse bytes with
      | ok m =>
        rw [under_of_ok hParse] at h
        exact ⟨bytes, rfl, under_handle_eq_joins_iff.mp h ▸ hParse⟩
      | error _ =>
        rw [under_of_error hParse] at h
        cases h

/-- An input removes a path exactly if it makes an endpoint of that path leave. -/
theorem removes_iff :
    x.Removes key e ↔ ∃ endpoint, x.under key = .leaves endpoint ∧ endpoint.key = e := by
  constructor
  · intro h
    cases h with
    | deregistered bytes p hInput hParse hKey =>
      refine ⟨p.endpoint, ?_, hKey⟩
      rw [hInput, under_of_ok hParse]
      exact under_handle_eq_leaves_iff.mpr ⟨p, rfl, rfl⟩
    | evicted endpoint hInput hKey =>
      refine ⟨endpoint, ?_, hKey⟩
      rw [hInput]
      rfl
  · rintro ⟨endpoint, h, hKey⟩
    cases x with
    | evict endpoint' =>
      injection h with hSame
      exact .evicted endpoint' rfl (hSame ▸ hKey)
    | datagram bytes =>
      cases hParse : Datagram.parse bytes with
      | ok m =>
        rw [under_of_ok hParse] at h
        obtain ⟨p, rfl, rfl⟩ := under_handle_eq_leaves_iff.mp h
        exact .deregistered bytes p rfl hParse hKey
      | error _ =>
        rw [under_of_error hParse] at h
        cases h

end Input

theorem handle_of_ok {d : Daemon} {bytes : ByteArray} {m : Message} :
    Datagram.parse bytes = .ok m →
      d.handle bytes = ({ d with registry := (d.registry.handle m).1 }, (d.registry.handle m).2) := by
  intro h
  rw [handle, h]

theorem handle_of_error {d : Daemon} {bytes : ByteArray} {fault : DatagramFault} :
    Datagram.parse bytes = .error fault → d.handle bytes = (d, []) := by
  intro h
  rw [handle, h]

/-- Nothing but the registry changes. -/
theorem exists_handle (d : Daemon) (bytes : ByteArray) :
    ∃ registry, (d.handle bytes).1 = { d with registry } := by
  cases hParse : Datagram.parse bytes with
  | ok m => exact ⟨_, congrArg Prod.fst (handle_of_ok hParse)⟩
  | error _ => exact ⟨d.registry, congrArg Prod.fst (handle_of_error hParse)⟩

/-- Whatever comes in, an action is taken on the registry or nothing changes. -/
theorem take_cases (d : Daemon) (x : Input) :
    (∃ a : Registry.Action, (∀ key, x.under key = a.under key) ∧
        d.take x = { d with registry := (d.registry.act a).1 }) ∨
      (∀ key, x.under key = .rests) ∧ d.take x = d := by
  cases x with
  | evict e => exact .inl ⟨.evict e, fun _ => rfl, rfl⟩
  | datagram bytes =>
    cases hParse : Datagram.parse bytes with
    | ok m =>
      refine .inl ⟨.handle m, fun _ => Input.under_of_ok hParse, ?_⟩
      rw [take, handle_of_ok hParse]
      rfl
    | error _ =>
      refine .inr ⟨fun _ => Input.under_of_error hParse, ?_⟩
      rw [take, handle_of_error hParse]

/-- Seen from a key, an input does what its move does. -/
theorem peers_take (d : Daemon) (x : Input) (key : ServiceKey) :
    (d.take x).registry.peers key = (x.under key).apply (d.registry.peers key) := by
  rcases take_cases d x with ⟨a, hUnder, hTake⟩ | ⟨hUnder, hTake⟩
  · rw [hTake, hUnder]
    exact Registry.peers_act a
  · rw [hTake, hUnder]
    rfl

/-- No input makes the daemon keep a key without participants. -/
theorem kept_take {d : Daemon} (h : d.registry.Kept) (x : Input) :
    (d.take x).registry.Kept := by
  rcases take_cases d x with ⟨a, _, hTake⟩ | ⟨_, hTake⟩
  · rw [hTake]
    exact h.act a
  · rw [hTake]
    exact h

end Daemon

open Daemon (Input)

namespace History

/-! ## What happened -/

section

variable (h : List Input) (key : ServiceKey)

/-- At a point of the history a participant registered under a key. -/
def RegisteredAt (i : Nat) (p : Participant) : Prop :=
  ∃ x, h[i]? = some x ∧ x.Registers key p

/-- At a point of the history an endpoint was taken off a key. -/
def RemovedAt (i : Nat) (e : Path.Key) : Prop :=
  ∃ x, h[i]? = some x ∧ x.Removes key e

/-- When an endpoint registered under a key. -/
def registrations (e : Path.Key) : Set Nat :=
  {i | ∃ p, RegisteredAt h key i p ∧ p.endpoint.key = e}

/-- When an endpoint registered under a key and was not removed afterwards. -/
def standing (e : Path.Key) : Set Nat :=
  {i ∈ registrations h key e | ∀ j, i < j → ¬ RemovedAt h key j e}

/-- The earliest registration of one endpoint that stands is earlier than that of another. -/
def Precedes (e f : Path.Key) : Prop :=
  ∃ i j, IsLeast (standing h key e) i ∧ IsLeast (standing h key f) j ∧ i < j

/-- The participants under a key are what the history says. -/
structure Faithful (l : List Participant) : Prop where
  listed : ∀ e, (∃ p ∈ l, p.endpoint.key = e) ↔ (standing h key e).Nonempty
  once : Listing.Distinct l
  ordered : l.Pairwise fun p q => Precedes h key p.endpoint.key q.endpoint.key
  current : ∀ p ∈ l, ∃ i, IsGreatest (registrations h key p.endpoint.key) i ∧
    RegisteredAt h key i p

end

/-! ## No more than one list is faithful -/

section

variable {h : List Input} {key : ServiceKey} {i : Nat} {p q : Participant} {e f : Path.Key}
  {l l' : List Participant}

theorem registeredAt_iff :
    RegisteredAt h key i p ↔ (h.map (Input.under key))[i]? = some (.joins p) := by
  simp only [RegisteredAt, Input.registers_iff, List.getElem?_map, Option.map_eq_some_iff]

theorem removedAt_iff :
    RemovedAt h key i e ↔
      ∃ endpoint, (h.map (Input.under key))[i]? = some (.leaves endpoint) ∧ endpoint.key = e := by
  simp only [RemovedAt, Input.removes_iff, List.getElem?_map, Option.map_eq_some_iff]
  grind

/-- One input registers one participant at most. -/
theorem RegisteredAt.unique (hp : RegisteredAt h key i p) (hq : RegisteredAt h key i q) :
    p = q :=
  Move.joins.inj (Option.some.inj ((registeredAt_iff.mp hp).symm.trans (registeredAt_iff.mp hq)))

/-- Of two paths, one at most stands in front of the other. -/
theorem Precedes.asymm (hef : Precedes h key e f) : ¬ Precedes h key f e := by
  rintro ⟨j', i', hj', hi', hLt'⟩
  obtain ⟨i, j, hi, hj, hLt⟩ := hef
  cases hi.unique hi'
  cases hj.unique hj'
  exact Nat.lt_asymm hLt hLt'

namespace Faithful

/-- Whoever is listed has the entry of the latest registration, so it is the same in both lists. -/
theorem subset (faithful : Faithful h key l) (faithful' : Faithful h key l') : l ⊆ l' := by
  intro p hp
  obtain ⟨q, hq, hKey⟩ := (faithful'.listed _).mpr ((faithful.listed _).mp ⟨p, hp, rfl⟩)
  obtain ⟨i, hLatest, hAt⟩ := faithful.current p hp
  obtain ⟨j, hLatest', hAt'⟩ := faithful'.current q hq
  rw [hKey] at hLatest'
  cases hLatest.unique hLatest'
  cases hAt.unique hAt'
  exact hq

/-- The history leaves nothing open about who is listed. -/
theorem unique (faithful : Faithful h key l) (faithful' : Faithful h key l') : l = l' := by
  have hNodup : ∀ {l : List Participant}, Listing.Distinct l → l.Nodup := fun distinct =>
    (Listing.distinct_iff_nodup.mp distinct).of_map _
  refine List.Perm.eq_of_pairwise (fun p q _ _ hpq hqp => absurd hqp hpq.asymm)
    faithful.ordered faithful'.ordered ?_
  rw [List.perm_ext_iff_of_nodup (hNodup faithful.once) (hNodup faithful'.once)]
  exact fun p => ⟨fun hp => faithful.subset faithful' hp, fun hp => faithful'.subset faithful hp⟩

end Faithful

end

/-! ## One more input -/

variable {h : List Input} {x : Input} {key : ServiceKey} {i : Nat} {p : Participant}
  {e : Path.Key} {l : List Participant}

theorem exists_getElem?_snoc {P : Input → Prop} :
    (∃ y, (h ++ [x])[i]? = some y ∧ P y) ↔
      (∃ y, h[i]? = some y ∧ P y) ∨ i = h.length ∧ P x := by
  rcases Nat.lt_trichotomy i h.length with hLt | rfl | hGt
  · simp [List.getElem?_append_left hLt, hLt.ne]
  · simp
  · simp [List.getElem?_eq_none_iff.mpr, hGt.le, hGt.ne', Nat.succ_le_of_lt hGt]

theorem registeredAt_snoc :
    RegisteredAt (h ++ [x]) key i p ↔
      RegisteredAt h key i p ∨ i = h.length ∧ x.Registers key p :=
  exists_getElem?_snoc

theorem removedAt_snoc :
    RemovedAt (h ++ [x]) key i e ↔ RemovedAt h key i e ∨ i = h.length ∧ x.Removes key e :=
  exists_getElem?_snoc

theorem lt_of_mem_registrations : i ∈ registrations h key e → i < h.length := by
  rintro ⟨_, ⟨_, hInput, _⟩, _⟩
  exact (List.getElem?_eq_some_iff.mp hInput).1

theorem lt_of_removedAt : RemovedAt h key i e → i < h.length := by
  rintro ⟨_, hInput, _⟩
  exact (List.getElem?_eq_some_iff.mp hInput).1

theorem mem_registrations_snoc :
    i ∈ registrations (h ++ [x]) key e ↔
      i ∈ registrations h key e ∨
        i = h.length ∧ ∃ p, x.Registers key p ∧ p.endpoint.key = e := by
  constructor
  · rintro ⟨p, hAt, hKey⟩
    rcases registeredAt_snoc.mp hAt with hBefore | ⟨hNow, hRegisters⟩
    · exact .inl ⟨p, hBefore, hKey⟩
    · exact .inr ⟨hNow, p, hRegisters, hKey⟩
  · rintro (⟨p, hBefore, hKey⟩ | ⟨hNow, p, hRegisters, hKey⟩)
    · exact ⟨p, registeredAt_snoc.mpr (.inl hBefore), hKey⟩
    · exact ⟨p, registeredAt_snoc.mpr (.inr ⟨hNow, hRegisters⟩), hKey⟩

/-- What stands is undone by a removal only. -/
theorem mem_standing_snoc :
    i ∈ standing (h ++ [x]) key e ↔
      i ∈ standing h key e ∧ ¬ x.Removes key e ∨
        i = h.length ∧ ∃ p, x.Registers key p ∧ p.endpoint.key = e := by
  constructor
  · rintro ⟨hRegistered, hKept⟩
    rcases mem_registrations_snoc.mp hRegistered with hBefore | hNow
    · -- It stood before, and the new input did not undo it.
      refine .inl ⟨⟨hBefore, ?_⟩, ?_⟩
      · intro j hj hRemoved
        exact hKept j hj (removedAt_snoc.mpr (.inl hRemoved))
      · intro hRemoves
        exact hKept h.length (lt_of_mem_registrations hBefore)
          (removedAt_snoc.mpr (.inr ⟨rfl, hRemoves⟩))
    · exact .inr hNow
  · rintro (⟨⟨hBefore, hKept⟩, hNot⟩ | ⟨rfl, hRegisters⟩)
    · refine ⟨mem_registrations_snoc.mpr (.inl hBefore), ?_⟩
      intro j hj hRemoved
      rcases removedAt_snoc.mp hRemoved with hRemoved | ⟨_, hRemoves⟩
      · exact hKept j hj hRemoved
      · exact hNot hRemoves
    · refine ⟨mem_registrations_snoc.mpr (.inr ⟨rfl, hRegisters⟩), ?_⟩
      intro j hj hRemoved
      -- Nothing comes after the last input.
      rcases removedAt_snoc.mp hRemoved with hRemoved | ⟨rfl, _⟩
      · exact absurd (lt_of_removedAt hRemoved) (Nat.not_lt_of_lt hj)
      · exact absurd hj (Nat.lt_irrefl _)

/-! ### A participant joins -/

section

variable (hx : x.under key = .joins p)

include hx

theorem registers_of_joins :
    (∃ q, x.Registers key q ∧ q.endpoint.key = e) ↔ p.endpoint.key = e := by
  simp only [Input.registers_iff, hx, Move.joins.injEq, exists_eq_left']

theorem not_removes_of_joins : ¬ x.Removes key e := by
  simp [Input.removes_iff, hx]

/-- A registration adds its place in the history to those of its path. -/
theorem registrations_of_joins :
    registrations (h ++ [x]) key e =
      if p.endpoint.key = e then insert h.length (registrations h key e)
      else registrations h key e := by
  ext i
  rw [mem_registrations_snoc, registers_of_joins hx]
  split
  next hSame => rw [and_iff_left hSame, or_comm, Set.mem_insert_iff]
  next hOther => rw [or_iff_left (mt And.right hOther)]

/-- A registration stands, and so do those of its path that stood before. -/
theorem standing_of_joins :
    standing (h ++ [x]) key e =
      if p.endpoint.key = e then insert h.length (standing h key e) else standing h key e := by
  ext i
  rw [mem_standing_snoc, registers_of_joins hx, and_iff_left (not_removes_of_joins hx)]
  split
  next hSame => rw [and_iff_left hSame, or_comm, Set.mem_insert_iff]
  next hOther => rw [or_iff_left (mt And.right hOther)]

/-- Registering again keeps the earliest registration. -/
theorem isLeast_of_joins :
    IsLeast (standing h key e) i → IsLeast (standing (h ++ [x]) key e) i := by
  intro hLeast
  rw [standing_of_joins hx]
  split
  next =>
    refine ⟨.inr hLeast.1, ?_⟩
    rintro j (rfl | hj)
    · exact (lt_of_mem_registrations hLeast.1.1).le
    · exact hLeast.2 hj
  next => exact hLeast

/-- A registration changes nothing about who came first among the others. -/
theorem precedes_of_joins {f : Path.Key} :
    Precedes h key e f → Precedes (h ++ [x]) key e f := by
  rintro ⟨i, j, hi, hj, hLt⟩
  exact ⟨i, j, isLeast_of_joins hx hi, isLeast_of_joins hx hj, hLt⟩

/-- A newcomer comes after everyone who is listed. -/
theorem precedes_newcomer :
    (standing h key e).Nonempty → ¬ (standing h key p.endpoint.key).Nonempty →
      Precedes (h ++ [x]) key e p.endpoint.key := by
  intro hListed hNew
  have hLeast : IsLeast (standing h key e) (sInf (standing h key e)) :=
    ⟨Nat.sInf_mem hListed, fun _ hi => Nat.sInf_le hi⟩
  have hNow : IsLeast (standing (h ++ [x]) key p.endpoint.key) h.length := by
    rw [standing_of_joins hx, if_pos rfl, Set.not_nonempty_iff_eq_empty.mp hNew]
    exact ⟨.inl rfl, by rintro j (rfl | hj); exacts [le_rfl, hj.elim]⟩
  exact ⟨_, _, isLeast_of_joins hx hLeast, hNow, lt_of_mem_registrations hLeast.1.1⟩

/-- A registration keeps the listing faithful: an earlier entry is replaced in its place, and a new
one goes last. -/
theorem Faithful.joins (faithful : Faithful h key l) :
    Faithful (h ++ [x]) key (Listing.enlist p l) where
  listed := by
    intro e
    rw [standing_of_joins hx]
    split
    next hSame =>
      have hMem : p ∈ Listing.enlist p l := (Listing.mem_enlist faithful.once).mpr (.inl rfl)
      exact iff_of_true ⟨p, hMem, hSame⟩ (Set.insert_nonempty _ _)
    next hOther =>
      rw [← faithful.listed e]
      constructor
      -- Only the path of the newcomer was not listed before, if at all.
      · rintro ⟨q, hq, rfl⟩
        rcases (Listing.mem_enlist faithful.once).mp hq with rfl | ⟨hOld, _⟩
        · exact absurd rfl hOther
        · exact ⟨q, hOld, rfl⟩
      · rintro ⟨q, hq, rfl⟩
        exact ⟨q, (Listing.mem_enlist faithful.once).mpr (.inr ⟨hq, Ne.symm hOther⟩), rfl⟩
  once := faithful.once.enlist p
  ordered := by
    by_cases hListed : ∃ q ∈ l, q.endpoint.key = p.endpoint.key
    · -- The order is one of endpoints, and these are the same as before.
      have hKeys : ((Listing.enlist p l).map (·.endpoint.key)).Pairwise
          (Precedes (h ++ [x]) key) := by
        rw [Listing.keys_enlist_of_listed hListed]
        exact List.pairwise_map.mpr (faithful.ordered.imp (precedes_of_joins hx))
      exact List.pairwise_map.mp hKeys
    · -- The newcomer stands behind all others, and its only registration is the last input.
      rw [Listing.enlist_of_not_listed hListed]
      refine List.pairwise_append.mpr ⟨faithful.ordered.imp (precedes_of_joins hx),
        List.pairwise_singleton _ _, ?_⟩
      intro q hq p' hp'
      rw [List.mem_singleton.mp hp']
      exact precedes_newcomer hx ((faithful.listed _).mp ⟨q, hq, rfl⟩)
        (mt (faithful.listed _).mpr hListed)
  current := by
    intro q hq
    rw [registrations_of_joins hx]
    rcases (Listing.mem_enlist faithful.once).mp hq with rfl | ⟨hOld, hOther⟩
    · -- Its latest registration is the one just made.
      rw [if_pos rfl]
      refine ⟨h.length, ⟨.inl rfl, ?_⟩,
        registeredAt_snoc.mpr (.inr ⟨rfl, Input.registers_iff.mpr hx⟩)⟩
      rintro j (rfl | hj)
      · exact le_rfl
      · exact (lt_of_mem_registrations hj).le
    · rw [if_neg (Ne.symm hOther)]
      obtain ⟨i, hLatest, hAt⟩ := faithful.current q hOld
      exact ⟨i, hLatest, registeredAt_snoc.mpr (.inl hAt)⟩

end

/-! ### Nobody joins -/

/-- Only registrations are counted as such. -/
theorem registrations_of_not_joins :
    (∀ q, x.under key ≠ .joins q) → registrations (h ++ [x]) key e = registrations h key e := by
  intro hNot
  ext i
  rw [mem_registrations_snoc, or_iff_left]
  rintro ⟨_, q, hRegisters, _⟩
  exact hNot q (Input.registers_iff.mp hRegisters)

theorem standing_of_not_joins :
    (∀ q, x.under key ≠ .joins q) → ¬ x.Removes key e →
      standing (h ++ [x]) key e = standing h key e := by
  intro hNot hStays
  ext i
  rw [mem_standing_snoc, and_iff_left hStays, or_iff_left]
  rintro ⟨_, q, hRegisters, _⟩
  exact hNot q (Input.registers_iff.mp hRegisters)

/-- A removal ends all registrations of its path. -/
theorem standing_of_removes :
    (∀ q, x.under key ≠ .joins q) → x.Removes key e → standing (h ++ [x]) key e = ∅ := by
  intro hNot hRemoves
  apply Set.eq_empty_of_forall_notMem
  intro i hi
  rcases mem_standing_snoc.mp hi with ⟨_, hStays⟩ | ⟨_, q, hRegisters, _⟩
  · exact hStays hRemoves
  · exact hNot q (Input.registers_iff.mp hRegisters)

/-- Whoever does not join leaves everybody listed who is not taken off. -/
theorem Faithful.stays (faithful : Faithful h key l) {left : List Participant} :
    (∀ q, x.under key ≠ .joins q) → left.Sublist l →
      (∀ q, q ∈ left ↔ q ∈ l ∧ ¬ x.Removes key q.endpoint.key) →
        Faithful (h ++ [x]) key left := by
  intro hNot hSublist hLeft
  have hStanding : ∀ q ∈ left,
      standing (h ++ [x]) key q.endpoint.key = standing h key q.endpoint.key := by
    intro q hq
    exact standing_of_not_joins hNot ((hLeft q).mp hq).2
  -- What is left keeps its order, so only who is listed and which registration counts need care.
  refine ⟨?_, faithful.once.sublist hSublist, ?_, ?_⟩
  · intro e
    by_cases hRemoves : x.Removes key e
    · -- Nothing of it stands any more, and it is not among those left.
      rw [standing_of_removes hNot hRemoves]
      refine iff_of_false ?_ Set.not_nonempty_empty
      rintro ⟨q, hq, rfl⟩
      exact ((hLeft q).mp hq).2 hRemoves
    · rw [standing_of_not_joins hNot hRemoves, ← faithful.listed e]
      constructor
      · rintro ⟨q, hq, hKey⟩
        exact ⟨q, ((hLeft q).mp hq).1, hKey⟩
      · rintro ⟨q, hq, rfl⟩
        exact ⟨q, (hLeft q).mpr ⟨hq, hRemoves⟩, rfl⟩
  · apply (faithful.ordered.sublist hSublist).imp_of_mem
    intro p q hp hq hPrecedes
    rwa [Precedes, hStanding p hp, hStanding q hq]
  · intro q hq
    rw [registrations_of_not_joins hNot]
    obtain ⟨i, hLatest, hAt⟩ := faithful.current q ((hLeft q).mp hq).1
    exact ⟨i, hLatest, registeredAt_snoc.mpr (.inl hAt)⟩

/-! ## Every history -/

theorem faithful_nil : Faithful [] key [] where
  listed := by
    intro e
    refine iff_of_false ?_ ?_
    · rintro ⟨q, hq, _⟩
      cases hq
    · rintro ⟨i, hi, _⟩
      exact absurd (lt_of_mem_registrations hi) (Nat.not_lt_zero i)
  once := .nil
  ordered := .nil
  current := by
    intro q hq
    cases hq

/-- Every input keeps the listing faithful to the history. -/
theorem Faithful.step (faithful : Faithful h key l) (x : Input) :
    Faithful (h ++ [x]) key ((x.under key).apply l) := by
  -- On what the input is under the key.
  cases hx : x.under key with
  | joins p => exact faithful.joins hx
  | leaves endpoint =>
    apply faithful.stays
    · intro q hq
      cases hx.symm.trans hq
    · exact List.filter_sublist
    · intro q
      rw [Move.apply, Listing.mem_without, Input.removes_iff]
      simp [hx, eq_comm]
  | rests =>
    apply faithful.stays
    · intro q hq
      cases hx.symm.trans hq
    · exact List.Sublist.refl l
    · intro q
      simp [Move.apply, Input.removes_iff, hx]

end History

namespace Daemon

open History (Faithful)

variable (d : Daemon) (inputs : List Input)

/-- No inputs make the daemon keep a key without participants. -/
theorem kept_after : d.registry.Kept → (d.after inputs).registry.Kept := by
  intro h
  induction inputs using List.reverseRecOn with
  | nil => exact h
  | append_singleton inputs x ih =>
    rw [after_snoc]
    exact kept_take ih x

/-- After any inputs, the daemon's listing is faithful to them. -/
theorem faithful_after (key : ServiceKey) :
    d.registry = Registry.empty →
      Faithful inputs key ((d.after inputs).registry.peers key) := by
  intro h
  induction inputs using List.reverseRecOn with
  | nil =>
    rw [after, List.foldl_nil, h]
    exact History.faithful_nil
  | append_singleton inputs x ih =>
    rw [after_snoc, peers_take]
    exact ih.step x

/-- After every history of a daemon, the participants under every key are what the history says,
the numbers of the registry are those of the participants, and what is no message of a participant
changes nothing. -/
theorem registry_tells_history (socket : Nat) (endpoint : Endpoint) (evicts : Bool)
    (inputs : List Input) :
    let d := (⟨socket, endpoint, Registry.empty, evicts⟩ : Daemon).after inputs
    (∀ key, Faithful inputs key (d.registry.peers key)) ∧ d.registry.Tallied ∧
      ∀ bytes, (∀ m, Datagram.parse bytes = .ok m → m.command = .peer) →
        d.handle bytes = (d, []) := by
  intro d
  have hFaithful : ∀ key, Faithful inputs key (d.registry.peers key) := by
    intro key
    exact faithful_after _ inputs key rfl
  refine ⟨hFaithful, ?_, ?_⟩
  · exact Registry.tallied (kept_after _ inputs Registry.kept_empty) fun key =>
      (hFaithful key).once
  · intro bytes hIdle
    cases hParse : Datagram.parse bytes with
    | ok m =>
      rw [handle_of_ok hParse, Registry.handle, hIdle m hParse]
    | error _ => exact handle_of_error hParse

open Listing.Sample

/-! ### Ann comes back, Bob spells himself differently, and Cid is gone -/

namespace Sample

/-- What a daemon was exposed to. -/
def busyDay : List Input :=
  [.datagram (⟨.register, meeting, ann⟩ : Message).encode,
    .datagram (⟨.register, meeting, bob⟩ : Message).encode,
    .datagram (⟨.register, meeting, cid⟩ : Message).encode,
    .datagram (⟨.deregister, meeting, ann⟩ : Message).encode,
    .datagram (⟨.register, meeting, bobAgain⟩ : Message).encode,
    .datagram (⟨.register, meeting, ann⟩ : Message).encode,
    .datagram (⟨.peer, meeting, cid⟩ : Message).encode,
    .datagram ByteArray.empty,
    .evict cid.endpoint]

theorem moves_busyDay :
    busyDay.map (Input.under meeting) =
      [.joins ann, .joins bob, .joins cid, .leaves ann.endpoint, .joins bobAgain, .joins ann,
        .rests, .rests, .leaves cid.endpoint] := by
  have hEmpty : (Input.datagram ByteArray.empty).under meeting = .rests := by
    rfl
  simp only [busyDay, List.map_cons, List.map_nil, Input.under_of_ok (Message.parse_encode _),
    hEmpty]
  rfl

variable {i : Nat} {p : Participant} {e : Path.Key}

theorem registeredAt_busyDay :
    History.RegisteredAt busyDay meeting i p ↔
      i = 0 ∧ p = ann ∨ i = 1 ∧ p = bob ∨ i = 2 ∧ p = cid ∨ i = 4 ∧ p = bobAgain ∨
        i = 5 ∧ p = ann := by
  rw [History.registeredAt_iff, moves_busyDay]
  rcases Nat.lt_or_ge i 9 with hLt | hGe
  · interval_cases i <;> simp [eq_comm]
  · rw [List.getElem?_eq_none (by simpa using hGe)]
    simp only [reduceCtorEq, false_iff]
    omega

theorem removedAt_busyDay :
    History.RemovedAt busyDay meeting i e ↔
      i = 3 ∧ e = ann.endpoint.key ∨ i = 8 ∧ e = cid.endpoint.key := by
  rw [History.removedAt_iff, moves_busyDay]
  rcases Nat.lt_or_ge i 9 with hLt | hGe
  · interval_cases i <;> simp [eq_comm]
  · rw [List.getElem?_eq_none (by simpa using hGe)]
    simp only [reduceCtorEq, false_and, exists_false, false_iff]
    omega

theorem key_bobAgain : bobAgain.endpoint.key = bob.endpoint.key := by
  decide

/-- Ann's second registration stands and both of Bob's do. -/
theorem mem_standing_busyDay :
    i ∈ History.standing busyDay meeting e ↔
      i = 5 ∧ e = ann.endpoint.key ∨ (i = 1 ∨ i = 4) ∧ e = bob.endpoint.key := by
  constructor
  · rintro ⟨⟨p, hAt, rfl⟩, hKept⟩
    rcases registeredAt_busyDay.mp hAt with ⟨rfl, rfl⟩ | ⟨rfl, rfl⟩ | ⟨rfl, rfl⟩ | ⟨rfl, rfl⟩ |
      ⟨rfl, rfl⟩
    · exact absurd (removedAt_busyDay.mpr (.inl ⟨rfl, rfl⟩)) (hKept 3 (by decide))
    · exact .inr ⟨.inl rfl, rfl⟩
    · exact absurd (removedAt_busyDay.mpr (.inr ⟨rfl, rfl⟩)) (hKept 8 (by decide))
    · exact .inr ⟨.inr rfl, key_bobAgain⟩
    · exact .inl ⟨rfl, rfl⟩
  · rintro (⟨rfl, rfl⟩ | ⟨hAt, rfl⟩)
    · refine ⟨⟨ann, registeredAt_busyDay.mpr (by simp), rfl⟩, fun j hj hRemoved => ?_⟩
      rcases removedAt_busyDay.mp hRemoved with ⟨rfl, -⟩ | ⟨-, hKey⟩
      · exact absurd hj (by decide)
      · exact absurd hKey (by decide)
    · refine ⟨?_, fun j _ hRemoved => ?_⟩
      · rcases hAt with rfl | rfl
        · exact ⟨bob, registeredAt_busyDay.mpr (by simp), rfl⟩
        · exact ⟨bobAgain, registeredAt_busyDay.mpr (by simp), key_bobAgain⟩
      · rcases removedAt_busyDay.mp hRemoved with ⟨-, hKey⟩ | ⟨-, hKey⟩
        · exact absurd hKey (by decide)
        · exact absurd hKey (by decide)

theorem faithful_busyDay : Faithful busyDay meeting [bobAgain, ann] where
  listed e := by
    simp only [Set.Nonempty, mem_standing_busyDay, List.mem_cons, List.not_mem_nil, or_false,
      exists_eq_or_imp, exists_eq_left, key_bobAgain]
    constructor
    · rintro (rfl | rfl)
      · exact ⟨1, .inr ⟨.inl rfl, rfl⟩⟩
      · exact ⟨5, .inl ⟨rfl, rfl⟩⟩
    · rintro ⟨i, ⟨-, rfl⟩ | ⟨-, rfl⟩⟩
      · exact .inr rfl
      · exact .inl rfl
  once := by
    unfold Listing.Distinct
    decide
  ordered := by
    -- Bob's earliest standing registration is the input 1, and Ann's the input 5.
    refine List.pairwise_pair.mpr ⟨1, 5, ⟨?_, fun i hi => ?_⟩, ⟨?_, fun i hi => ?_⟩, by decide⟩
    · exact mem_standing_busyDay.mpr (.inr ⟨.inl rfl, key_bobAgain⟩)
    · rcases mem_standing_busyDay.mp hi with ⟨rfl, -⟩ | ⟨rfl | rfl, -⟩ <;> decide
    · exact mem_standing_busyDay.mpr (.inl ⟨rfl, rfl⟩)
    · rcases mem_standing_busyDay.mp hi with ⟨rfl, -⟩ | ⟨-, hKey⟩
      · exact Nat.le_refl _
      · exact absurd hKey (by decide)
  current p hp := by
    rcases List.mem_pair.mp hp with rfl | rfl
    · have hAt := (registeredAt_busyDay (i := 4) (p := bobAgain)).mpr (by simp)
      refine ⟨4, ⟨⟨_, hAt, rfl⟩, ?_⟩, hAt⟩
      rintro i ⟨p, hEarlier, hKey⟩
      rcases registeredAt_busyDay.mp hEarlier with ⟨rfl, -⟩ | ⟨rfl, -⟩ | ⟨rfl, -⟩ | ⟨rfl, -⟩ |
        ⟨-, rfl⟩
      · decide
      · decide
      · decide
      · decide
      · exact absurd hKey (by decide)
    · have hAt := (registeredAt_busyDay (i := 5) (p := ann)).mpr (by simp)
      refine ⟨5, ⟨⟨_, hAt, rfl⟩, ?_⟩, hAt⟩
      rintro i ⟨p, hEarlier, -⟩
      have hMem := registeredAt_busyDay.mp hEarlier
      omega

end Sample

/-- Ann is behind Bob since she came back, Bob is where he first was under his new spelling and with
his ring, and Cid is not listed. What is no message of a participant has changed nothing. -/
theorem registry_tells_history_busyDay :
    let d := (⟨0, desk, Registry.empty, true⟩ : Daemon).after Sample.busyDay
    d.registry.peers meeting = [bobAgain, ann] ∧ (d.registry.isEmpty = true ↔ d.registry.size = 0) ∧
      d.handle ByteArray.empty = (d, []) := by
  intro d
  obtain ⟨faithful, tallied, hIdle⟩ := registry_tells_history 0 desk true Sample.busyDay
  refine ⟨(faithful meeting).unique Sample.faithful_busyDay, tallied.isEmpty, hIdle _ ?_⟩
  intro m hParse
  have hEmpty : Datagram.parse ByteArray.empty = .error .empty := by
    rfl
  cases hEmpty.symm.trans hParse

end Daemon

end RingBus
