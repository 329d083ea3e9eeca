import Mathlib.Data.List.Perm.Basic
import RingBus.Proofs.Discovery.Advertising

/-!
# Keys do not interfere

All keys live in one registry, and an eviction cuts across all of them. Still nobody under a key can
tell what happens under another one.

* `Registry.Action.asks`, `Registry.Action.concerns`: which actions are calls on a key, and which
  ones may be felt under it.
* `Registry.transcript`: a course of actions with what each of them was answered.
* `Registry.peers_after_filter`, `Registry.transcript_filter`: what does not concern a key can be
  left out.
* `Registry.service?_act_congr`, `Registry.service?_act_other`: an action on a key reads and writes
  what is kept under that key only.
-/

namespace RingBus

namespace Registry

/-! ## Calls and answers -/

/-- What an action comes to for whoever asked for it. -/
inductive Answer
  | told (notifications : List Notification)
  | withdrew (listed : Bool)
  | evicted (registrations : Nat)

/-- What the caller of an action learns. -/
def answer (r : Registry) : Action → Answer
  | .register key p => .told (r.register key p).2
  | .deregister key e => .withdrew (r.withdraw key e).2
  | .evict e => .evicted (r.forget e).2
  | .handle m => .told (r.handle m).2

/-- The registry after a course of actions. -/
def after (r : Registry) (actions : List Action) : Registry :=
  actions.foldl (fun r a => (r.act a).1) r

/-- The actions of a course, each with its answer. -/
def transcript : Registry → List Action → List (Action × Answer)
  | _, [] => []
  | r, a :: rest => (a, r.answer a) :: transcript (r.act a).1 rest

namespace Action

/-- The key that an action is about. An eviction is about none in particular. -/
def key? : Action → Option ServiceKey
  | .register key _ => some key
  | .deregister key _ => some key
  | .evict _ => none
  | .handle m => some m.key

/-- The action is a call on the key. -/
def asks (key : ServiceKey) (a : Action) : Bool :=
  decide (a.key? = some key)

/-- The action is a call on the key, or an eviction. -/
def concerns (key : ServiceKey) (a : Action) : Bool :=
  a.key?.all fun key' => decide (key' = key)

variable {a : Action} {key : ServiceKey}

theorem concerns_of_asks : a.asks key = true → a.concerns key = true := by
  intro h
  simp only [asks, decide_eq_true_eq] at h
  simp [concerns, h]

theorem under_of_not_concerns : a.concerns key = false → a.under key = .rests := by
  intro h
  cases a with
  | register key' p => simpa [concerns, key?, under] using h
  | deregister key' e => simpa [concerns, key?, under] using h
  | evict e => simp [concerns, key?] at h
  | handle m =>
    rcases m with ⟨command, key', p⟩
    have hOther : ¬ key' = key := by simpa [concerns, key?] using h
    cases command <;> simp [under, hOther]

end Action

variable {r r' : Registry} {a b : Action} {key key' : ServiceKey} {n : Notification}

/-! ## A key on its own -/

theorem withdraw_congr (e : Endpoint) :
    r.peers key = r'.peers key → (r.withdraw key e).2 = (r'.withdraw key e).2 := by
  intro h
  apply Bool.eq_iff_iff.mpr
  calc (r.withdraw key e).2 = true
    _ ↔ ∃ p ∈ r.peers key, p.endpoint.key = e.key := lists_iff
    _ ↔ ∃ p ∈ r'.peers key, p.endpoint.key = e.key := by rw [h]
    _ ↔ (r'.withdraw key e).2 = true := lists_iff.symm

/-- A call on a key is answered from the participants under that key alone. -/
theorem answer_congr :
    a.asks key = true → r.peers key = r'.peers key → r.answer a = r'.answer a := by
  intro hAsks h
  simp only [Action.asks, decide_eq_true_eq] at hAsks
  -- On the action; only registrations and deregistrations are answered from the registry.
  cases a with
  | register key' p =>
    cases hAsks
    simp only [answer, register, h]
  | deregister key' e =>
    cases hAsks
    exact congrArg Answer.withdrew (withdraw_congr e h)
  | evict e => cases hAsks
  | handle m =>
    rcases m with ⟨command, key', p⟩
    cases hAsks
    cases command with
    | register => simp only [answer, handle, register, h]
    | deregister => rfl
    | peer => rfl

/-- An action that does not concern a key leaves its participants alone. -/
theorem peers_act_of_not_concerns :
    a.concerns key = false → (r.act a).1.peers key = r.peers key := by
  intro h
  rw [peers_act, Action.under_of_not_concerns h]
  rfl

/-- The participants under a key are those after the actions that concern it. -/
theorem peers_after_filter (actions : List Action) (h : r.peers key = r'.peers key) :
    (r.after (actions.filter (·.concerns key))).peers key = (r'.after actions).peers key := by
  -- The shorter course stands still while the longer one does what does not concern the key.
  induction actions generalizing r r' with
  | nil => exact h
  | cons a rest ih =>
    cases hConcerns : a.concerns key with
    | false =>
      rw [List.filter_cons_of_neg (by simp [hConcerns])]
      exact ih (h.trans (peers_act_of_not_concerns hConcerns).symm)
    | true =>
      rw [List.filter_cons_of_pos hConcerns]
      exact ih (by rw [peers_act, peers_act, h])

/-- What is asked about a key is answered as if only the actions that concern it had been taken. -/
theorem transcript_filter (actions : List Action) (h : r.peers key = r'.peers key) :
    (r.transcript (actions.filter (·.concerns key))).filter (·.1.asks key) =
      (r'.transcript actions).filter (·.1.asks key) := by
  induction actions generalizing r r' with
  | nil => rfl
  | cons a rest ih =>
    cases hConcerns : a.concerns key with
    | false =>
      have hAsks : a.asks key = false := by
        rw [← Bool.not_eq_true]
        intro hAsks
        simp [Action.concerns_of_asks hAsks] at hConcerns
      rw [List.filter_cons_of_neg (by simp [hConcerns]), transcript,
        List.filter_cons_of_neg (by simp [hAsks])]
      exact ih (h.trans (peers_act_of_not_concerns hConcerns).symm)
    | true =>
      have hSame : (r.act a).1.peers key = (r'.act a).1.peers key := by
        rw [peers_act, peers_act, h]
      rw [List.filter_cons_of_pos hConcerns, transcript, transcript, List.filter_cons,
        List.filter_cons, ih hSame]
      -- An eviction is answered from all keys, but it is no call on this one.
      by_cases hAsks : a.asks key = true
      · rw [if_pos hAsks, if_pos hAsks, answer_congr hAsks h]
      · rw [if_neg hAsks, if_neg hAsks]

/-! ## Who hears of whom -/

/-- Both ends of a notification are listed under the key that it names. -/
structure Together (r : Registry) (n : Notification) : Prop where
  named : n.message.participant ∈ r.peers n.message.key
  told : ∃ q ∈ r.peers n.message.key, q.endpoint = n.recipient

/-- Notifications pass between participants of the message's own key. -/
theorem together_of_mem_handle {m : Message} :
    n ∈ (r.handle m).2 → n.message.key = m.key ∧ (r.handle m).1.Together n := by
  intro h
  have hNamed := truthful_of_mem_handle h
  obtain ⟨hRegister, q, hq, hn⟩ := mem_handle_iff.mp h
  rcases m with ⟨_, key, p⟩
  cases hRegister
  rcases hn with rfl | rfl
  · refine ⟨rfl, hNamed, p, ?_, rfl⟩
    rw [peers_handle_register]
    exact Listing.mem_enlist_self
  · refine ⟨rfl, hNamed, q, ?_, rfl⟩
    rw [peers_handle_register]
    exact Listing.mem_enlist_of_mem_without hq

/-- Notifications pass between participants of the action's own key. -/
theorem together_of_mem_act :
    n ∈ (r.act a).2 → a.key? = some n.message.key ∧ (r.act a).1.Together n := by
  intro h
  cases a with
  | register key p =>
    obtain ⟨hKey, hTogether⟩ := together_of_mem_handle (m := ⟨.register, key, p⟩) h
    exact ⟨congrArg some hKey.symm, hTogether⟩
  | deregister key e => cases h
  | evict e => cases h
  | handle m =>
    obtain ⟨hKey, hTogether⟩ := together_of_mem_handle h
    exact ⟨congrArg some hKey.symm, hTogether⟩

/-! ## Two keys -/

theorem service?_put_same {l : List Participant} : (r.put key l).service? key = some ⟨key, l⟩ :=
  Service.find?_put_same _

theorem service?_put_other {l : List Participant} :
    key' ≠ key → (r.put key l).service? key' = r.service? key' :=
  Service.find?_put_other _

theorem service?_drop_same : (r.drop key).service? key = none := by
  apply List.find?_eq_none.mpr
  intro s hs
  simpa using (List.mem_filter.mp hs).2

theorem service?_drop_other : key' ≠ key → (r.drop key).service? key' = r.service? key' := by
  intro hOther
  apply Option.ext
  intro s
  simp only [service?_eq_some_iff, drop, List.mem_filter, decide_eq_true_eq]
  constructor
  · rintro ⟨⟨hMem, -⟩, hKey⟩
    exact ⟨hMem, hKey⟩
  · rintro ⟨hMem, rfl⟩
    exact ⟨⟨hMem, hOther⟩, rfl⟩

theorem peers_congr : r.service? key = r'.service? key → r.peers key = r'.peers key := by
  intro h
  rw [peers, h, peers]

/-- A registration makes the same of a key in any registries that agree on it. -/
theorem service?_register_congr (p : Participant) :
    r.service? key = r'.service? key →
      (r.register key p).1.service? key = (r'.register key p).1.service? key := by
  intro h
  simp only [register, service?_put_same, peers_congr h]

/-- A deregistration makes the same of a key in any registries that agree on it. -/
theorem service?_deregister_congr (e : Endpoint) :
    r.service? key = r'.service? key →
      (r.deregister key e).service? key = (r'.deregister key e).service? key := by
  intro h
  cases hFound : r'.service? key with
  | none => rw [deregister_of_none hFound, deregister_of_none (h.trans hFound), h]
  | some s =>
    rw [deregister_of_some hFound, deregister_of_some (h.trans hFound)]
    split
    · rw [service?_drop_same, service?_drop_same]
    · rw [service?_put_same, service?_put_same]

/-- What a call leaves under its key depends on what was kept there. -/
theorem service?_act_congr :
    a.key? = some key → r.service? key = r'.service? key →
      (r.act a).1.service? key = (r'.act a).1.service? key := by
  intro hKey h
  cases a with
  | register key' p =>
    cases hKey
    exact service?_register_congr p h
  | deregister key' e =>
    cases hKey
    exact service?_deregister_congr e h
  | evict e => cases hKey
  | handle m =>
    rcases m with ⟨command, key', p⟩
    cases hKey
    cases command with
    | register => exact service?_register_congr p h
    | deregister => exact service?_deregister_congr p.endpoint h
    | peer => exact h

theorem service?_deregister_other (e : Endpoint) :
    key' ≠ key → (r.deregister key e).service? key' = r.service? key' := by
  intro hOther
  cases hFound : r.service? key with
  | none => rw [deregister_of_none hFound]
  | some s =>
    rw [deregister_of_some hFound]
    split
    · exact service?_drop_other hOther
    · exact service?_put_other hOther

/-- An action on one key leaves what is kept under another alone. -/
theorem service?_act_other :
    a.key? = some key → key' ≠ key → (r.act a).1.service? key' = r.service? key' := by
  intro hKey hOther
  cases a with
  | register _ p =>
    cases hKey
    exact service?_put_other hOther
  | deregister _ e =>
    cases hKey
    exact service?_deregister_other e hOther
  | evict e => cases hKey
  | handle m =>
    rcases m with ⟨command, _, p⟩
    cases hKey
    cases command with
    | register => exact service?_put_other hOther
    | deregister => exact service?_deregister_other p.endpoint hOther
    | peer => rfl

/-- Under every key the same is kept after two calls on different keys, whichever comes first. -/
theorem service?_act_comm (hFirst : a.key? = some key) (hSecond : b.key? = some key')
    (hOther : key ≠ key') (k : ServiceKey) :
    ((r.act a).1.act b).1.service? k = ((r.act b).1.act a).1.service? k := by
  by_cases hk : k = key
  -- One of the two calls is on this key, and the other one neither sees nor changes what is there.
  · subst hk
    calc ((r.act a).1.act b).1.service? k
      _ = (r.act a).1.service? k := service?_act_other hSecond hOther
      _ = ((r.act b).1.act a).1.service? k :=
          service?_act_congr hFirst (service?_act_other hSecond hOther).symm
  · by_cases hk' : k = key'
    · subst hk'
      calc ((r.act a).1.act b).1.service? k
        _ = (r.act b).1.service? k :=
            service?_act_congr hSecond (service?_act_other hFirst hOther.symm)
        _ = ((r.act b).1.act a).1.service? k := (service?_act_other hFirst hOther.symm).symm
    · rw [service?_act_other hSecond hk', service?_act_other hFirst hk,
        service?_act_other hFirst hk, service?_act_other hSecond hk']

/-- Registries that keep the same under every key differ in the order of the keys at most. -/
theorem perm_of_service? (h : ∀ key, r.service? key = r'.service? key) :
    r.services.Perm r'.services := by
  have hNodup : ∀ r : Registry, r.services.Nodup := fun r =>
    r.apart.imp fun hKey hSame => hKey (congrArg Service.key hSame)
  refine (List.perm_ext_iff_of_nodup (hNodup r) (hNodup r')).mpr fun s => ?_
  calc s ∈ r.services
    _ ↔ r.service? s.key = some s := by simp [service?_eq_some_iff]
    _ ↔ r'.service? s.key = some s := by rw [h]
    _ ↔ s ∈ r'.services := by simp [service?_eq_some_iff]

/-- What an action answers does not depend on actions on other keys. -/
theorem answer_act_other (hFirst : a.key? = some key) (hSecond : b.key? = some key')
    (hOther : key ≠ key') : (r.act a).1.answer b = r.answer b :=
  answer_congr (decide_eq_true hSecond) (peers_congr (service?_act_other hFirst hOther.symm))

/-! ## Every course of actions -/

/-- Whatever happens to a registry from the empty one on, what does not concern a key changes
neither its participants nor the answers to its calls; a notification stays among the participants
of one key; and calls on different keys commute, in the registry and in their answers. -/
theorem keys_do_not_interfere (actions : List Action) :
    (∀ key, (empty.after (actions.filter (·.concerns key))).peers key =
          (empty.after actions).peers key ∧
        (empty.transcript (actions.filter (·.concerns key))).filter (·.1.asks key) =
          (empty.transcript actions).filter (·.1.asks key)) ∧
      (∀ before a rest, actions = before ++ a :: rest →
        ∀ n ∈ ((empty.after before).act a).2,
          a.key? = some n.message.key ∧ (empty.after (before ++ [a])).Together n) ∧
      ∀ (r : Registry) (a b : Action) key key',
        a.key? = some key → b.key? = some key' → key ≠ key' →
        ((r.act a).1.act b).1.services.Perm ((r.act b).1.act a).1.services ∧
          (r.act a).1.answer b = r.answer b ∧ (r.act b).1.answer a = r.answer a := by
  refine ⟨fun key => ⟨peers_after_filter actions rfl, transcript_filter actions rfl⟩, ?_, ?_⟩
  · intro before a rest _ n hn
    -- What is sent is sent in view of the registry after the action.
    have hAfter : empty.after (before ++ [a]) = ((empty.after before).act a).1 := by
      simp [after]
    rw [hAfter]
    exact together_of_mem_act hn
  · intro r a b key key' hFirst hSecond hOther
    exact ⟨perm_of_service? (service?_act_comm hFirst hSecond hOther),
      answer_act_other hFirst hSecond hOther, answer_act_other hSecond hFirst hOther.symm⟩

/-! ### Bob is under two keys -/

open Listing.Sample

namespace Sample

/-- Another key than the one under which they meet. -/
def elsewhere : ServiceKey :=
  ⟨"l", by decide, by decide, by decide⟩

/-- Bob registers under both keys and is evicted from both, and Ann hears of him each time that he
joins her. -/
def crossing : List Action :=
  [.register elsewhere bob, .register meeting ann, .register meeting bob, .evict bob.endpoint,
    .deregister elsewhere bob.endpoint, .register meeting bobAgain]

end Sample

/-- Under the key of their meeting nothing shows of what Bob does elsewhere, and whom Ann hears of
is there. -/
theorem keys_do_not_interfere_crossing :
    ((empty.transcript (Sample.crossing.filter (·.concerns meeting))).filter (·.1.asks meeting) =
        (empty.transcript Sample.crossing).filter (·.1.asks meeting)) ∧
      (⟨ann.endpoint, ⟨.peer, meeting, bobAgain⟩⟩ : Notification) ∈
        ((empty.after (Sample.crossing.take 5)).act (.register meeting bobAgain)).2 ∧
      (empty.after Sample.crossing).Together ⟨ann.endpoint, ⟨.peer, meeting, bobAgain⟩⟩ ∧
      (empty.act (.register meeting ann)).1.answer (.register Sample.elsewhere bob) =
        .told [] := by
  obtain ⟨hKey, hTogether, hCommute⟩ := keys_do_not_interfere Sample.crossing
  have hTold : (⟨ann.endpoint, ⟨.peer, meeting, bobAgain⟩⟩ : Notification) ∈
      ((empty.after (Sample.crossing.take 5)).act (.register meeting bobAgain)).2 :=
    .tail _ (.head _)
  have hSplit : Sample.crossing = Sample.crossing.take 5 ++ [.register meeting bobAgain] := rfl
  have hOther : meeting ≠ Sample.elsewhere := by decide
  refine ⟨(hKey meeting).2, hTold, (hTogether _ _ [] hSplit _ hTold).2, ?_⟩
  exact (hCommute empty (.register meeting ann) (.register Sample.elsewhere bob) _ _ rfl rfl
    hOther).2.1

end Registry

end RingBus
