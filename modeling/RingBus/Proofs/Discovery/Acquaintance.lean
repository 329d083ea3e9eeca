import Mathlib.Data.List.Induction
import Mathlib.Logic.Function.Basic
import RingBus.Proofs.Discovery.Actions

/-!
# Everyone ends up knowing everyone

Participants learn of each other by notifications alone. They come and go in any order, register
again with another ring, and spell their endpoints as they like; still the last thing that a listed
participant was told about another one is that participant's current entry.

* `Registry.course`: the registry after a course of actions, with everything that was sent.
* `Ledger`: the same, seen from one key.
* `Acquainted`: who is listed was last told what is listed about everyone else.
* `Notebook`: what a participant knows that keeps the latest it was told about each endpoint.
-/

namespace RingBus

/-! ## Notifications -/

/-- Whether a notification tells the endpoint `owner` about the endpoint `about` under a key. -/
def Notification.tells (key : ServiceKey) (owner about : Endpoint) (n : Notification) : Bool :=
  decide (n.message.command = .peer) && decide (n.message.key = key) && n.recipient == owner &&
    n.message.participant.endpoint == about

/-- What is known about each endpoint, however it is spelled. -/
abbrev Notebook := Path.Key → Option Participant

/-- The notebook of a participant that keeps the latest it was told about each endpoint. -/
def Notebook.of (key : ServiceKey) (owner : Endpoint) (sent : List Notification) : Notebook :=
  sent.foldl
    (fun book n =>
      if n.tells key owner n.message.participant.endpoint then
        Function.update book n.message.participant.endpoint.key (some n.message.participant)
      else book)
    fun _ => none

/-- A notebook holds the last of what was told. -/
theorem Notebook.of_eq_getLast? (key : ServiceKey) (owner about : Endpoint)
    (sent : List Notification) :
    Notebook.of key owner sent about.key =
      ((sent.filter (·.tells key owner about)).getLast?).map (·.message.participant) := by
  -- On what was sent, with the newest last: it overwrites what is noted about its endpoint.
  induction sent using List.reverseRecOn with
  | nil => rfl
  | append_singleton sent n ih =>
    have hSnoc : Notebook.of key owner (sent ++ [n]) =
        if n.tells key owner n.message.participant.endpoint then
          Function.update (Notebook.of key owner sent) n.message.participant.endpoint.key
            (some n.message.participant)
        else Notebook.of key owner sent := by
      rw [Notebook.of, List.foldl_append]
      rfl
    have hSelf : (n.message.participant.endpoint == n.message.participant.endpoint) = true :=
      Endpoint.beq_iff.mpr rfl
    rw [hSnoc, List.filter_append]
    by_cases hAbout : n.message.participant.endpoint == about
    · have hKey := Endpoint.beq_iff.mp hAbout
      have hTells : n.tells key owner n.message.participant.endpoint = n.tells key owner about := by
        simp only [Notification.tells, hSelf, hAbout]
      by_cases hTold : n.tells key owner about
      · simp [hTells, hTold, hKey]
      · simpa [hTells, hTold] using ih
    · -- Notes about somebody else are taken elsewhere.
      have hTold : n.tells key owner about = false := by
        simp [Notification.tells, hAbout]
      have hKey : about.key ≠ n.message.participant.endpoint.key := by
        intro h
        exact hAbout (Endpoint.beq_iff.mpr h.symm)
      by_cases hTells : n.tells key owner n.message.participant.endpoint
      · simpa [hTells, hTold, Function.update_of_ne hKey] using ih
      · simpa [hTells, hTold] using ih

/-! ## One key -/

/-- The participants under a key, and what was told under it so far. -/
structure Ledger where
  listed : List Participant
  sent : List Notification

namespace Ledger

variable {key : ServiceKey} {L : Ledger}

/-- The ledger of a key after a move. -/
def move (key : ServiceKey) (L : Ledger) (m : Move) : Ledger :=
  ⟨m.apply L.listed, L.sent ++ m.told key L.listed⟩

/-- Whoever is listed was last told what is listed about everyone else. -/
structure Acquainted (key : ServiceKey) (L : Ledger) : Prop where
  distinct : Listing.Distinct L.listed
  told : ∀ a ∈ L.listed, ∀ b ∈ L.listed, a.endpoint.key ≠ b.endpoint.key →
    (L.sent.filter (·.tells key a.endpoint b.endpoint)).getLast? =
      some ⟨a.endpoint, ⟨.peer, key, b⟩⟩

/-- Before anything happened, nobody is listed and nobody was told. -/
theorem acquainted_nil : Acquainted key ⟨[], []⟩ where
  distinct := List.Pairwise.nil
  told := by
    intro a ha
    cases ha

section

variable {p : Participant} {a b : Endpoint} {others l : List Participant}

theorem filter_tells_newcomer :
    (others.map fun q => (⟨p.endpoint, ⟨.peer, key, q⟩⟩ : Notification)).filter
        (·.tells key a b) =
      if p.endpoint == a then
        (others.filter (·.endpoint == b)).map fun q => ⟨p.endpoint, ⟨.peer, key, q⟩⟩
      else [] := by
  -- Only the newcomer is told, and each note is about one of the others.
  rw [List.filter_map]
  by_cases hTo : p.endpoint == a
  · rw [if_pos hTo]
    congr 1
    apply List.filter_congr
    intro q _
    simp [Notification.tells, hTo]
  · rw [if_neg hTo, List.map_eq_nil_iff]
    apply List.filter_eq_nil_iff.mpr
    intro q _
    simp [Notification.tells, hTo]

theorem filter_tells_others :
    (others.map fun q => (⟨q.endpoint, ⟨.peer, key, p⟩⟩ : Notification)).filter
        (·.tells key a b) =
      if p.endpoint == b then
        (others.filter (·.endpoint == a)).map fun q => ⟨q.endpoint, ⟨.peer, key, p⟩⟩
      else [] := by
  -- Each of the others is told one note, and all notes are about the newcomer.
  rw [List.filter_map]
  by_cases hAbout : p.endpoint == b
  · rw [if_pos hAbout]
    congr 1
    apply List.filter_congr
    intro q _
    simp [Notification.tells, hAbout]
  · rw [if_neg hAbout, List.map_eq_nil_iff]
    apply List.filter_eq_nil_iff.mpr
    intro q _
    simp [Notification.tells, hAbout]

theorem filter_told_joins :
    ((Move.joins p).told key l).filter (·.tells key a b) =
      (if p.endpoint == a then
        ((Listing.without p.endpoint l).filter (·.endpoint == b)).map fun q =>
          ⟨p.endpoint, ⟨.peer, key, q⟩⟩
      else []) ++
      if p.endpoint == b then
        ((Listing.without p.endpoint l).filter (·.endpoint == a)).map fun q =>
          ⟨q.endpoint, ⟨.peer, key, p⟩⟩
      else [] := by
  rw [Move.told, List.filter_append, filter_tells_newcomer, filter_tells_others]

/-- A newcomer hears once of each other participant. -/
theorem told_newcomer {q : Participant} (distinct : Listing.Distinct l) :
    q ∈ l → q.endpoint.key ≠ p.endpoint.key →
      ((Move.joins p).told key l).filter (·.tells key p.endpoint q.endpoint) =
        [⟨p.endpoint, ⟨.peer, key, q⟩⟩] := by
  intro hMem hOther
  have hSelf : (p.endpoint == p.endpoint) = true := Endpoint.beq_iff.mpr rfl
  have hAbout : (p.endpoint == q.endpoint) = false := Listing.beq_eq_false_iff.mpr hOther.symm
  have hOnce := (distinct.without p.endpoint).filter_eq_singleton
    (Listing.mem_without.mpr ⟨hMem, hOther⟩)
  rw [filter_told_joins, hSelf, hAbout, hOnce]
  rfl

/-- Each other participant hears once of the newcomer. -/
theorem told_others {q : Participant} (distinct : Listing.Distinct l) :
    q ∈ l → q.endpoint.key ≠ p.endpoint.key →
      ((Move.joins p).told key l).filter (·.tells key q.endpoint p.endpoint) =
        [⟨q.endpoint, ⟨.peer, key, p⟩⟩] := by
  intro hMem hOther
  have hSelf : (p.endpoint == p.endpoint) = true := Endpoint.beq_iff.mpr rfl
  have hTo : (p.endpoint == q.endpoint) = false := Listing.beq_eq_false_iff.mpr hOther.symm
  have hOnce := (distinct.without p.endpoint).filter_eq_singleton
    (Listing.mem_without.mpr ⟨hMem, hOther⟩)
  rw [filter_told_joins, hSelf, hTo, hOnce]
  rfl

/-- A registration tells two others nothing about each other. -/
theorem told_nothing :
    a.key ≠ p.endpoint.key → b.key ≠ p.endpoint.key →
      ((Move.joins p).told key l).filter (·.tells key a b) = [] := by
  intro ha hb
  have hTo : (p.endpoint == a) = false := Listing.beq_eq_false_iff.mpr ha.symm
  have hAbout : (p.endpoint == b) = false := Listing.beq_eq_false_iff.mpr hb.symm
  rw [filter_told_joins, hTo, hAbout]
  rfl

end

/-- Every move keeps everyone acquainted: only the newcomer's entry changes, and both sides hear of
it. -/
theorem Acquainted.move (h : Acquainted key L) (m : Move) : Acquainted key (L.move key m) := by
  refine ⟨m.distinct_apply h.distinct, ?_⟩
  cases m with
  | rests =>
    intro a ha b hb hOther
    simpa [Ledger.move, Move.told] using h.told a ha b hb hOther
  | leaves e =>
    -- Who is still there was there before.
    intro a ha b hb hOther
    have ha' := (Listing.mem_without.mp ha).1
    have hb' := (Listing.mem_without.mp hb).1
    simpa [Ledger.move, Move.told] using h.told a ha' b hb' hOther
  | joins p =>
    -- Only the newcomer and those concerned are told anything, and what they are told is current.
    intro a ha b hb hOther
    simp only [Ledger.move, List.filter_append]
    rcases (Listing.mem_enlist h.distinct).mp ha with rfl | ⟨ha', hApart⟩
    · rcases (Listing.mem_enlist h.distinct).mp hb with rfl | ⟨hb', -⟩
      · exact absurd rfl hOther
      · rw [told_newcomer h.distinct hb' hOther.symm, List.getLast?_concat]
    · rcases (Listing.mem_enlist h.distinct).mp hb with rfl | ⟨hb', hApart'⟩
      · rw [told_others h.distinct ha' hOther, List.getLast?_concat]
      · rw [told_nothing hApart hApart', List.append_nil]
        exact h.told a ha' b hb' hOther

/-- Everyone is acquainted after any sequence of moves. -/
theorem acquainted_foldl (moves : List Move) :
    Acquainted key (moves.foldl (Ledger.move key) ⟨[], []⟩) := by
  induction moves using List.reverseRecOn with
  | nil => exact acquainted_nil
  | append_singleton moves m ih =>
    rw [List.foldl_append]
    exact ih.move m

end Ledger

/-! ## Every course of actions -/

namespace Registry

/-- The registry after a course of actions from the empty one on, and everything that was sent. -/
def course (actions : List Action) : Registry × List Notification :=
  actions.foldl (fun (r, sent) a => ((r.act a).1, sent ++ (r.act a).2)) (Registry.empty, [])

/-- What was sent in the course of actions is what each of them sent, in order. -/
theorem course_snoc (actions : List Action) (a : Action) :
    course (actions ++ [a]) =
      (((course actions).1.act a).1, (course actions).2 ++ ((course actions).1.act a).2) := by
  rw [course, List.foldl_append]
  rfl

/-- Seen from a key, a course of actions is a course of moves. -/
theorem course_under (key : ServiceKey) (actions : List Action) :
    (⟨(course actions).1.peers key,
        (course actions).2.filter (fun n => n.message.key = key)⟩ : Ledger) =
      (actions.map (Action.under key)).foldl (Ledger.move key) ⟨[], []⟩ := by
  induction actions using List.reverseRecOn with
  | nil => rfl
  | append_singleton actions a ih =>
    calc (⟨(course (actions ++ [a])).1.peers key,
            (course (actions ++ [a])).2.filter (fun n => n.message.key = key)⟩ : Ledger)
      _ = Ledger.move key ⟨(course actions).1.peers key,
            (course actions).2.filter (fun n => n.message.key = key)⟩ (a.under key) := by
          simp only [course_snoc, List.filter_append, peers_act, sent_act, Ledger.move]
      _ = ((actions ++ [a]).map (Action.under key)).foldl (Ledger.move key) ⟨[], []⟩ := by
          rw [ih, List.map_append, List.foldl_append]
          rfl

theorem filter_tells (key : ServiceKey) (owner about : Endpoint) (sent : List Notification) :
    (sent.filter (fun n => n.message.key = key)).filter (·.tells key owner about) =
      sent.filter (·.tells key owner about) := by
  rw [List.filter_filter]
  apply List.filter_congr
  intro n _
  by_cases hKey : n.message.key = key <;> simp [Notification.tells, hKey]

variable {key : ServiceKey} {a b : Participant}

/-- Whatever happened, of any two participants under a key the first was told about the second, and
the last that it was told is the current entry. A participant that keeps the latest about each
endpoint therefore knows everyone else. -/
theorem everyone_acquainted (actions : List Action) :
    a ∈ (course actions).1.peers key → b ∈ (course actions).1.peers key →
      a.endpoint.key ≠ b.endpoint.key →
        ((course actions).2.filter (·.tells key a.endpoint b.endpoint)).getLast? =
            some ⟨a.endpoint, ⟨.peer, key, b⟩⟩ ∧
          Notebook.of key a.endpoint (course actions).2 b.endpoint.key = some b := by
  intro ha hb hOther
  -- Seen from one key, the course is a sequence of moves, and moves keep everyone acquainted.
  have hAcquainted : Ledger.Acquainted key ⟨(course actions).1.peers key,
      (course actions).2.filter (fun n => n.message.key = key)⟩ := by
    rw [course_under]
    exact Ledger.acquainted_foldl _
  have hLast : ((course actions).2.filter (·.tells key a.endpoint b.endpoint)).getLast? =
      some ⟨a.endpoint, ⟨.peer, key, b⟩⟩ := by
    rw [← filter_tells]
    exact hAcquainted.told a ha b hb hOther
  refine ⟨hLast, ?_⟩
  rw [Notebook.of_eq_getLast?, hLast]
  rfl

open Listing.Sample

namespace Sample

/-- Ann comes, goes and comes back while Bob registers and registers again. -/
def actions : List Action :=
  [.register meeting ann, .handle ⟨.register, meeting, bob⟩, .evict ann.endpoint,
    .register meeting ann, .register meeting bobAgain]

theorem peers_actions : (course actions).1.peers meeting = [bobAgain, ann] := by
  rfl

end Sample

/-- Ann knows the ring that Bob offers since he registered again. -/
theorem everyone_acquainted_rejoined :
    bobAgain ∈ (course Sample.actions).1.peers meeting ∧
      ((course Sample.actions).2.filter
          (·.tells meeting ann.endpoint bobAgain.endpoint)).getLast? =
        some ⟨ann.endpoint, ⟨.peer, meeting, bobAgain⟩⟩ := by
  have hAnn : ann ∈ (course Sample.actions).1.peers meeting := by
    rw [Sample.peers_actions]
    exact .tail _ (.head _)
  have hBob : bobAgain ∈ (course Sample.actions).1.peers meeting := by
    rw [Sample.peers_actions]
    exact .head _
  exact ⟨hBob, (everyone_acquainted Sample.actions hAnn hBob (by decide)).1⟩

end Registry

end RingBus
