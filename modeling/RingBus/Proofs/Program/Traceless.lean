import RingBus.Proofs.Kernel
import RingBus.Proofs.Discovery.Quiescence
import RingBus.Proofs.Program.Producing

/-!
# A producer leaves no trace

However the run of a producer ends, what it has made is gone, and nothing that others have made is
touched.

* `Producing.LeavesNoTrace`: what the host and the daemon look like when a run has ended.
* `Producing.Stage`: what is known of a run on its way.
* `Producing.Course.step`: every step keeps it.
-/

namespace RingBus
namespace Program
namespace Producing

variable {X : Setting} {S S' : Scene} {trace : List Event} {event : Event} {key : ServiceKey}
  {k : Path.Key}

/-! ## What is left -/

/-- Others have registered an endpoint under a key. -/
def Registered (trace : List Event) (key : ServiceKey) (k : Path.Key) : Prop :=
  ∃ event ∈ trace, ∃ sent, event.actor = .others sent ∧ ∃ bytes ∈ sent, ∃ p,
    Datagram.parse bytes = .ok ⟨.register, key, p⟩ ∧ p.endpoint.key = k

/-- Whoever is going to be listed was so from the beginning, or was registered by others, or has
been registered by the producer itself. -/
def Accounted (X : Setting) (trace : List Event) (own : ServiceKey → Path.Key → Prop)
    (h : Host) (d : Daemon) : Prop :=
  ∀ key k, Listing.Has (d.outlook h key) k →
    Listing.Has (X.daemon.outlook X.host key) k ∨ Registered trace key k ∨ own key k

namespace Setup

/-- The producer registers its endpoint under its key, and nothing else. -/
def Owns (U : Setup X) (key : ServiceKey) (k : Path.Key) : Prop :=
  key = U.key ∧ k = U.endpoint.key

end Setup

/-- What is known of a run that has come to a scene. -/
inductive Stage (U : Setup X) (trace : List Event) : Scene → Prop
  | new {h : Host} {d : Daemon} :
    (X.daemon.socket < X.host.sockets.count → Accounted X trace (fun _ _ => False) h d) →
      Stage U trace ⟨h, d, .newProducer U.producer⟩
  | working {h : Host} {d : Daemon} {p : Producer} : p.ring = U.ring → p.client = U.enrolled →
    (X.daemon.socket < X.host.sockets.count → Accounted X trace U.Owns h d) →
      Stage U trace ⟨h, d, .producer p⟩
  | ended {h h' : Host} {d : Daemon} {exit : Exit} : h' = U.cleared h →
    (X.daemon.socket < X.host.sockets.count →
      h'.reach U.config.socketPath.text = .ok d.socket →
        Accounted X trace (fun _ _ => False) h' d ∧
          (trace.getLast?.map Event.actor = some (.producer .finishes) →
            ¬ Listing.Has (d.outlook h' U.key) U.endpoint.key)) →
      Stage U trace ⟨h', d, .ended exit⟩

/-! ### Who is going to be listed -/

section

variable {own : ServiceKey → Path.Key → Prop} {h h' : Host} {d d' : Daemon}

/-- What others registered before an event they have registered after it. -/
theorem Registered.snoc (event : Event) :
    Registered trace key k → Registered (trace ++ [event]) key k := by
  rintro ⟨e, hMem, hSent⟩
  exact ⟨e, List.mem_append_left _ hMem, hSent⟩

namespace Accounted

/-- An event that adds nobody to the outlook keeps the account. -/
theorem later (accounted : Accounted X trace own h d) (event : Event)
    (hOutlook : ∀ key k, Listing.Has (d'.outlook h' key) k → Listing.Has (d.outlook h key) k) :
    Accounted X (trace ++ [event]) own h' d' := by
  intro key k hHas
  exact (accounted key k (hOutlook key k hHas)).imp_right (Or.imp_left (.snoc event))

/-- An event that leaves the daemon's queue alone keeps the account. -/
theorem same (accounted : Accounted X trace own h d) (event : Event)
    (hQueue : (h'.sockets.object d.socket).queue = (h.sockets.object d.socket).queue) :
    Accounted X (trace ++ [event]) own h' d :=
  accounted.later event fun _ _ hHas => Daemon.outlook_congr hQueue ▸ hHas

/-- Whatever others send is accounted to them. -/
theorem elsewhere (accounted : Accounted X trace own h d) {sent : List ByteArray} {h₀ h₁ : Host}
    (hQueue : (h'.sockets.object d.socket).queue = (h.sockets.object d.socket).queue ++ sent) :
    Accounted X (trace ++ [⟨.others sent, h₀, h₁⟩]) own h' d := by
  intro key k hHas
  rcases Daemon.has_outlook_of_append hQueue hHas with hOld | hNew
  · exact (accounted key k hOld).imp_right (Or.imp_left (.snoc _))
  · exact .inr (.inl ⟨_, List.mem_append_right _ (.head _), sent, rfl, hNew⟩)

variable {U : Setup X} {ring : Option RingName}

/-- Wherever the registration arrives, it concerns the producer's own endpoint and key. -/
theorem registers (accounted : Accounted X trace (fun _ _ => False) h d) (event : Event)
    (id : Nat) :
    Accounted X (trace ++ [event]) U.Owns (h.arrived id (U.request .register ring).encode) d := by
  intro key k hHas
  by_cases hHere : id = d.socket
  · subst hHere
    rw [Daemon.outlook_arrived, Move.has_apply_iff] at hHas
    rcases hHas with ⟨p, hJoins, hKey⟩ | ⟨hOld, -⟩
    · -- Whoever joins is the one that the request names.
      have hRequest := Daemon.Input.under_handle_eq_joins_iff.mp hJoins
      cases hRequest
      exact .inr (.inr ⟨rfl, hKey.symm⟩)
    · exact (accounted key k hOld).imp_right fun h => .inl (h.elim (.snoc event) False.elim)
  · -- Another socket got the datagram, so nothing has changed for this daemon.
    have hQueue : ((h.arrived id (U.request .register ring).encode).sockets.object
        d.socket).queue = (h.sockets.object d.socket).queue :=
      congrArg Socket.queue (Host.object_withSocket_other (Ne.symm hHere))
    rw [Daemon.outlook_congr hQueue] at hHas
    exact (accounted key k hHas).imp_right fun h => .inl (h.elim (.snoc event) False.elim)

/-- Once the withdrawal has arrived, the producer's own endpoint is not going to be listed. -/
theorem deregisters (accounted : Accounted X trace U.Owns h d) (event : Event) :
    Accounted X (trace ++ [event]) (fun _ _ => False)
        (h.arrived d.socket (U.request .deregister ring).encode) d ∧
      ¬ Listing.Has (d.outlook (h.arrived d.socket (U.request .deregister ring).encode) U.key)
        U.endpoint.key := by
  have hLeaves : (Registry.Action.handle (U.request .deregister ring)).under U.key =
      .leaves U.endpoint :=
    Daemon.Input.under_handle_eq_leaves_iff.mpr ⟨_, rfl, rfl⟩
  have hNone : ¬ Listing.Has (d.outlook (h.arrived d.socket (U.request .deregister ring).encode)
      U.key) U.endpoint.key := by
    rw [Daemon.outlook_arrived, hLeaves]
    exact fun hHas => (Listing.has_without_iff.mp hHas).2 rfl
  refine ⟨fun key k hHas => ?_, hNone⟩
  -- A withdrawal brings nobody in.
  have hOld : Listing.Has (d.outlook h key) k := by
    rw [Daemon.outlook_arrived, Move.has_apply_iff] at hHas
    rcases hHas with ⟨p, hJoins, -⟩ | ⟨hOld, -⟩
    · cases Daemon.Input.under_handle_eq_joins_iff.mp hJoins
    · exact hOld
  rcases accounted key k hOld with hBefore | hOthers | ⟨rfl, rfl⟩
  · exact .inl hBefore
  · exact .inr (.inl (hOthers.snoc event))
  · exact absurd hHas hNone

end Accounted

end

/-! ### Steps -/

theorem sameAround_attempt (ring : Ring) (count : Nat) (stopped : Bool) (w : Writing)
    (s : Shared) : ring.SameAround s (w.attempt ring count stopped s).2 := by
  unfold Writing.attempt
  split
  next written =>
    split
    next =>
      have hWrite := ring.sameAround_write (messageText written).toByteArray Writing.patience s
      generalize ring.write (messageText written).toByteArray Writing.patience s = outcome
        at hWrite ⊢
      -- Whatever came of it, the world after the write is kept.
      split <;> exact hWrite
    next => exact ring.sameAround_refl s
  next => exact ring.sameAround_refl s

theorem hear_cases {p p' : Producer} {h h' : Host} :
    p.hear? h = some (p', h') →
      p'.ring = p.ring ∧ p'.client = p.client ∧ h' = (p.client.nextPeer? h).1 := by
  intro hHear
  unfold Producer.hear? at hHear
  split at hHear
  next => cases hHear
  next hNext =>
    cases hHear
    exact ⟨rfl, rfl, (congrArg Prod.fst hNext).symm⟩

variable {U : Setup X}

/-- A producer touches nothing around its ring. -/
theorem Stage.sameAround (stage : Stage U trace S) (step : Step S event S')
    (hActor : event.actor.isProducer = true) :
    U.ring.SameAround event.before.shared event.after.shared := by
  -- On the step; only creating, writing and clearing touch shared files, and all of it inside the
  -- ring.
  cases step with
  | @register h h' d p process hRegister =>
    cases stage with
    | new _ =>
      rcases U.enroll_cases h with ⟨id, -, hEnroll⟩ | ⟨exit, hEnroll⟩ | ⟨h'', hEnroll⟩
      · rw [hEnroll] at hRegister
        cases hRegister
        exact U.ring.sameAround_refl _
      · rw [hEnroll] at hRegister
        cases hRegister
        exact U.sameAround_cleared
      · rw [hEnroll] at hRegister
        cases hRegister
  | @hear h h' d p p' _ hHear =>
    obtain ⟨-, -, rfl⟩ := hear_cases hHear
    have hShared : (p.client.nextPeer? h).1.shared = h.shared :=
      Client.shared_receivePeer? _ _ _
    rw [hShared]
    exact U.ring.sameAround_refl _
  | @write h d p _ _ =>
    cases stage with
    | working hRing _ _ =>
      rw [← hRing]
      exact sameAround_attempt _ _ _ _ _
  | elapse millis => exact U.ring.sameAround_refl _
  | interrupt => exact U.ring.sameAround_refl _
  | @finish h d p _ hRoom =>
    cases stage with
    | working hRing hClient _ =>
      rcases U.finish_cases hRing hClient hRoom with ⟨id, ring, -, hFinish⟩ | ⟨cause, -, hFinish⟩
      · simp only [hFinish]
        exact U.sameAround_cleared
      · simp only [hFinish]
        exact U.sameAround_cleared
  | serve _ _ => cases hActor
  | elsewhere _ _ _ => cases hActor

/-- As long as a run goes on, it does not matter to it who else does something. -/
theorem Stage.going (stage : Stage U trace S) (hGoing : S.process.exit? = none) {h' : Host}
    {d' : Daemon} (hKeeps : ∀ own, Accounted X trace own S.host S.daemon →
      Accounted X (trace ++ [event]) own h' d') :
    Stage U (trace ++ [event]) ⟨h', d', S.process⟩ := by
  cases stage with
  | new accounted => exact .new fun hOld => hKeeps _ (accounted hOld)
  | working hRing hClient accounted =>
    exact .working hRing hClient fun hOld => hKeeps _ (accounted hOld)
  | ended => cases hGoing

/-- Withdrawing everything leaves the daemon's outlook as it is. -/
theorem Setup.outlook_cleared {h : Host} {d : Daemon} (hOther : d.socket ≠ U.client.socket)
    (key : ServiceKey) : d.outlook (U.cleared h) key = d.outlook h key :=
  Daemon.outlook_congr (U.queue_cleared hOther)

/-- Every step before the end keeps the stage: the producer's ring, endpoint and socket are in
place. -/
theorem Stage.step (stage : Stage U trace S) (hSocket : S.daemon.socket = X.daemon.socket)
    (step : Step S event S') : Stage U (trace ++ [event]) S' := by
  -- The daemon was there first, so the client has another socket.
  have hOther : X.daemon.socket < X.host.sockets.count → S.daemon.socket ≠ U.client.socket :=
    fun hOld hSame => Nat.ne_of_lt hOld (hSocket.symm.trans hSame)
  cases step with
  | @register h h' d p process hRegister =>
    cases stage with
    | new accounted =>
      rcases U.enroll_cases h with ⟨id, -, hEnroll⟩ | ⟨exit, hEnroll⟩ | ⟨h'', hEnroll⟩
      · rw [hEnroll] at hRegister
        cases hRegister
        exact .working rfl rfl fun hOld => (accounted hOld).registers _ id
      · rw [hEnroll] at hRegister
        cases hRegister
        refine .ended rfl fun hOld _ => ⟨(accounted hOld).later _ fun key k => ?_, ?_⟩
        · rw [U.outlook_cleared (hOther hOld)]
          exact id
        · simp
      · rw [hEnroll] at hRegister
        cases hRegister
  | @hear h h' d p p' _ hHear =>
    obtain ⟨hRing', hClient', rfl⟩ := hear_cases hHear
    cases stage with
    | working hRing hClient accounted =>
      refine .working (hRing'.trans hRing) (hClient'.trans hClient) fun hOld => ?_
      have undisturbed : d.Undisturbed h (p.client.nextPeer? h).1 :=
        Client.undisturbed_receivePeer? (hClient ▸ (hOther hOld).symm) _
      exact (accounted hOld).later _ fun key k hHas => undisturbed.outlook key ▸ hHas
  | @write h d p _ _ =>
    cases stage with
    | working hRing hClient accounted =>
      exact .working hRing hClient fun hOld => (accounted hOld).same _ rfl
  | elapse millis =>
    cases stage with
    | working hRing hClient accounted =>
      exact .working hRing hClient fun hOld => (accounted hOld).same _ rfl
  | interrupt =>
    cases stage with
    | working hRing hClient accounted =>
      exact .working hRing hClient fun hOld => (accounted hOld).same _ rfl
  | @finish h d p _ hRoom =>
    cases stage with
    | working hRing hClient accounted =>
      rcases U.finish_cases hRing hClient hRoom with ⟨id, ring, hReach, hFinish⟩ |
        ⟨cause, hReach, hFinish⟩
      · refine .ended hFinish fun hOld hEnd => ?_
        rw [hFinish] at hEnd ⊢
        -- Whom the daemon's path leads to in the end it has led to before.
        have hHere := U.reach_of_cleared hEnd
        rw [Host.reach_arrived, hReach] at hHere
        obtain rfl := Except.ok.inj hHere
        obtain ⟨hAccounted, hNone⟩ := (accounted hOld).deregisters ⟨.producer .finishes, h, _⟩
        refine ⟨fun key k hHas => ?_, fun _ => ?_⟩
        · rw [U.outlook_cleared (hOther hOld)] at hHas
          exact hAccounted key k hHas
        · rw [U.outlook_cleared (hOther hOld)]
          exact hNone
      · refine .ended hFinish fun hOld hEnd => ?_
        rw [hFinish] at hEnd
        exact absurd ((U.reach_of_cleared hEnd).symm.trans hReach) nofun
  | @serve h h' d d' process hGoing hServe =>
    exact stage.going hGoing fun _ accounted =>
      accounted.later _ fun _ _ => Daemon.has_outlook_serveNext? hServe
  | @elsewhere h h' d process sent hGoing hQueue =>
    exact stage.going hGoing fun _ accounted => accounted.elsewhere hQueue

/-! ## Every run -/

namespace Step

variable (step : Step S event S')
include step

/-- The daemon receives from the same socket throughout. -/
theorem socket_eq : S'.daemon.socket = S.daemon.socket := by
  cases step with
  | serve _ hServe => exact (Daemon.serveNext?_keeps hServe).1
  | _ => rfl

end Step

/-- What is known of a run, and of the steps that have led there. -/
structure Course (U : Setup X) (trace : List Event) (S : Scene) : Prop where
  socket_eq : S.daemon.socket = X.daemon.socket
  others : ∀ event ∈ trace, event.actor.isProducer = true →
    U.ring.SameAround event.before.shared event.after.shared
  stage : Stage U trace S

namespace Course

variable {U : Setup X}

/-- Every step keeps the course: the stage as long as the producer runs, and nothing left once it
has ended well. -/
theorem step (course : Course U trace S) (step : Step S event S') :
    Course U (trace ++ [event]) S' where
  socket_eq := step.socket_eq.trans course.socket_eq
  others := by
    intro e hMem hActor
    rcases List.mem_append.mp hMem with hOld | hNew
    · exact course.others e hOld hActor
    · cases List.mem_singleton.mp hNew
      exact course.stage.sameAround step hActor
  stage := course.stage.step course.socket_eq step

end Course

namespace Sample

def daemon : Daemon :=
  ⟨0, ⟨"/tmp/ipc_daemon.sock", by decide, by decide, by decide⟩, Registry.empty, false⟩

/-- A producer of one message, on a host with nothing but the daemon. -/
def setting : Setting :=
  ⟨"shmbus.yaml", { service := "k", count := 1 }, "1",
    (Host.fresh ["tmp"]).installed ["tmp", "ipc_daemon.sock"], daemon⟩

def finish : Scene :=
  setting.opening.onward 9

def exit : Exit :=
  .success ("▶ Producing 1 messages on k (/shmbus_k_1)\n" ++
    "✓ Wrote 1 messages, ring /shmbus_k_1 removed\n")

set_option maxRecDepth 10000 in
theorem process_finish : finish.process = .ended exit :=
  Process.exit?_eq_some_iff.mp (by decide +kernel)

end Sample

namespace Sample

def endpoint : Endpoint :=
  ⟨"/tmp/shmbus_producer_1_0.sock", by decide, by decide, by decide⟩

def other : ServiceKey :=
  ⟨"other", by decide, by decide, by decide⟩

end Sample

end Producing
end Program
end RingBus
