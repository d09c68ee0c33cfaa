import VantageNet.Interaction.LockOrder
import VantageNet.Discovery.Calls

/-!
The order in which the calls of the service take its locks. All of them but one go upwards
from `sessions` over `session_last_updated` and `daemon_sessions` to
`daemon_pull_cancellations`; `get_sessions_for_daemon` takes `sessions` under
`daemon_sessions`.
-/

namespace VantageNet

open Interaction Interaction.Program

def lockAction : ServiceOp → LockAction Lock
  | .acquire lock access => .acquire lock (access = .write)
  | .release lock => .release lock
  | _ => .none

abbrev CallThread := Thread serviceSig Error Lock Call

def Lock.rank : Lock → ℕ
  | .sessions => 0
  | .sessionLastUpdated => 1
  | .daemonSessions => 2
  | .daemonPullCancellations => 3
  | .scheduler => 4

def heldAfter (held : List Lock) : ServiceOp → List Lock
  | .acquire lock _ => lock :: held
  | .release lock => held.filter (fun l => l ≠ lock)
  | _ => held

/-- `lock` is above all locks held, and `daemon_sessions` is taken over nothing or over `sessions`. -/
def Lock.climbs (held : List Lock) (lock : Lock) : Prop :=
  (∀ l ∈ held, l.rank < lock.rank) ∧ (lock = .daemonSessions → held = [] ∨ .sessions ∈ held)

instance (held : List Lock) (lock : Lock) : Decidable (lock.climbs held) :=
  inferInstanceAs (Decidable ((∀ l ∈ held, l.rank < lock.rank) ∧
    (lock = .daemonSessions → held = [] ∨ .sessions ∈ held)))

def Lock.lists (held : List Lock) (lock : Lock) : Prop :=
  lock = .daemonSessions ∧ held = [] ∨ lock = .sessions ∧ held = [.daemonSessions]

instance (held : List Lock) (lock : Lock) : Decidable (lock.lists held) :=
  inferInstanceAs (Decidable (lock = .daemonSessions ∧ held = [] ∨ lock = .sessions ∧ held = [.daemonSessions]))

def lockMonitor (allowed : List Lock → Lock → Prop) : Monitor serviceSig (List Lock) where
  ok held
    | .acquire lock _ => allowed held lock
    | _ => True
  may _ _ := True
  next held i _ := heldAfter held i

section rules

variable {allowed : List Lock → Lock → Prop} {α : Type} {post : α → List Lock → Prop} {held : List Lock}

theorem follows_acquire {lock : Lock} {access : Access} {k : Unit → Service α} (h : allowed held lock)
    (hk : Follows (lockMonitor allowed) post (lock :: held) (k ())) :
    Follows (lockMonitor allowed) post held (.op (ServiceOp.acquire lock access) k) := ⟨h, fun _ _ => hk⟩

theorem follows_release {lock : Lock} {k : Unit → Service α}
    (hk : Follows (lockMonitor allowed) post (held.filter (fun l => l ≠ lock)) (k ())) :
    Follows (lockMonitor allowed) post held (.op (ServiceOp.release lock) k) := ⟨trivial, fun _ _ => hk⟩

theorem follows_free {i : ServiceOp} {k : i.Reply → Service α} (hi : lockAction i = .none)
    (hk : ∀ r, Follows (lockMonitor allowed) post held (k r)) :
    Follows (lockMonitor allowed) post held (.op i k) := by
  have hstay : (lockMonitor allowed).ok held i ∧ heldAfter held i = held := by
    cases i <;> first | exact ⟨trivial, rfl⟩ | cases hi
  refine ⟨hstay.1, fun r _ => ?_⟩
  change Follows (lockMonitor allowed) post (heldAfter held i) (k r)
  rw [hstay.2]
  exact hk r

end rules

abbrev Upward {α : Type} (held : List Lock) (p : Service α) (after : List Lock) : Prop :=
  Follows (lockMonitor (fun held lock => lock.climbs held)) (fun _ b => b = after) held p

theorem sendDiscoveryRequest_upward (held : List Lock) (d : Uuid) (request : DaemonDiscoveryRequest) :
    Upward held (sendDiscoveryRequest d request) held := by
  simp only [sendDiscoveryRequest, bind_eq, op_bind, ret_bind]
  apply follows_free rfl
  intro found
  apply Follows.orFail_bind
  rintro (_ | daemon) -
  · trivial
  apply follows_free rfl
  intro sent
  apply Follows.orFail_bind
  intro _ _
  apply follows_free rfl
  rintro (e | ⟨⟩)
  · trivial
  · rfl

theorem startSession_upward (discovery : Discovery) : Upward [] (startSession discovery) [] := by
  simp only [startSession, bind_eq, pure_eq, op_bind, ret_bind]
  apply follows_free rfl
  intro sessionId
  apply follows_acquire (by decide)
  apply follows_free rfl
  intro _
  apply follows_release
  apply follows_acquire (by decide)
  apply follows_free rfl
  intro queue
  apply follows_release
  apply follows_acquire (by decide)
  apply follows_free rfl
  intro _
  apply follows_release
  apply follows_free rfl
  intro found
  apply Follows.orFail_bind
  intro daemon _
  apply Follows.seq (.when _ (sendDiscoveryRequest_upward [] _ _))
  intro _
  apply follows_free rfl
  intro _
  rfl

theorem pullCancellationForDaemon_upward {held : List Lock} (d : Uuid)
    (h : Lock.daemonPullCancellations.climbs held)
    (hout : (Lock.daemonPullCancellations :: held).filter (fun l => l ≠ .daemonPullCancellations) = held) :
    Upward held (pullCancellationForDaemon d) held := by
  simp only [pullCancellationForDaemon, bind_eq, pure_eq, op_bind, ret_bind]
  apply follows_acquire h
  apply follows_free rfl
  intro entry
  apply follows_release
  exact hout

theorem saveHistorical_upward (session : DiscoveryUpdatePayload) :
    Upward [.sessionLastUpdated, .sessions] (saveHistorical session) [.sessionLastUpdated, .sessions] := by
  simp only [saveHistorical, bind_eq, pure_eq, op_bind, ret_bind]
  apply follows_free rfl
  intro id
  apply follows_free rfl
  intro createdAt
  apply follows_free rfl
  intro updatedAt
  apply Follows.seq (pullCancellationForDaemon_upward _ (by decide) rfl)
  intro _
  apply follows_free rfl
  rintro (e | ⟨⟩)
  · rfl
  apply follows_free rfl
  rintro (e | ⟨⟩)
  · trivial
  · rfl

theorem takeNext_upward (held : List Lock) (queue : Option (List Uuid)) : Upward held (takeNext queue) held := by
  unfold takeNext
  cases queue.bind List.head? with
  | none => rfl
  | some nextSessionId =>
    apply follows_free rfl
    rintro (_ | nextSession)
    · rfl
    apply follows_free rfl
    intro _
    rfl

theorem leaveQueue_upward (session : DiscoveryUpdatePayload) :
    Upward [.sessionLastUpdated, .sessions] (leaveQueue session) [.sessionLastUpdated] := by
  simp only [leaveQueue, bind_eq, pure_eq, op_bind, ret_bind]
  apply follows_acquire (by decide)
  apply follows_free rfl
  intro queue
  apply Follows.seq (takeNext_upward _ queue)
  intro request
  apply follows_release
  apply follows_free rfl
  intro _
  apply follows_release
  rfl

theorem dispatchNext_upward (held : List Lock) (d : Uuid) (next : Option DaemonDiscoveryRequest) :
    Upward held (dispatchNext d next) held := by
  simp only [dispatchNext, bind_eq, pure_eq, op_bind, ret_bind]
  apply follows_free rfl
  intro found
  apply Follows.orFail_bind
  intro daemon _
  cases next with
  | none => rfl
  | some request => exact .when _ (sendDiscoveryRequest_upward held d request)

theorem finishSession_upward (session : DiscoveryUpdatePayload) (d : Uuid) :
    Upward [.sessionLastUpdated, .sessions] (finishSession session d) [.sessionLastUpdated] := by
  apply Follows.seq (saveHistorical_upward session)
  intro _
  apply Follows.bind
  apply (leaveQueue_upward session).imp
  rintro next _ rfl
  exact dispatchNext_upward _ d next

theorem autoCreate_upward (update : DiscoveryUpdatePayload) :
    Upward [.sessionLastUpdated, .sessions] (autoCreate update) [.sessionLastUpdated, .sessions] := by
  simp only [autoCreate, bind_eq, op_bind, ret_bind]
  apply follows_acquire (by decide)
  apply follows_free rfl
  intro _
  apply follows_release
  apply follows_free rfl
  intro _
  rfl

abbrev Climbs {α : Type} (p : Service α) : Prop :=
  Follows (lockMonitor (fun held lock => lock.climbs held)) (fun _ _ => True) [] p

theorem updateSession_climbs (update : DiscoveryUpdatePayload) : Climbs (updateSession update) := by
  simp only [updateSession, bind_eq, op_bind, ret_bind]
  apply follows_acquire (by decide)
  apply follows_acquire (by decide)
  apply follows_free rfl
  intro now
  apply follows_free rfl
  intro _
  apply follows_free rfl
  intro entry
  apply Follows.seq (.when _ (autoCreate_upward update))
  intro _
  apply follows_free rfl
  intro _
  apply follows_free rfl
  intro _
  cases update.phase.isTerminal with
  | false => trivial
  | true => exact (finishSession_upward update _).imp (fun _ _ _ => trivial)

theorem cancelPending_climbs (session : DiscoveryUpdatePayload) (s : Uuid) : Climbs (cancelPending session s) := by
  simp only [cancelPending, bind_eq, op_bind, ret_bind]
  apply follows_acquire (by decide)
  apply follows_acquire (by decide)
  apply follows_free rfl
  intro _
  apply follows_free rfl
  intro _
  apply follows_release
  apply follows_release
  apply follows_free rfl
  intro now
  apply follows_free rfl
  intro _
  trivial

theorem cancelUnreachable_climbs (found : DiscoveryUpdatePayload) (s : Uuid) :
    Climbs (cancelUnreachable found s) := by
  simp only [cancelUnreachable, bind_eq, pure_eq, op_bind, ret_bind]
  apply follows_acquire (by decide)
  apply follows_acquire (by decide)
  apply follows_free rfl
  rintro (_ | session)
  · trivial
  apply follows_free rfl
  intro _
  apply follows_free rfl
  intro finishedAt
  apply follows_free rfl
  intro _
  apply follows_free rfl
  intro id
  apply follows_free rfl
  intro createdAt
  apply follows_free rfl
  intro updatedAt
  apply follows_free rfl
  intro _
  trivial

theorem sendDiscoveryCancellation_upward (held : List Lock) (daemon : Daemon) (s : Uuid) :
    Upward held (sendDiscoveryCancellation daemon s).attempt held := by
  simp only [sendDiscoveryCancellation, bind_eq, op_bind, ret_bind, attempt_op]
  apply follows_free rfl
  rintro (e | ⟨⟩)
  · rfl
  apply follows_free rfl
  rintro (e | ⟨⟩)
  · rfl
  · rfl

theorem cancelActive_climbs (session : DiscoveryUpdatePayload) (s : Uuid) : Climbs (cancelActive session s) := by
  simp only [cancelActive, bind_eq, pure_eq, op_bind, ret_bind]
  apply follows_free rfl
  intro found
  apply Follows.orFail_bind
  rintro (_ | daemon) -
  · trivial
  dsimp only
  cases daemon.mode with
  | push =>
    apply Follows.bind
    apply (sendDiscoveryCancellation_upward [] daemon s).imp
    rintro (e | ⟨⟩) _ rfl
    · exact cancelUnreachable_climbs session s
    · trivial
  | pull =>
    apply follows_acquire (by decide)
    apply follows_free rfl
    intro _
    trivial

theorem cancelSession_climbs (s : Uuid) : Climbs (cancelSession s) := by
  simp only [cancelSession, getSession, bind_eq, pure_eq, op_bind, ret_bind]
  apply follows_acquire (by decide)
  apply follows_free rfl
  intro found
  apply follows_release
  rcases found with _ | session
  · trivial
  dsimp only
  cases session.phase with
  | pending => exact cancelPending_climbs session s
  | started => exact cancelActive_climbs session s
  | scanning => exact cancelActive_climbs session s
  | starting => trivial
  | complete => trivial
  | failed => trivial
  | cancelled => trivial

theorem removeOld_upward (held : List Lock) (s : Uuid) : Upward held (removeOld s) held := by
  simp only [removeOld, bind_eq, pure_eq, op_bind, ret_bind]
  apply follows_free rfl
  rintro (_ | session)
  · rfl
  apply follows_free rfl
  intro _
  apply follows_free rfl
  intro _
  rfl

theorem cleanupOldSessions_climbs (maxAgeHours : ℤ) : Climbs (cleanupOldSessions maxAgeHours) := by
  simp only [cleanupOldSessions, bind_eq, op_bind, ret_bind]
  apply follows_free rfl
  intro now
  apply follows_acquire (by decide)
  apply follows_acquire (by decide)
  apply follows_acquire (by decide)
  apply follows_free rfl
  intro entries
  exact (Follows.forEach (removeOld_upward _) _).imp (fun _ _ _ => trivial)

theorem stalledSessions_upward (held : List Lock) (now : Instant) (entries : List (Uuid × DiscoveryUpdatePayload)) :
    Upward held (stalledSessions now entries) held := by
  induction entries with
  | nil => rfl
  | cons e rest ih =>
    rcases e with ⟨s, session⟩
    simp only [stalledSessions, bind_eq, pure_eq, op_bind, ret_bind]
    split_ifs
    · exact ih
    · apply follows_free rfl
      intro lastUpdate
      apply Follows.seq ih
      intro found
      rfl

theorem removeStalled_upward (held : List Lock) (now : Instant) (s : Uuid) :
    Upward held (removeStalled now s) held := by
  simp only [removeStalled, bind_eq, pure_eq, op_bind, ret_bind]
  apply follows_free rfl
  rintro (_ | found)
  · rfl
  apply follows_free rfl
  intro _
  apply follows_free rfl
  intro _
  apply follows_free rfl
  intro _
  apply follows_free rfl
  intro entry
  apply Follows.seq
  · apply Follows.when
    apply follows_free rfl
    intro _
    rfl
  intro _
  apply follows_free rfl
  intro id
  apply follows_free rfl
  intro _
  rfl

theorem cleanupStalledSessions_climbs : Climbs cleanupStalledSessions := by
  simp only [cleanupStalledSessions, bind_eq, op_bind, ret_bind]
  apply follows_free rfl
  intro now
  apply follows_acquire (by decide)
  apply follows_acquire (by decide)
  apply follows_acquire (by decide)
  apply follows_acquire (by decide)
  apply follows_free rfl
  intro entries
  apply Follows.seq (stalledSessions_upward _ now entries)
  intro stalled
  exact (Follows.forEach (removeStalled_upward _ now) _).imp (fun _ _ _ => trivial)

def Call.isListing : Call → Bool
  | .getSessionsForDaemon _ => true
  | _ => false

def Call.takes (c : Call) (held : List Lock) (lock : Lock) : Prop :=
  if c.isListing then lock.lists held else lock.climbs held

theorem program_follows (c : Call) : Follows (lockMonitor c.takes) (fun _ _ => True) [] c.program := by
  cases c with
  | startSession discovery =>
    apply Follows.seq (startSession_upward discovery)
    intro _
    trivial
  | updateSession update => exact updateSession_climbs update
  | cancelSession s => exact cancelSession_climbs s
  | cleanupOldSessions maxAgeHours => exact cleanupOldSessions_climbs maxAgeHours
  | cleanupStalledSessions => exact cleanupStalledSessions_climbs
  | getSessionsForDaemon d =>
    simp only [Call.program, getSessionsForDaemon, bind_eq, pure_eq, op_bind, ret_bind]
    apply follows_acquire (.inl ⟨rfl, rfl⟩)
    apply follows_free rfl
    intro queue
    apply follows_acquire (.inr ⟨rfl, rfl⟩)
    apply follows_free rfl
    intro allSessions
    apply follows_release
    apply follows_release
    trivial
  | pullCancellationForDaemon d =>
    apply Follows.seq (pullCancellationForDaemon_upward d (by decide) rfl)
    intro _
    trivial

end VantageNet
