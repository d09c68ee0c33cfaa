import VantageNet.Interaction.Pool
import VantageNet.Discovery.Calls

/-!
When the calls of the service send a discovery request: `start_session` for the session it
has put into the queue, `update_session` for the session that is first in the queue once
the finished one has left it, and nobody else.
-/

namespace VantageNet

open Interaction Interaction.Program

/-- What a call counts on when it reads a session: it is stored under its own id, and the one that a
terminal update is about belongs to the daemon the update names. -/
def Call.expects (c : Call) : (i : ServiceOp) → i.Reply → Prop
  | .sessionsGet s, (found : Option DiscoveryUpdatePayload) => ∀ p, found = some p → p.sessionId = s ∧
      ∀ u, c = .updateSession u → u.phase.isTerminal = true → u.sessionId = s → p.daemonId = u.daemonId
  | _, _ => True

/-- Stands at the daemon and the session the call may send next: the one it has pushed last, or the
head of the queue it has taken a session from last. -/
def dispatchMonitor (c : Call) : Monitor serviceSig (Option (Uuid × Uuid)) where
  ok turn
    | .postInitiate d request => turn = some (d, request.sessionId)
    | .sessionsInsert s session => session.sessionId = s
    | _ => True
  may := c.expects
  next turn
    | .queuePush d s, _ => some (d, s)
    | .queueRetain d _, (queue : Option (List Uuid)) => (queue.bind List.head?).map (fun s => (d, s))
    | _, _ => turn

def ServiceOp.isPlain : ServiceOp → Bool
  | .postInitiate _ _ | .sessionsInsert _ _ | .queuePush _ _ | .queueRetain _ _ => false
  | _ => true

def ServiceOp.isMute : ServiceOp → Bool
  | .postInitiate _ _ | .sessionsInsert _ _ => false
  | _ => true

section rules

variable {c : Call} {α β : Type} {post : α → Option (Uuid × Uuid) → Prop} {turn : Option (Uuid × Uuid)}

theorem dispatch_plain {i : ServiceOp} {k : i.Reply → Service α} (hi : i.isPlain = true)
    (hk : ∀ r, c.expects i r → Follows (dispatchMonitor c) post turn (k r)) :
    Follows (dispatchMonitor c) post turn (.op i k) := by
  cases i <;> first | exact ⟨trivial, hk⟩ | cases hi

theorem dispatch_insert {s : Uuid} {session : DiscoveryUpdatePayload} {k : Unit → Service α}
    (hs : session.sessionId = s) (hk : Follows (dispatchMonitor c) post turn (k ())) :
    Follows (dispatchMonitor c) post turn (.op (ServiceOp.sessionsInsert s session) k) := ⟨hs, fun _ _ => hk⟩

theorem dispatch_push {d s : Uuid} {k : Unit → Service α}
    (hk : Follows (dispatchMonitor c) post (some (d, s)) (k ())) :
    Follows (dispatchMonitor c) post turn (.op (ServiceOp.queuePush d s) k) := ⟨trivial, fun _ _ => hk⟩

theorem dispatch_retain {d s : Uuid} {k : Option (List Uuid) → Service α}
    (hk : ∀ queue, Follows (dispatchMonitor c) post ((queue.bind List.head?).map (fun s => (d, s))) (k queue)) :
    Follows (dispatchMonitor c) post turn (.op (ServiceOp.queueRetain d s) k) := ⟨trivial, fun r _ => hk r⟩

def Silent (c : Call) (p : Service α) : Prop := ∀ turn, Follows (dispatchMonitor c) (fun _ _ => True) turn p

theorem silent_op {i : ServiceOp} {k : i.Reply → Service α} (hi : i.isMute = true) (hk : ∀ r, Silent c (k r)) :
    Silent c (.op i k) := by
  intro turn
  cases i <;> first | exact ⟨trivial, fun r _ => hk r _⟩ | cases hi

theorem silent_ret (x : α) : Silent c (.ret x) := fun _ => trivial

theorem silent_fail (e : Error) : Silent c (.fail e : Service α) := fun _ => trivial

theorem Silent.bind {p : Service α} {f : α → Service β} (hp : Silent c p) (hf : ∀ x, Silent c (f x)) :
    Silent c (p.bind f) := by
  intro turn
  apply Follows.bind
  apply (hp turn).imp
  intro x b _
  exact hf x b

theorem silent_orFail {r : Except Error α} {f : α → Service β} (hf : ∀ x, Silent c (f x)) :
    Silent c ((orFail r).bind f) := by
  cases r with
  | error e => exact silent_fail e
  | ok x => exact hf x

theorem Silent.when {p : Service Unit} (hp : Silent c p) (b : Bool) : Silent c (Program.when b p) := by
  cases b with
  | false => exact silent_ret ()
  | true => exact hp

theorem silent_forEach {f : β → Service Unit} (hf : ∀ x, Silent c (f x)) (xs : List β) :
    Silent c (forEach f xs) := by
  induction xs with
  | nil => exact silent_ret ()
  | cons x xs ih => exact (hf x).bind (fun _ => ih)

end rules

section silent

variable (c : Call)

theorem cancelPending_silent (session : DiscoveryUpdatePayload) (s : Uuid) : Silent c (cancelPending session s) := by
  simp only [cancelPending, bind_eq, op_bind, ret_bind]
  repeat
    apply silent_op rfl
    intro _
  exact silent_ret ()

theorem cancelUnreachable_silent (found : DiscoveryUpdatePayload) (s : Uuid) :
    Silent c (cancelUnreachable found s) := by
  simp only [cancelUnreachable, bind_eq, pure_eq, op_bind, ret_bind]
  apply silent_op rfl
  intro _
  apply silent_op rfl
  intro _
  apply silent_op rfl
  rintro (_ | session)
  · exact silent_ret ()
  repeat
    apply silent_op rfl
    intro _
  exact silent_ret ()

theorem sendDiscoveryCancellation_silent (daemon : Daemon) (s : Uuid) :
    Silent c (sendDiscoveryCancellation daemon s).attempt := by
  simp only [sendDiscoveryCancellation, bind_eq, op_bind, ret_bind, attempt_op]
  apply silent_op rfl
  rintro (e | ⟨⟩)
  · exact silent_ret _
  apply silent_op rfl
  rintro (e | ⟨⟩)
  · exact silent_ret _
  · exact silent_ret _

theorem cancelActive_silent (session : DiscoveryUpdatePayload) (s : Uuid) : Silent c (cancelActive session s) := by
  simp only [cancelActive, bind_eq, pure_eq, op_bind, ret_bind]
  apply silent_op rfl
  intro found
  apply silent_orFail
  rintro (_ | daemon)
  · exact silent_fail _
  dsimp only
  cases daemon.mode with
  | push =>
    apply (sendDiscoveryCancellation_silent c daemon s).bind
    rintro (e | ⟨⟩)
    · exact cancelUnreachable_silent c session s
    · exact silent_ret ()
  | pull =>
    apply silent_op rfl
    intro _
    apply silent_op rfl
    intro _
    exact silent_ret ()

theorem cancelSession_silent (s : Uuid) : Silent c (cancelSession s) := by
  simp only [cancelSession, getSession, bind_eq, pure_eq, op_bind, ret_bind]
  apply silent_op rfl
  intro _
  apply silent_op rfl
  intro found
  apply silent_op rfl
  intro _
  rcases found with _ | session
  · exact silent_fail _
  dsimp only
  cases session.phase with
  | pending => exact cancelPending_silent c session s
  | started => exact cancelActive_silent c session s
  | scanning => exact cancelActive_silent c session s
  | starting => exact silent_fail _
  | complete => exact silent_ret ()
  | failed => exact silent_ret ()
  | cancelled => exact silent_ret ()

theorem removeOld_silent (s : Uuid) : Silent c (removeOld s) := by
  simp only [removeOld, bind_eq, pure_eq, op_bind, ret_bind]
  apply silent_op rfl
  rintro (_ | session)
  · exact silent_ret ()
  repeat
    apply silent_op rfl
    intro _
  exact silent_ret ()

theorem cleanupOldSessions_silent (maxAgeHours : ℤ) : Silent c (cleanupOldSessions maxAgeHours) := by
  simp only [cleanupOldSessions, bind_eq, op_bind, ret_bind]
  repeat
    apply silent_op rfl
    intro _
  exact silent_forEach (removeOld_silent c) _

theorem stalledSessions_silent (now : Instant) (entries : List (Uuid × DiscoveryUpdatePayload)) :
    Silent c (stalledSessions now entries) := by
  induction entries with
  | nil => exact silent_ret _
  | cons e rest ih =>
    rcases e with ⟨s, session⟩
    simp only [stalledSessions, bind_eq, pure_eq, op_bind, ret_bind]
    split_ifs
    · exact ih
    · apply silent_op rfl
      intro lastUpdate
      exact ih.bind (fun _ => silent_ret _)

theorem removeStalled_silent (now : Instant) (s : Uuid) : Silent c (removeStalled now s) := by
  simp only [removeStalled, bind_eq, pure_eq, op_bind, ret_bind]
  apply silent_op rfl
  rintro (_ | found)
  · exact silent_ret ()
  apply silent_op rfl
  intro _
  apply silent_op rfl
  intro _
  apply silent_op rfl
  intro _
  apply silent_op rfl
  intro entry
  apply Silent.bind
  · apply Silent.when
    exact silent_op rfl (fun _ => silent_ret ())
  intro _
  apply silent_op rfl
  intro id
  apply silent_op rfl
  intro _
  exact silent_ret ()

theorem cleanupStalledSessions_silent : Silent c cleanupStalledSessions := by
  simp only [cleanupStalledSessions, bind_eq, op_bind, ret_bind]
  repeat
    apply silent_op rfl
    intro _
  apply (stalledSessions_silent c _ _).bind
  intro stalled
  exact silent_forEach (removeStalled_silent c _) stalled

end silent

section dispatching

variable {c : Call} {turn : Option (Uuid × Uuid)}

theorem sendDiscoveryRequest_dispatches {d : Uuid} {request : DaemonDiscoveryRequest}
    (h : turn = some (d, request.sessionId)) :
    Follows (dispatchMonitor c) (fun _ b => b = turn) turn (sendDiscoveryRequest d request) := by
  simp only [sendDiscoveryRequest, bind_eq, op_bind, ret_bind]
  apply dispatch_plain rfl
  intro found _
  apply Follows.orFail_bind
  rintro (_ | daemon) -
  · trivial
  refine ⟨h, fun sent _ => ?_⟩
  apply Follows.orFail_bind
  intro _ _
  apply dispatch_plain rfl
  rintro (e | ⟨⟩) _
  · trivial
  · rfl

theorem startSession_dispatches (discovery : Discovery) :
    Follows (dispatchMonitor c) (fun _ _ => True) turn (startSession discovery) := by
  simp only [startSession, bind_eq, pure_eq, op_bind, ret_bind]
  apply dispatch_plain rfl
  intro sessionId _
  apply dispatch_plain rfl
  intro _ _
  apply dispatch_insert rfl
  apply dispatch_plain rfl
  intro _ _
  apply dispatch_plain rfl
  intro _ _
  apply dispatch_plain rfl
  intro queue _
  apply dispatch_plain rfl
  intro _ _
  apply dispatch_plain rfl
  intro _ _
  apply dispatch_push
  apply dispatch_plain rfl
  intro _ _
  apply dispatch_plain rfl
  intro found _
  apply Follows.orFail_bind
  intro daemon _
  apply Follows.seq
  · apply Follows.when
    exact sendDiscoveryRequest_dispatches rfl
  intro _
  apply dispatch_plain rfl
  intro _ _
  trivial

theorem saveHistorical_silent (session : DiscoveryUpdatePayload) : Silent c (saveHistorical session) := by
  simp only [saveHistorical, pullCancellationForDaemon, bind_eq, pure_eq, op_bind, ret_bind]
  apply silent_op rfl
  intro id
  apply silent_op rfl
  intro createdAt
  apply silent_op rfl
  intro updatedAt
  apply silent_op rfl
  intro _
  apply silent_op rfl
  intro entry
  apply silent_op rfl
  intro _
  apply silent_op rfl
  rintro (e | ⟨⟩)
  · exact silent_ret ()
  apply silent_op rfl
  rintro (e | ⟨⟩)
  · exact silent_fail e
  · exact silent_ret ()

theorem takeNext_dispatches (d : Uuid) (queue : Option (List Uuid)) :
    Follows (dispatchMonitor c) (fun next b => ∀ request, next = some request → b = some (d, request.sessionId))
      ((queue.bind List.head?).map (fun s => (d, s))) (takeNext queue) := by
  unfold takeNext
  cases queue.bind List.head? with
  | none =>
    intro request hrequest
    cases hrequest
  | some nextSessionId =>
    simp only [bind_eq, pure_eq, op_bind, ret_bind]
    apply dispatch_plain rfl
    rintro (_ | nextSession) hexpected
    · intro request hrequest
      cases hrequest
    obtain ⟨hid, -⟩ := hexpected nextSession rfl
    apply dispatch_insert hid
    rintro request hrequest
    cases hrequest
    simp only [Option.map_some, hid]

theorem leaveQueue_dispatches (session : DiscoveryUpdatePayload) :
    Follows (dispatchMonitor c)
      (fun next b => ∀ request, next = some request → b = some (session.daemonId, request.sessionId)) turn
      (leaveQueue session) := by
  simp only [leaveQueue, bind_eq, pure_eq, op_bind, ret_bind]
  apply dispatch_plain rfl
  intro _ _
  apply dispatch_retain
  intro queue
  apply Follows.bind
  apply (takeNext_dispatches session.daemonId queue).imp
  intro next turn hnext
  apply dispatch_plain rfl
  intro _ _
  apply dispatch_plain rfl
  intro _ _
  apply dispatch_plain rfl
  intro _ _
  exact hnext

theorem dispatchNext_dispatches {d : Uuid} {next : Option DaemonDiscoveryRequest}
    (hnext : ∀ request, next = some request → turn = some (d, request.sessionId)) :
    Follows (dispatchMonitor c) (fun _ _ => True) turn (dispatchNext d next) := by
  simp only [dispatchNext, bind_eq, pure_eq, op_bind, ret_bind]
  apply dispatch_plain rfl
  intro found _
  apply Follows.orFail_bind
  intro daemon _
  cases next with
  | none => trivial
  | some request =>
    have hsend := Follows.when (isPush daemon) (sendDiscoveryRequest_dispatches (c := c) (hnext request rfl))
    exact hsend.imp (fun _ _ _ => trivial)

theorem finishSession_dispatches (session : DiscoveryUpdatePayload) :
    Follows (dispatchMonitor c) (fun _ _ => True) turn (finishSession session session.daemonId) := by
  apply Follows.bind
  apply (saveHistorical_silent session turn).imp
  intro _ turn _
  apply Follows.bind
  apply (leaveQueue_dispatches session).imp
  intro next turn hnext
  exact dispatchNext_dispatches hnext

theorem autoCreate_dispatches (update : DiscoveryUpdatePayload) :
    Follows (dispatchMonitor c) (fun _ _ => True) turn (autoCreate update) := by
  simp only [autoCreate, bind_eq, op_bind, ret_bind]
  apply dispatch_plain rfl
  intro _ _
  apply dispatch_push
  apply dispatch_plain rfl
  intro _ _
  apply dispatch_insert rfl
  trivial

theorem updateSession_dispatches (update : DiscoveryUpdatePayload) :
    Follows (dispatchMonitor (.updateSession update)) (fun _ _ => True) turn (updateSession update) := by
  simp only [updateSession, bind_eq, op_bind, ret_bind]
  apply dispatch_plain rfl
  intro _ _
  apply dispatch_plain rfl
  intro _ _
  apply dispatch_plain rfl
  intro now _
  apply dispatch_plain rfl
  intro _ _
  apply dispatch_plain rfl
  intro entry hexpected
  apply Follows.bind
  have hcreate : Follows (dispatchMonitor (.updateSession update)) (fun _ _ => True) turn
      (when entry.isNone (autoCreate update)) := by
    cases entry.isNone with
    | false => trivial
    | true => exact autoCreate_dispatches update
  apply hcreate.imp
  intro _ turn _
  apply dispatch_plain rfl
  intro _ _
  apply dispatch_insert rfl
  cases hphase : update.phase.isTerminal with
  | false => trivial
  | true =>
    -- the queue that is left and the daemon that is asked are those of one daemon
    have hdaemon : (entry.getD update).daemonId = update.daemonId := by
      cases entry with
      | none => rfl
      | some p => exact (hexpected p rfl).2 update rfl hphase rfl
    rw [hdaemon]
    exact finishSession_dispatches update

theorem program_dispatches (c : Call) : Follows (dispatchMonitor c) (fun _ _ => True) none c.program := by
  cases c with
  | startSession discovery =>
    apply Follows.bind
    apply (startSession_dispatches discovery).imp
    intro _ _ _
    trivial
  | updateSession update => exact updateSession_dispatches update
  | cancelSession s => exact cancelSession_silent _ s none
  | cleanupOldSessions maxAgeHours => exact cleanupOldSessions_silent _ maxAgeHours none
  | cleanupStalledSessions => exact cleanupStalledSessions_silent _ none
  | getSessionsForDaemon d =>
    simp only [Call.program, getSessionsForDaemon, bind_eq, pure_eq, op_bind, ret_bind]
    repeat
      apply dispatch_plain rfl
      intro _ _
    trivial
  | pullCancellationForDaemon d =>
    simp only [Call.program, pullCancellationForDaemon, bind_eq, pure_eq, op_bind, ret_bind]
    repeat
      apply dispatch_plain rfl
      intro _ _
    trivial

end dispatching

end VantageNet
