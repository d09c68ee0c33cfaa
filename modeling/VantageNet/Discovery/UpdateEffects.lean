import VantageNet.Discovery.Effects

/-!
What `update_session` does to the store: it takes in the update and, for a terminal
phase, writes the history and hands the daemon's queue over to the next session.
-/

namespace VantageNet

open Interaction Interaction.Program

def Store.storedDaemon (σ : Store) (update : DiscoveryUpdatePayload) : Uuid :=
  ((σ.sessions.get update.sessionId).getD update).daemonId

def Store.receive (σ : Store) (update : DiscoveryUpdatePayload) (now : Instant) : Store := { σ with
  sessions := σ.sessions.insert update.sessionId update
  daemonSessions := if update.sessionId ∈ σ.sessions then σ.daemonSessions else
    σ.daemonSessions.insert update.daemonId (σ.queue update.daemonId ++ [update.sessionId])
  sessionLastUpdated := σ.sessionLastUpdated.insert update.sessionId now
  updateTx := update :: σ.updateTx }

theorem updateSession_run (ω : Oracle serviceSig) (n : ℕ) (update : DiscoveryUpdatePayload) (σ : Store) :
    ∃ k now, run serviceStep ω n (updateSession update) σ =
      run serviceStep ω k (when update.phase.isTerminal (finishSession update (σ.storedDaemon update)))
        (σ.receive update now) := by
  simp only [updateSession, bind_eq, op_bind, ret_bind, run_op, serviceStep]
  cases hs : σ.sessions.get update.sessionId with
  | none =>
    have hmem : update.sessionId ∉ σ.sessions := (get_eq_none _ _).mp hs
    simp only [Option.isNone_none, when_true, autoCreate, bind_eq, op_bind, ret_bind, run_op,
      serviceStep, Store.storedDaemon, Store.receive, hs, hmem, ↓reduceIte, Finmap.insert_insert]
    exact ⟨_, _, rfl⟩
  | some p =>
    have hmem : update.sessionId ∈ σ.sessions := (mem_iff_get _ _).mpr ⟨p, hs⟩
    simp only [Option.isNone_some, when_false, ret_bind, run_op, serviceStep, Store.storedDaemon,
      Store.receive, hs, hmem, ↓reduceIte]
    exact ⟨_, _, rfl⟩

def Store.record (σ : Store) (daemonId : Uuid) (discoveries : HashMap Uuid Discovery) : Store := { σ with
  daemonPullCancellations := σ.daemonPullCancellations.erase daemonId
  discoveries }

theorem saveHistorical_effect (ω : Oracle serviceSig) (n : ℕ) (u : DiscoveryUpdatePayload) (σ : Store) :
    ∃ r k discoveries, run serviceStep ω n (saveHistorical u) σ = ⟨r, k, σ.record u.daemonId discoveries⟩ ∧
      Saved σ.discoveries discoveries u.daemonId u ∧ (BusOk ω → r = .ok ()) := by
  simp only [saveHistorical, pullCancellationForDaemon, bind_eq, pure_eq, op_bind, ret_bind, run_op,
    serviceStep]
  generalize hr : historicalDiscovery _ _ _ _ u u = r
  have hsaved := insertRow_saved (σ.record u.daemonId σ.discoveries) r
    (ω (n + 1 + 1 + 1 + 1 + 1 + 1) (.discoveryCreate r)) (show r.base.runType = .historical u by rw [← hr]; rfl)
  have hframe := insertRow_frame (σ.record u.daemonId σ.discoveries) r
    (ω (n + 1 + 1 + 1 + 1 + 1 + 1) (.discoveryCreate r))
  rw [show r.base.daemonId = u.daemonId by rw [← hr]; rfl] at hsaved
  generalize hrow : Store.insertRow _ r _ = o
  change (σ.record u.daemonId σ.discoveries).insertRow r _ = o at hrow
  rw [hrow] at hsaved hframe
  rcases o with ⟨reply, τ⟩
  obtain ⟨discoveries, rfl⟩ : ∃ discoveries, τ = σ.record u.daemonId discoveries := ⟨_, hframe⟩
  rcases reply with e | ⟨⟩
  · exact ⟨_, _, _, rfl, hsaved, fun _ => rfl⟩
  · simp only [run_op, serviceStep]
    rcases hp : ω (n + 1 + 1 + 1 + 1 + 1 + 1 + 1) (.publish .created r.id) with e | ⟨⟩
    · exact ⟨_, _, _, rfl, hsaved, fun hbus => by simp [hbus _ _ _] at hp⟩
    · exact ⟨_, _, _, rfl, hsaved, fun _ => rfl⟩

def promote (sessions : HashMap Uuid DiscoveryUpdatePayload) (next : Option Uuid) :
    HashMap Uuid DiscoveryUpdatePayload :=
  match next with
  | none => sessions
  | some s =>
    match sessions.get s with
    | none => sessions
    | some p => sessions.insert s { p with phase := .pending }

theorem get_promote (sessions : HashMap Uuid DiscoveryUpdatePayload) (next : Option Uuid) (s : Uuid) :
    (promote sessions next).get s = if next = some s then
      (sessions.get s).map (fun p => { p with phase := .pending }) else sessions.get s := by
  cases next with
  | none => simp [promote]
  | some t =>
    cases ht : sessions.get t with
    | none => by_cases hs : t = s <;> simp_all [promote]
    | some p =>
      simp only [promote, ht, get_insert, Option.some.injEq, eq_comm (a := s)]
      by_cases hs : t = s
      · simp [← hs, ht]
      · simp [hs]

def Store.next (σ : Store) (d s : Uuid) : Option Uuid := ((σ.queue d).filter (fun k => k ≠ s)).head?

def Store.nextRequest (σ : Store) (d s : Uuid) : Option DaemonDiscoveryRequest :=
  ((σ.next d s).bind σ.sessions.get).map (fun p => ⟨p.sessionId, p.discoveryType⟩)

def Store.handOver (σ : Store) (d s : Uuid) : Store :=
  { σ with
    sessions := (promote σ.sessions (σ.next d s)).erase s
    daemonSessions := retainQueue σ.daemonSessions d s }

theorem leaveQueue_run (ω : Oracle serviceSig) (n : ℕ) (u : DiscoveryUpdatePayload) (σ : Store) :
    ∃ k, run serviceStep ω n (leaveQueue u) σ =
      ⟨.ok (σ.nextRequest u.daemonId u.sessionId), k, σ.handOver u.daemonId u.sessionId⟩ := by
  have hnext : ((retainQueue σ.daemonSessions u.daemonId u.sessionId).get u.daemonId).bind List.head? =
      σ.next u.daemonId u.sessionId := by
    have hq := queue_retain σ.daemonSessions u.daemonId u.daemonId u.sessionId
    simp only [↓reduceIte] at hq
    unfold Store.next Store.queue
    rw [← hq]
    cases (retainQueue σ.daemonSessions u.daemonId u.sessionId).get u.daemonId <;> rfl
  simp only [leaveQueue, takeNext, bind_eq, pure_eq, op_bind, ret_bind, run_op, serviceStep, hnext,
    Store.nextRequest, Store.handOver]
  cases hn : σ.next u.daemonId u.sessionId with
  | none => exact ⟨_, rfl⟩
  | some s =>
    simp only [op_bind, run_op, serviceStep]
    cases hs : σ.sessions.get s with
    | none =>
      simp only [promote, hs, Option.bind_some]
      exact ⟨_, rfl⟩
    | some p =>
      simp only [promote, hs, Option.bind_some]
      exact ⟨_, rfl⟩

theorem dispatchNext_effect (ω : Oracle serviceSig) (n : ℕ) (d : Uuid) (next : Option DaemonDiscoveryRequest)
    (σ : Store) :
    ∃ posted, (run serviceStep ω n (dispatchNext d next) σ).state = { σ with posted } ∧
      (posted = σ.posted ∧ (PushDaemon ω d → next = none) ∨
        ∃ request, next = some request ∧ posted = (d, request.sessionId) :: σ.posted) := by
  simp only [dispatchNext, bind_eq, pure_eq, op_bind, ret_bind, run_op, serviceStep]
  rcases hd : ω n (.daemonGet d) with e | daemon
  · exact ⟨_, rfl, .inl ⟨rfl, fun hpush => absurd hpush (PushDaemon.not_error hd)⟩⟩
  simp only [orFail_ok, ret_bind]
  cases next with
  | none => exact ⟨_, rfl, .inl ⟨rfl, fun _ => rfl⟩⟩
  | some request =>
    cases hmode : isPush daemon with
    | false => exact ⟨_, rfl, .inl ⟨rfl, fun hpush => by simp [hpush.isPush hd] at hmode⟩⟩
    | true =>
      rcases sendDiscoveryRequest_effect ω (n + 1) d request σ with ⟨hpush, h⟩ | h
      · exact ⟨_, h, .inl ⟨rfl, fun h => absurd h hpush⟩⟩
      · exact ⟨_, h, .inr ⟨request, rfl, rfl⟩⟩

theorem finishSession_effect (ω : Oracle serviceSig) (n : ℕ) (u : DiscoveryUpdatePayload) (d : Uuid) (σ : Store) :
    ∃ discoveries, Saved σ.discoveries discoveries u.daemonId u ∧
      (¬ BusOk ω ∧ (run serviceStep ω n (finishSession u d) σ).state = σ.record u.daemonId discoveries ∨
        ∃ posted, (run serviceStep ω n (finishSession u d) σ).state =
            { (σ.record u.daemonId discoveries).handOver u.daemonId u.sessionId with posted } ∧
          (posted = σ.posted ∧ (PushDaemon ω d → σ.nextRequest u.daemonId u.sessionId = none) ∨
            ∃ request, σ.nextRequest u.daemonId u.sessionId = some request ∧
              posted = (d, request.sessionId) :: σ.posted)) := by
  obtain ⟨r, m, discoveries, hrun, hsaved, hbus⟩ := saveHistorical_effect ω n u σ
  refine ⟨discoveries, hsaved, ?_⟩
  simp only [finishSession, bind_eq, run_bind, hrun]
  rcases r with e | ⟨⟩
  · exact .inl ⟨fun h => (nomatch hbus h), rfl⟩
  · right
    obtain ⟨k, hleave⟩ := leaveQueue_run ω m u (σ.record u.daemonId discoveries)
    simp only [hleave]
    obtain ⟨posted, hstate, hposted⟩ := dispatchNext_effect ω k d
      ((σ.record u.daemonId discoveries).nextRequest u.daemonId u.sessionId)
      ((σ.record u.daemonId discoveries).handOver u.daemonId u.sessionId)
    exact ⟨posted, hstate, hposted⟩

end VantageNet
