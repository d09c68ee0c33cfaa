import VantageNet.Discovery.UpdateEffects
import VantageNet.Discovery.CleanupEffects

/-!
The calls of `DiscoveryService`, each run to completion, and what one leaves behind.
-/

namespace VantageNet

open Interaction Interaction.Program

inductive Call where
  | startSession (discovery : Discovery)
  | updateSession (update : DiscoveryUpdatePayload)
  | cancelSession (sessionId : Uuid)
  | cleanupOldSessions (maxAgeHours : ℤ)
  | cleanupStalledSessions
  | getSessionsForDaemon (daemonId : Uuid)
  | pullCancellationForDaemon (daemonId : Uuid)

def Call.program : Call → Service Unit
  | .startSession discovery => (VantageNet.startSession discovery).bind (fun _ => .ret ())
  | .updateSession update => VantageNet.updateSession update
  | .cancelSession sessionId => VantageNet.cancelSession sessionId
  | .cleanupOldSessions maxAgeHours => VantageNet.cleanupOldSessions maxAgeHours
  | .cleanupStalledSessions => VantageNet.cleanupStalledSessions
  | .getSessionsForDaemon daemonId => (VantageNet.getSessionsForDaemon daemonId).bind (fun _ => .ret ())
  | .pullCancellationForDaemon daemonId =>
    (VantageNet.pullCancellationForDaemon daemonId).bind (fun _ => .ret ())

structure Served where
  call : Call
  answers : Oracle serviceSig

/-- A world where nothing fails: it is `now`, new ids count up from `id`, every daemon is known and
works in `mode`. -/
def calm (id : Uuid) (now : Instant) (mode : DaemonMode) : Oracle serviceSig
  | n, .newV4 => id + Fin.ofNat _ n
  | _, .utcNow => now
  | _, .daemonGet d => .ok (some ⟨d, 0, mode, "", "", now⟩)
  | _, .discoveryGet _ => .ok none
  | n, .schedulerAdd _ => .ok (id + Fin.ofNat _ n)
  | _, .sessionsIter => []
  | _, .sessionsGet _ | _, .sessionsRemove _ | _, .queueGet _ | _, .queueRetain _ _ | _, .cancellationGet _
  | _, .cancellationRemove _ | _, .lastUpdatedGet _ => none
  | _, .daemonUpdate _ | _, .postInitiate _ _ | _, .postCancel _ _ | _, .publish _ _ | _, .discoveryCreate _
  | _, .discoveryUpdate _ | _, .discoveryDelete _ | _, .jobNew _ | _, .schedulerRemove _ => .ok ()
  | _, .acquire _ _ | _, .release _ | _, .sessionsInsert _ _ | _, .queuePush _ _ | _, .cancellationInsert _ _
  | _, .lastUpdatedInsert _ _ | _, .lastUpdatedRemove _ | _, .broadcast _ => ()

def unreachable (id : Uuid) (now : Instant) (mode : DaemonMode) : Oracle serviceSig
  | _, .postInitiate _ _ | _, .postCancel _ _ => .error .daemon
  | n, i => calm id now mode n i

def adHocFor (d : Uuid) : Discovery := ⟨0, 0, 0, ⟨.selfReport 0, .adHoc none, "", d, 0, []⟩⟩

def reportOf (s d : Uuid) (phase : DiscoveryPhase) : DiscoveryUpdatePayload :=
  { DiscoveryUpdatePayload.new s d 0 (.selfReport 0) with phase }

def Store.serve (σ : Store) (e : Served) : Store := (run serviceStep e.answers 0 e.call.program σ).state

theorem run_discard_state {α : Type} (ω : Oracle serviceSig) (n : ℕ) (p : Service α) (σ : Store) :
    (run serviceStep ω n (p.bind (fun _ => (.ret () : Service Unit))) σ).state = (run serviceStep ω n p σ).state := by
  rw [run_bind]
  rcases run serviceStep ω n p σ with ⟨e | a, m, τ⟩ <;> rfl

inductive Effect (ω : Oracle serviceSig) (σ : Store) : Call → Store → Prop
  | started (discovery : Discovery) (updateTx : List DiscoveryUpdatePayload) (posted : List (Uuid × Uuid))
      (hposted : posted = σ.posted ∧
          (σ.queue discovery.base.daemonId = [] → ¬ PushDaemon ω discovery.base.daemonId) ∨
        σ.queue discovery.base.daemonId = [] ∧ posted = (discovery.base.daemonId, ω 0 .newV4) :: σ.posted) :
      Effect ω σ (.startSession discovery) { σ.enqueue discovery (ω 0 .newV4) with updateTx, posted }
  | progressed (update : DiscoveryUpdatePayload) (now : Instant) (hphase : update.phase.isTerminal = false) :
      Effect ω σ (.updateSession update) (σ.receive update now)
  | recorded (update : DiscoveryUpdatePayload) (now : Instant) (discoveries : HashMap Uuid Discovery)
      (hphase : update.phase.isTerminal = true) (hbus : ¬ BusOk ω)
      (hsaved : Saved σ.discoveries discoveries update.daemonId update) :
      Effect ω σ (.updateSession update) ((σ.receive update now).record update.daemonId discoveries)
  | finished (update : DiscoveryUpdatePayload) (now : Instant) (discoveries : HashMap Uuid Discovery)
      (posted : List (Uuid × Uuid)) (hphase : update.phase.isTerminal = true)
      (hsaved : Saved σ.discoveries discoveries update.daemonId update)
      (hposted : posted = σ.posted ∧ (PushDaemon ω (σ.storedDaemon update) →
          (σ.receive update now).nextRequest update.daemonId update.sessionId = none) ∨
        ∃ request, (σ.receive update now).nextRequest update.daemonId update.sessionId = some request ∧
          posted = (σ.storedDaemon update, request.sessionId) :: σ.posted) :
      Effect ω σ (.updateSession update) { ((σ.receive update now).record update.daemonId discoveries).handOver
        update.daemonId update.sessionId with posted }
  | cancelled (sessionId : Uuid) (τ : Store) (h : Cancelled ω σ sessionId τ) :
      Effect ω σ (.cancelSession sessionId) τ
  | aged (maxAgeHours : ℤ) (done : List Uuid) (τ : Store)
      (hdone : ∀ s, s ∈ done ↔ ∃ p, σ.sessions.get s = some p ∧
        isOld (ω 0 .utcNow - hours maxAgeHours) p = true)
      (h : Aged σ τ done) :
      Effect ω σ (.cleanupOldSessions maxAgeHours) τ
  | stalled (done : List Uuid) (τ : Store) (hdone : ∀ s, s ∈ done ↔ σ.Stalls (ω 0 .utcNow) s)
      (h : Failed σ τ done) : Effect ω σ .cleanupStalledSessions τ
  | listed (daemonId : Uuid) : Effect ω σ (.getSessionsForDaemon daemonId) σ
  | polled (daemonId : Uuid) : Effect ω σ (.pullCancellationForDaemon daemonId)
      { σ with daemonPullCancellations := σ.daemonPullCancellations.erase daemonId }

theorem updateSession_effect (ω : Oracle serviceSig) (update : DiscoveryUpdatePayload) (σ : Store) :
    Effect ω σ (.updateSession update) (run serviceStep ω 0 (updateSession update) σ).state := by
  obtain ⟨k, now, hrun⟩ := updateSession_run ω 0 update σ
  rw [hrun]
  cases hphase : update.phase.isTerminal with
  | false => exact .progressed update now hphase
  | true =>
    rw [when_true]
    obtain ⟨discoveries, hsaved, ⟨hbus, hstate⟩ | ⟨posted, hstate, hposted⟩⟩ :=
      finishSession_effect ω k update (σ.storedDaemon update) (σ.receive update now)
    · rw [hstate]
      exact .recorded update now discoveries hphase hbus hsaved
    · rw [hstate]
      exact .finished update now discoveries posted hphase hsaved hposted

theorem serve_effect (σ : Store) (hkeyed : σ.Keyed) (e : Served) : Effect e.answers σ e.call (σ.serve e) := by
  rcases e with ⟨call, ω⟩
  cases call with
  | startSession discovery =>
    obtain ⟨tx, posted, hstate, hposted⟩ := startSession_effect ω 0 discovery σ
    rw [Store.serve, Call.program, run_discard_state, hstate]
    exact .started discovery tx posted hposted
  | updateSession update => exact updateSession_effect ω update σ
  | cancelSession sessionId => exact .cancelled sessionId _ (cancelSession_effect ω 0 sessionId σ)
  | cleanupOldSessions maxAgeHours =>
    obtain ⟨done, hdone, haged⟩ := cleanupOldSessions_effect ω 0 maxAgeHours σ hkeyed
    exact .aged maxAgeHours done _ hdone haged
  | cleanupStalledSessions =>
    obtain ⟨done, hdone, hfailed⟩ := cleanupStalledSessions_effect ω 0 σ hkeyed
    exact .stalled done _ hdone hfailed
  | getSessionsForDaemon daemonId => exact .listed daemonId
  | pullCancellationForDaemon daemonId => exact .polled daemonId

theorem empty_keyed : Store.empty.Keyed := fun _ _ h => nomatch h

theorem Store.Keyed.congr {σ τ : Store} (h : σ.Keyed) (hsessions : τ.sessions = σ.sessions) : τ.Keyed :=
  fun s p hp => h s p (hsessions ▸ hp)

theorem Store.Keyed.insert {σ τ : Store} (h : σ.Keyed) (p : DiscoveryUpdatePayload)
    (hsessions : τ.sessions = σ.sessions.insert p.sessionId p) : τ.Keyed := by
  intro s q hq
  rw [hsessions, get_insert] at hq
  split_ifs at hq with hs
  · cases hq
    exact hs.symm
  · exact h s q hq

theorem Store.Keyed.removed {σ τ : Store} (h : σ.Keyed) {done : List Uuid} (hremoved : Removed σ τ done) :
    τ.Keyed :=
  fun s p hp => h s p (hremoved.found hp).2

theorem Store.Keyed.handOver {σ : Store} (h : σ.Keyed) (d s : Uuid) : (σ.handOver d s).Keyed := by
  intro k q hq
  simp only [Store.handOver, get_erase, get_promote] at hq
  split_ifs at hq
  · obtain ⟨p, hp, rfl⟩ := Option.map_eq_some_iff.mp hq
    exact h k p hp
  · exact h k q hq

theorem serve_keyed {σ : Store} (h : σ.Keyed) (e : Served) : (σ.serve e).Keyed := by
  rcases e with ⟨call, ω⟩
  have heffect := serve_effect σ h ⟨call, ω⟩
  generalize σ.serve ⟨call, ω⟩ = τ at heffect
  simp only at heffect
  cases heffect with
  | started discovery updateTx posted hposted =>
    exact h.insert (DiscoveryUpdatePayload.new (ω 0 .newV4) discovery.base.daemonId
      discovery.base.networkId discovery.base.discoveryType) rfl
  | progressed update now hphase => exact h.insert update rfl
  | recorded update now discoveries hphase hbus hsaved => exact h.insert update rfl
  | finished update now discoveries posted hphase hsaved hposted =>
    have hreceived : ((σ.receive update now).record update.daemonId discoveries).Keyed := h.insert update rfl
    exact (hreceived.handOver update.daemonId update.sessionId).congr rfl
  | cancelled s τ hcancelled =>
    cases hcancelled with
    | unchanged => exact h
    | pending p updateTx hp hphase => exact h.removed ((Removed.refl σ).drop hp rfl rfl rfl)
    | flagged p hp hphase hpull => exact h.congr rfl
    | unreachable p results updateTx discoveries hp hphase hbad hid hsaved =>
      exact h.removed ((Removed.refl σ).drop hp rfl rfl rfl)
  | aged maxAgeHours done τ hdone haged => exact h.removed haged.toRemoved
  | stalled done τ hdone hfailed => exact h.removed hfailed.toRemoved
  | listed d => exact h
  | polled d => exact h.congr rfl

theorem run_keyed (es : List Served) : (es.foldl Store.serve .empty).Keyed := by
  have hkeyed : ∀ σ : Store, σ.Keyed → (es.foldl Store.serve σ).Keyed := by
    induction es with
    | nil => exact fun σ h => h
    | cons e es ih => exact fun σ h => ih _ (serve_keyed h e)
  exact hkeyed .empty empty_keyed

end VantageNet
