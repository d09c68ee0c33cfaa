import Mathlib.Logic.Relation
import VantageNet.Interaction.Registry
import VantageNet.Discovery.Calls

/-!
The two maps of the service represent a registry: sessions are its tickets, daemons
its desks. What fails in `start_session` leaves the new session behind in both.
-/

namespace VantageNet

open Interaction Interaction.Program

structure Store.Represents (σ : Store) (R : Registry Uuid Uuid) : Prop where
  owner : ∀ s, σ.owner s = R.owner s
  queue : ∀ d, σ.queue d = R.queue d
  keyed : σ.Keyed

/-- Session ids are fresh, and an update carries the daemon its session is stored under. -/
def Legal (σ : Store) (e : Served) : Prop :=
  match e.call with
  | .startSession _ => σ.owner (e.answers 0 .newV4) = none
  | .updateSession update => σ.owner update.sessionId = none ∨ σ.owner update.sessionId = some update.daemonId
  | _ => True

instance (σ : Store) : (e : Served) → Decidable (Legal σ e)
  | ⟨.startSession _, ω⟩ => inferInstanceAs (Decidable (σ.owner (ω 0 .newV4) = none))
  | ⟨.updateSession update, _⟩ => inferInstanceAs
    (Decidable (σ.owner update.sessionId = none ∨ σ.owner update.sessionId = some update.daemonId))
  | ⟨.cancelSession _, _⟩ | ⟨.cleanupOldSessions _, _⟩ | ⟨.cleanupStalledSessions, _⟩
  | ⟨.getSessionsForDaemon _, _⟩ | ⟨.pullCancellationForDaemon _, _⟩ => .isTrue trivial

theorem empty_represents : Store.empty.Represents .empty :=
  ⟨fun _ => rfl, fun _ => rfl, empty_keyed⟩

theorem Store.Represents.enter {σ τ : Store} {R : Registry Uuid Uuid} (h : σ.Represents R)
    (p : DiscoveryUpdatePayload) (hfree : R.owner p.sessionId = none)
    (hsessions : τ.sessions = σ.sessions.insert p.sessionId p)
    (hqueue : τ.daemonSessions =
      σ.daemonSessions.insert p.daemonId (σ.queue p.daemonId ++ [p.sessionId])) :
    τ.Represents (R.enter p.daemonId p.sessionId hfree) := by
  refine ⟨fun s => ?_, fun d => ?_, h.keyed.insert p hsessions⟩
  · simp only [Store.owner, hsessions, get_insert, Registry.enter, Function.update_apply, ← h.owner]
    split_ifs <;> rfl
  · simp only [Store.queue, hqueue, queue_insert, Registry.enter, ← h.queue]

theorem Store.Represents.congr {σ τ : Store} {R : Registry Uuid Uuid} (h : σ.Represents R)
    (hsessions : τ.sessions = σ.sessions) (hqueue : τ.daemonSessions = σ.daemonSessions) : τ.Represents R := by
  refine ⟨fun s => ?_, fun d => ?_, h.keyed.congr hsessions⟩
  · rw [← h.owner, Store.owner, Store.owner, hsessions]
  · rw [← h.queue, Store.queue, Store.queue, hqueue]

theorem Store.Represents.remove {σ τ : Store} {R : Registry Uuid Uuid} (h : σ.Represents R)
    {done : List Uuid} (hremoved : Removed σ τ done) : τ.Represents (R.remove done) := by
  refine ⟨fun s => ?_, fun d => ?_, h.keyed.removed hremoved⟩
  · simp only [Store.owner, hremoved.sessions, Registry.remove, ← h.owner]
    split_ifs <;> rfl
  · rw [hremoved.queue, h.queue]
    apply List.filter_congr
    intro k hk
    simp [h.owner, (R.mem_queue d k).mp hk]

theorem owner_handOver (σ : Store) (d s k : Uuid) :
    (σ.handOver d s).owner k = if k = s then none else σ.owner k := by
  simp only [Store.owner, Store.handOver, get_erase, get_promote]
  split_ifs
  · rfl
  · cases σ.sessions.get k <;> rfl
  · rfl

theorem Store.Represents.handOver {σ : Store} {R : Registry Uuid Uuid} (h : σ.Represents R) {d s : Uuid}
    (hown : σ.owner s = some d) : (σ.handOver d s).Represents (R.remove [s]) := by
  refine ⟨fun k => ?_, fun e => ?_, h.keyed.handOver d s⟩
  · rw [owner_handOver, h.owner]
    simp only [Registry.remove, List.mem_singleton]
  · have hq := h.queue e
    simp only [Store.queue, Store.handOver, queue_retain, Registry.remove, List.mem_singleton] at hq ⊢
    split_ifs with he
    · rw [← he, hq]
    · -- `s` waits only at its own daemon
      rw [hq, List.filter_eq_self.mpr]
      intro k hk
      have hk' := (R.mem_queue e k).mp hk
      have hks : k ≠ s := by
        rintro rfl
        rw [h.owner, hk'] at hown
        exact he (Option.some.inj hown)
      simp [hks]

theorem Store.Represents.receive {σ : Store} {R : Registry Uuid Uuid} (h : σ.Represents R)
    {update : DiscoveryUpdatePayload} (now : Instant)
    (hlegal : σ.owner update.sessionId = none ∨ σ.owner update.sessionId = some update.daemonId) :
    (σ.receive update now).owner update.sessionId = some update.daemonId ∧
      ∃ R', Relation.ReflTransGen Registry.Step R R' ∧ (σ.receive update now).Represents R' := by
  refine ⟨by simp [Store.owner, Store.receive, get_insert], ?_⟩
  rcases hlegal with hnone | hsome
  · have hmem : update.sessionId ∉ σ.sessions := by
      rw [← get_eq_none]
      simpa [Store.owner] using hnone
    have hfree : R.owner update.sessionId = none := by rw [← h.owner, hnone]
    exact ⟨_, .single (.enter R update.daemonId update.sessionId hfree),
      h.enter update hfree rfl (by simp only [Store.receive, hmem, ↓reduceIte])⟩
  · obtain ⟨p, hp, hdaemon⟩ := Option.map_eq_some_iff.mp hsome
    have hmem : update.sessionId ∈ σ.sessions := (mem_iff_get _ _).mpr ⟨p, hp⟩
    refine ⟨R, .refl, fun s => ?_, fun d => ?_, h.keyed.insert update rfl⟩
    · simp only [Store.owner, Store.receive, get_insert, ← h.owner]
      split_ifs with hs
      · rw [hs]
        exact hsome.symm
      · rfl
    · rw [← h.queue]
      simp only [Store.queue, Store.receive, hmem, ↓reduceIte]

theorem serve_simulates {σ : Store} {R : Registry Uuid Uuid} (h : σ.Represents R) {e : Served}
    (hlegal : Legal σ e) :
    ∃ R', Relation.ReflTransGen Registry.Step R R' ∧ (σ.serve e).Represents R' := by
  rcases e with ⟨call, ω⟩
  have heffect := serve_effect σ h.keyed ⟨call, ω⟩
  generalize σ.serve ⟨call, ω⟩ = τ at heffect
  simp only at heffect
  cases heffect with
  | started discovery updateTx posted hposted =>
    have hfree : R.owner (ω 0 .newV4) = none := by rw [← h.owner]; exact hlegal
    exact ⟨_, .single (.enter R discovery.base.daemonId (ω 0 .newV4) hfree),
      h.enter (DiscoveryUpdatePayload.new (ω 0 .newV4) discovery.base.daemonId
        discovery.base.networkId discovery.base.discoveryType) hfree rfl rfl⟩
  | progressed update now hphase => exact (h.receive now hlegal).2
  | recorded update now discoveries hphase hbus hsaved =>
    obtain ⟨-, R', hsteps, hR'⟩ := h.receive now hlegal
    exact ⟨R', hsteps, hR'.congr rfl rfl⟩
  | finished update now discoveries posted hphase hsaved hposted =>
    obtain ⟨hown, R', hsteps, hR'⟩ := h.receive now hlegal
    have hrecord : ((σ.receive update now).record update.daemonId discoveries).Represents R' :=
      hR'.congr rfl rfl
    exact ⟨_, hsteps.tail (.remove R' [update.sessionId]), (hrecord.handOver hown).congr rfl rfl⟩
  | cancelled s τ hcancelled =>
    cases hcancelled with
    | unchanged => exact ⟨R, .refl, h⟩
    | pending p updateTx hp hphase =>
      exact ⟨_, .single (.remove R _), h.remove ((Removed.refl σ).drop hp rfl rfl rfl)⟩
    | flagged p hp hphase hpull => exact ⟨R, .refl, h.congr rfl rfl⟩
    | unreachable p results updateTx discoveries hp hphase hbad hid hsaved =>
      exact ⟨_, .single (.remove R _), h.remove ((Removed.refl σ).drop hp rfl rfl rfl)⟩
  | aged maxAgeHours done τ hdone haged => exact ⟨_, .single (.remove R done), h.remove haged.toRemoved⟩
  | stalled done τ hdone hfailed => exact ⟨_, .single (.remove R done), h.remove hfailed.toRemoved⟩
  | listed d => exact ⟨R, .refl, h⟩
  | polled d => exact ⟨R, .refl, h.congr rfl rfl⟩

theorem run_represents {es : List Served} (h : Meets Store.serve Legal .empty es) :
    ∃ R, (es.foldl Store.serve .empty).Represents R := by
  refine h.invariant (fun σ => ∃ R, σ.Represents R) ?_ ⟨.empty, empty_represents⟩
  rintro σ e ⟨R, hR⟩ hlegal
  obtain ⟨R', -, hR'⟩ := serve_simulates hR hlegal
  exact ⟨R', hR'⟩

theorem sessions_disjoint_union_queues (es : List Served) (h : Meets Store.serve Legal .empty es) :
    (∀ s, s ∈ (es.foldl Store.serve .empty).sessions ↔ ∃ d, s ∈ (es.foldl Store.serve .empty).queue d) ∧
    (∀ d e, d ≠ e → ((es.foldl Store.serve .empty).queue d).Disjoint ((es.foldl Store.serve .empty).queue e)) ∧
    (∀ d, ((es.foldl Store.serve .empty).queue d).Nodup) ∧
    ∀ s p, (es.foldl Store.serve .empty).sessions.get s = some p →
      s ∈ (es.foldl Store.serve .empty).queue p.daemonId := by
  obtain ⟨R, hR⟩ := run_represents h
  refine ⟨fun s => ?_, fun d e hde => ?_, fun d => ?_, fun s p hp => ?_⟩
  · simp only [hR.queue, ← R.owner_isSome_iff, ← hR.owner, mem_iff_get, Store.owner, Option.isSome_map,
      Option.isSome_iff_exists]
  · rw [hR.queue, hR.queue]
    exact R.disjoint hde
  · rw [hR.queue]
    exact R.nodup d
  · rw [hR.queue, R.mem_queue, ← hR.owner, Store.owner, hp]
    rfl

theorem sessions_disjoint_union_queues_handover :
    let σ := [⟨.startSession (adHocFor 7), calm 1 0 .push⟩, ⟨.startSession (adHocFor 7), calm 2 0 .push⟩,
      ⟨.updateSession (reportOf 1 7 .complete), calm 3 0 .push⟩].foldl Store.serve .empty
    σ.queue 7 = [2] ∧ ∀ s, s ∈ σ.sessions ↔ ∃ d, s ∈ σ.queue d :=
  ⟨by decide, (sessions_disjoint_union_queues _ (by decide)).1⟩

/-- What `start_session` asks of the daemon service is granted: the lookup of the daemon and, where
a push daemon was idle, the discovery request. -/
def Granted (ω : Oracle serviceSig) (σ : Store) (discovery : Discovery) : Prop :=
  ∃ daemon, ω 10 (.daemonGet discovery.base.daemonId) = .ok daemon ∧
    (σ.queue discovery.base.daemonId = [] → isPush daemon = true →
      (∃ target, ω 11 (.daemonGet discovery.base.daemonId) = .ok (some target)) ∧
      ω 12 (.postInitiate discovery.base.daemonId ⟨ω 0 .newV4, discovery.base.discoveryType⟩) = .ok () ∧
      ω 13 (.publish .discoveryStarted discovery.base.daemonId) = .ok ())

theorem sendDiscoveryRequest_ok_iff (ω : Oracle serviceSig) (n : ℕ) (d : Uuid)
    (request : DaemonDiscoveryRequest) (σ : Store) :
    (run serviceStep ω n (sendDiscoveryRequest d request) σ).result = .ok () ↔
      (∃ target, ω n (.daemonGet d) = .ok (some target)) ∧ ω (n + 1) (.postInitiate d request) = .ok () ∧
        ω (n + 2) (.publish .discoveryStarted d) = .ok () := by
  simp only [sendDiscoveryRequest, bind_eq, op_bind, ret_bind, run_op, serviceStep]
  rcases ω n (.daemonGet d) with e | _ | daemon
  · simp
  · simp
  simp only [orFail_ok, ret_bind, run_op, serviceStep]
  rcases ω (n + 1) (.postInitiate d request) with e | ⟨⟩
  · simp
  simp only [orFail_ok, ret_bind, run_op, serviceStep]
  rcases ω (n + 1 + 1) (.publish .discoveryStarted d) with e | ⟨⟩ <;> simp

theorem startSession_error_iff (ω : Oracle serviceSig) (discovery : Discovery) (σ : Store) :
    (∃ e, (run serviceStep ω 0 (startSession discovery) σ).result = .error e) ↔ ¬ Granted ω σ discovery := by
  rw [startSession_run]
  simp only [bind_eq, pure_eq, op_bind, ret_bind, run_op, serviceStep, Granted]
  rcases ω (0 + 10) (.daemonGet discovery.base.daemonId) with e | daemon
  · simp
  simp only [orFail_ok, ret_bind, Except.ok.injEq, exists_eq_left', ← List.isEmpty_iff]
  have hsent := sendDiscoveryRequest_ok_iff ω 11 discovery.base.daemonId
    ⟨ω 0 .newV4, discovery.base.discoveryType⟩ (σ.enqueue discovery (ω 0 .newV4))
  cases (σ.queue discovery.base.daemonId).isEmpty with
  | false => simp
  | true =>
    cases isPush daemon with
    | false => simp
    | true =>
      simp only [Bool.and_self, when_true, run_bind, forall_const, ← hsent]
      generalize run serviceStep ω 11 (sendDiscoveryRequest _ _) (σ.enqueue _ _) = o
      rcases o with ⟨e | ⟨⟩, m, τ⟩ <;> simp

theorem startSession_error_unchanged_iff (ω : Oracle serviceSig) (discovery : Discovery) (σ : Store) :
    ((∃ e, (run serviceStep ω 0 (startSession discovery) σ).result = .error e) →
      (run serviceStep ω 0 (startSession discovery) σ).state.sessions = σ.sessions ∧
      (run serviceStep ω 0 (startSession discovery) σ).state.daemonSessions = σ.daemonSessions ∧
      ∀ d, (run serviceStep ω 0 (startSession discovery) σ).state.queue d = σ.queue d) ↔
    Granted ω σ discovery := by
  rw [startSession_error_iff]
  obtain ⟨tx, posted, hstate, -⟩ := startSession_effect ω 0 discovery σ
  have hgrows : (run serviceStep ω 0 (startSession discovery) σ).state.queue discovery.base.daemonId =
      σ.queue discovery.base.daemonId ++ [ω 0 .newV4] := by
    simp [hstate, Store.queue, Store.enqueue, queue_insert]
  constructor
  · intro h
    by_contra hgranted
    have hsame := (h hgranted).2.2 discovery.base.daemonId
    rw [hgrows] at hsame
    simp at hsame
  · intro hgranted herror
    exact absurd hgranted herror

theorem startSession_unreachable_leaves_session :
    (run serviceStep (unreachable 1 0 .push) 0 (startSession (adHocFor 7)) Store.empty).result =
        .error .daemon ∧
      (run serviceStep (unreachable 1 0 .push) 0 (startSession (adHocFor 7)) Store.empty).state.queue 7 = [1] ∧
      (run serviceStep (unreachable 1 0 .push) 0 (startSession (adHocFor 7)) Store.empty).state.sessions ≠
        Store.empty.sessions := by
  refine ⟨rfl, rfl, by decide⟩

end VantageNet
