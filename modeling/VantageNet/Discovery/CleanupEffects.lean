import VantageNet.Discovery.Effects

/-!
What `cancel_session` and the two periodic cleanups do to the store.
-/

namespace VantageNet

open Interaction Interaction.Program

structure RequestsOk (ω : Oracle serviceSig) : Prop where
  initiate : ∀ n d request, ω n (.postInitiate d request) = .ok ()
  cancel : ∀ n d s, ω n (.postCancel d s) = .ok ()

def Store.drop (σ : Store) (d s : Uuid) : Store :=
  { σ with sessions := σ.sessions.erase s, daemonSessions := retainQueue σ.daemonSessions d s }

def PullDaemon (ω : Oracle serviceSig) (d : Uuid) : Prop :=
  ∃ n daemon, ω n (.daemonGet d) = .ok (some daemon) ∧ daemon.mode = .pull

inductive Cancelled (ω : Oracle serviceSig) (σ : Store) (s : Uuid) : Store → Prop
  | unchanged : Cancelled ω σ s σ
  | pending (p : DiscoveryUpdatePayload) (updateTx : List DiscoveryUpdatePayload)
      (hp : σ.sessions.get s = some p) (hphase : p.phase = .pending) :
      Cancelled ω σ s { σ.drop p.daemonId s with updateTx }
  | flagged (p : DiscoveryUpdatePayload) (hp : σ.sessions.get s = some p)
      (hphase : p.phase = .started ∨ p.phase = .scanning) (hpull : PullDaemon ω p.daemonId) :
      Cancelled ω σ s { σ with
        daemonPullCancellations := σ.daemonPullCancellations.insert p.daemonId (true, s) }
  | unreachable (p results : DiscoveryUpdatePayload) (updateTx : List DiscoveryUpdatePayload)
      (discoveries : HashMap Uuid Discovery) (hp : σ.sessions.get s = some p)
      (hphase : p.phase = .started ∨ p.phase = .scanning) (hbad : ¬ (RequestsOk ω ∧ BusOk ω))
      (hid : results.sessionId = s) (hsaved : Saved σ.discoveries discoveries p.daemonId results) :
      Cancelled ω σ s { σ.drop p.daemonId s with updateTx, discoveries }

theorem cancelUnreachable_effect (ω : Oracle serviceSig) (n : ℕ) (p : DiscoveryUpdatePayload) (s : Uuid)
    (σ : Store) (hp : σ.sessions.get s = some p) :
    ∃ results updateTx discoveries, results.sessionId = s ∧
      Saved σ.discoveries discoveries p.daemonId results ∧
      (run serviceStep ω n (cancelUnreachable p s) σ).state =
        { σ.drop p.daemonId s with updateTx, discoveries } := by
  simp only [cancelUnreachable, bind_eq, pure_eq, op_bind, ret_bind, run_op, serviceStep, hp]
  exact ⟨_, _, _, rfl, insertRow_saved _ _ _ rfl, insertRow_frame _ _ _⟩

theorem sendDiscoveryCancellation_run (ω : Oracle serviceSig) (n : ℕ) (daemon : Daemon) (s : Uuid) (σ : Store) :
    ∃ r k, run serviceStep ω n (sendDiscoveryCancellation daemon s) σ = ⟨r, k, σ⟩ ∧
      (RequestsOk ω ∧ BusOk ω → r = .ok ()) := by
  simp only [sendDiscoveryCancellation, bind_eq, op_bind, ret_bind, run_op, serviceStep]
  rcases hc : ω n (.postCancel daemon.id s) with e | ⟨⟩
  · exact ⟨_, _, rfl, fun h => by simp [h.1.cancel] at hc⟩
  · simp only [orFail_ok, ret_bind, run_op, serviceStep]
    rcases hp : ω (n + 1) (.publish .discoveryCancelled daemon.id) with e | ⟨⟩
    · exact ⟨_, _, rfl, fun h => by simp [h.2 _ _ _] at hp⟩
    · exact ⟨_, _, rfl, fun _ => rfl⟩

theorem cancelActive_effect (ω : Oracle serviceSig) (n : ℕ) (p : DiscoveryUpdatePayload) (s : Uuid) (σ : Store)
    (hp : σ.sessions.get s = some p) (hphase : p.phase = .started ∨ p.phase = .scanning) :
    Cancelled ω σ s (run serviceStep ω n (cancelActive p s) σ).state := by
  simp only [cancelActive, bind_eq, pure_eq, op_bind, ret_bind, run_op, serviceStep]
  rcases hd : ω n (.daemonGet p.daemonId) with e | _ | daemon
  · exact .unchanged
  · exact .unchanged
  simp only [orFail_ok, ret_bind]
  cases hmode : daemon.mode with
  | push =>
    obtain ⟨r, k, hrun, hok⟩ := sendDiscoveryCancellation_run ω (n + 1) daemon s σ
    simp only [run_bind, run_attempt, hrun]
    rcases r with e | ⟨⟩
    · obtain ⟨results, updateTx, discoveries, hid, hsaved, hstate⟩ :=
        cancelUnreachable_effect ω k p s σ hp
      rw [hstate]
      exact .unreachable p results updateTx discoveries hp hphase (fun h => (by cases hok h)) hid hsaved
    · exact .unchanged
  | pull => exact .flagged p hp hphase ⟨n, daemon, hd, hmode⟩

theorem cancelSession_effect (ω : Oracle serviceSig) (n : ℕ) (s : Uuid) (σ : Store) :
    Cancelled ω σ s (run serviceStep ω n (cancelSession s) σ).state := by
  simp only [cancelSession, getSession, bind_eq, pure_eq, op_bind, ret_bind, run_op, serviceStep]
  cases hp : σ.sessions.get s with
  | none => exact .unchanged
  | some p =>
    cases hphase : p.phase with
    | pending =>
      simp only [hphase, cancelPending, bind_eq, op_bind, ret_bind, run_op, serviceStep, run_ret]
      exact .pending p _ hp hphase
    | starting => simpa only [hphase] using .unchanged
    | started =>
      simp only [hphase]
      exact cancelActive_effect ω _ p s σ hp (.inl hphase)
    | scanning =>
      simp only [hphase]
      exact cancelActive_effect ω _ p s σ hp (.inr hphase)
    | complete => simpa only [hphase] using .unchanged
    | failed => simpa only [hphase] using .unchanged
    | cancelled => simpa only [hphase] using .unchanged

structure Removed (σ τ : Store) (done : List Uuid) : Prop where
  sessions : ∀ k, τ.sessions.get k = if k ∈ done then none else σ.sessions.get k
  queue : ∀ d, τ.queue d = (σ.queue d).filter (fun k => ¬ (k ∈ done ∧ σ.owner k = some d))
  posted : τ.posted = σ.posted

theorem Removed.refl (σ : Store) : Removed σ σ [] := ⟨by simp, by simp, rfl⟩

theorem Removed.gone {σ τ : Store} {done : List Uuid} (h : Removed σ τ done) {s : Uuid}
    (hs : τ.sessions.get s = none) : s ∈ done ∨ σ.sessions.get s = none := by
  by_cases hd : s ∈ done
  · exact .inl hd
  · exact .inr (by simpa [h.sessions, hd] using hs)

theorem Removed.found {σ τ : Store} {done : List Uuid} (h : Removed σ τ done) {s : Uuid}
    {p : DiscoveryUpdatePayload} (hp : τ.sessions.get s = some p) : s ∉ done ∧ σ.sessions.get s = some p := by
  have hs : s ∉ done := fun hd => by simp [h.sessions, hd] at hp
  exact ⟨hs, by simpa [h.sessions, hs] using hp⟩

theorem Removed.skip {σ τ : Store} {done : List Uuid} (h : Removed σ τ done) {s : Uuid}
    (hs : τ.sessions.get s = none) : Removed σ τ (done ++ [s]) := by
  have hown := h.gone hs
  refine ⟨fun k => ?_, fun d => ?_, h.posted⟩
  · rw [h.sessions]
    by_cases hk : k = s
    · subst hk
      rcases hown with hd | hd <;> simp [hd]
    · simp [hk]
  · rw [h.queue]
    apply List.filter_congr
    intro k hk
    by_cases hks : k = s
    · subst hks
      rcases hown with hd | hd <;> simp [hd, Store.owner]
    · simp [hks]

theorem Removed.drop {σ τ τ' : Store} {done : List Uuid} (h : Removed σ τ done) {s : Uuid}
    {p : DiscoveryUpdatePayload} (hp : τ.sessions.get s = some p) (hsessions : τ'.sessions = τ.sessions.erase s)
    (hqueue : τ'.daemonSessions = retainQueue τ.daemonSessions p.daemonId s) (hposted : τ'.posted = τ.posted) :
    Removed σ τ' (done ++ [s]) := by
  obtain ⟨hs, hfound⟩ := h.found hp
  have hown : σ.owner s = some p.daemonId := by simp [Store.owner, hfound]
  refine ⟨fun k => ?_, fun d => ?_, hposted.trans h.posted⟩
  · simp only [hsessions, get_erase, h.sessions, List.mem_append, List.mem_singleton]
    by_cases hk : k = s <;> simp [hk]
  · have hq := h.queue d
    simp only [Store.queue, hqueue, queue_retain] at hq ⊢
    by_cases hd : d = p.daemonId
    · subst hd
      simp only [↓reduceIte, hq, List.filter_filter]
      apply List.filter_congr
      intro k hk
      by_cases hks : k = s
      · simp [hks, hown]
      · simp [hks]
    · simp only [hd, ↓reduceIte, hq]
      apply List.filter_congr
      intro k hk
      by_cases hks : k = s
      · simp [hks, hown, Ne.symm hd, hs]
      · simp [hks]

structure Aged (σ τ : Store) (done : List Uuid) : Prop extends Removed σ τ done where
  cancellations : ∀ d, (∀ k ∈ done, σ.owner k ≠ some d) →
    τ.daemonPullCancellations.get d = σ.daemonPullCancellations.get d
  discoveries : τ.discoveries = σ.discoveries

theorem removeOld_effect (ω : Oracle serviceSig) (σ : Store) (hkeyed : σ.Keyed) (s : Uuid) (done : List Uuid)
    (n : ℕ) (τ : Store) (h : Aged σ τ done) :
    (run serviceStep ω n (removeOld s) τ).result = .ok () ∧
      Aged σ (run serviceStep ω n (removeOld s) τ).state (done ++ [s]) := by
  simp only [removeOld, bind_eq, pure_eq, op_bind, ret_bind, run_op, serviceStep]
  cases hp : τ.sessions.get s with
  | none =>
    simp only [erase_of_get_eq_none hp, run_ret, true_and]
    exact ⟨h.toRemoved.skip hp, fun d hd => h.cancellations d (fun k hk => hd k (by simp [hk])), h.discoveries⟩
  | some p =>
    have hfound := (h.toRemoved.found hp).2
    simp only [run_op, serviceStep, run_ret, hkeyed s p hfound, true_and]
    refine ⟨h.toRemoved.drop hp rfl rfl rfl, fun d hd => ?_, h.discoveries⟩
    have hne : d ≠ p.daemonId := by
      rintro rfl
      exact hd s (by simp) (by simp [Store.owner, hfound])
    rw [get_erase, if_neg hne]
    exact h.cancellations d (fun k hk => hd k (by simp [hk]))

theorem cleanupOldSessions_effect (ω : Oracle serviceSig) (n : ℕ) (maxAgeHours : ℤ) (σ : Store)
    (hkeyed : σ.Keyed) :
    ∃ done, (∀ s, s ∈ done ↔ ∃ p, σ.sessions.get s = some p ∧
        isOld (ω n .utcNow - hours maxAgeHours) p = true) ∧
      Aged σ (run serviceStep ω n (cleanupOldSessions maxAgeHours) σ).state done := by
  simp only [cleanupOldSessions, bind_eq, op_bind, ret_bind, run_op, serviceStep]
  generalize hentries : HashMap.iter σ.sessions _ = entries
  refine ⟨_, fun s => ?_, (run_forEach serviceStep ω (fun done τ => Aged σ τ done) removeOld _
    (fun s _ done n τ h => removeOld_effect ω σ hkeyed s done n τ h) [] _ σ
    ⟨.refl σ, by simp, rfl⟩).2⟩
  simp only [List.nil_append, List.mem_map, List.mem_filter, Prod.exists, exists_and_right,
    exists_eq_right, ← hentries, mem_iter]

def Store.Stalls (σ : Store) (now : Instant) (s : Uuid) : Prop :=
  ∃ p, σ.sessions.get s = some p ∧ p.phase.isTerminal = false ∧
    isStalled now (σ.sessionLastUpdated.get s) p = true

theorem stalledSessions_run (ω : Oracle serviceSig) (now : Instant) (σ : Store)
    (entries : List (Uuid × DiscoveryUpdatePayload)) (n : ℕ) :
    ∃ k, run serviceStep ω n (stalledSessions now entries) σ =
      ⟨.ok ((entries.filter (fun e => !e.2.phase.isTerminal &&
        isStalled now (σ.sessionLastUpdated.get e.1) e.2)).map Prod.fst), k, σ⟩ := by
  induction entries generalizing n with
  | nil => exact ⟨n, rfl⟩
  | cons e entries ih =>
    rcases e with ⟨s, p⟩
    cases ht : p.phase.isTerminal with
    | true =>
      obtain ⟨k, hk⟩ := ih n
      exact ⟨k, by simp [stalledSessions, ht, hk]⟩
    | false =>
      obtain ⟨k, hk⟩ := ih (n + 1)
      refine ⟨k, ?_⟩
      simp only [stalledSessions, ht, Bool.false_eq_true, ↓reduceIte, bind_eq, pure_eq, op_bind,
        ret_bind, run_op, serviceStep, run_bind, hk, run_ret]
      by_cases hst : isStalled now (σ.sessionLastUpdated.get s) p = true <;> simp [ht, hst]

structure Failed (σ τ : Store) (done : List Uuid) : Prop extends Removed σ τ done where
  cancellations : ∀ d, τ.daemonPullCancellations.get d = σ.daemonPullCancellations.get d ∨
    ∃ b, ∃ k ∈ done, σ.daemonPullCancellations.get d = some (b, k) ∧ k ∈ σ.sessions
  history : ∀ s, histories τ.discoveries s ≤
    histories σ.discoveries s + if s ∈ done ∧ s ∈ σ.sessions then 1 else 0

theorem Failed.extend {σ τ : Store} {done : List Uuid} (h : Failed σ τ done) (s : Uuid) :
    (∀ d, τ.daemonPullCancellations.get d = σ.daemonPullCancellations.get d ∨
      ∃ b, ∃ k ∈ done ++ [s], σ.daemonPullCancellations.get d = some (b, k) ∧ k ∈ σ.sessions) ∧
    ∀ k, histories τ.discoveries k ≤
      histories σ.discoveries k + if k ∈ done ++ [s] ∧ k ∈ σ.sessions then 1 else 0 := by
  refine ⟨fun d => (h.cancellations d).imp_right ?_, fun k => (h.history k).trans ?_⟩
  · rintro ⟨b, k, hk, hflag⟩
    exact ⟨b, k, by simp [hk], hflag⟩
  · by_cases hk : k ∈ done ∧ k ∈ σ.sessions
    · simp [hk]
    · simp [hk]

theorem Failed.history_saved {σ τ : Store} {done : List Uuid} (h : Failed σ τ done) {s d : Uuid}
    (hs : s ∉ done) (hlive : s ∈ σ.sessions) {after : HashMap Uuid Discovery} {results : DiscoveryUpdatePayload}
    (hsaved : Saved τ.discoveries after d results) (hid : results.sessionId = s) (k : Uuid) :
    histories after k ≤ histories σ.discoveries k + if k ∈ done ++ [s] ∧ k ∈ σ.sessions then 1 else 0 := by
  have hk := h.history k
  have hnew := hsaved.histories_le k
  rw [hid] at hnew
  by_cases hks : s = k
  · subst hks
    simp only [hs, hlive, List.mem_append, List.mem_singleton, ↓reduceIte, false_and, or_true,
      and_self] at hk hnew ⊢
    omega
  · simp only [hks, Ne.symm hks, List.mem_append, List.mem_singleton, or_false, ↓reduceIte] at hk hnew ⊢
    omega

theorem removeStalled_effect (ω : Oracle serviceSig) (now : Instant) (σ : Store) (hkeyed : σ.Keyed) (s : Uuid)
    (done : List Uuid) (n : ℕ) (τ : Store) (h : Failed σ τ done) :
    (run serviceStep ω n (removeStalled now s) τ).result = .ok () ∧
      Failed σ (run serviceStep ω n (removeStalled now s) τ).state (done ++ [s]) := by
  obtain ⟨hcancel, hhistory⟩ := h.extend s
  simp only [removeStalled, bind_eq, pure_eq, op_bind, ret_bind, run_op, serviceStep]
  cases hp : τ.sessions.get s with
  | none =>
    simp only [erase_of_get_eq_none hp, run_ret, true_and]
    exact ⟨h.toRemoved.skip hp, hcancel, hhistory⟩
  | some p =>
    obtain ⟨hs, hfound⟩ := h.toRemoved.found hp
    have hlive : s ∈ σ.sessions := (mem_iff_get _ _).mpr ⟨p, hfound⟩
    simp only [run_op, serviceStep]
    cases hflag : namesSession (τ.daemonPullCancellations.get p.daemonId) s with
    | false =>
      simp only [when_false, ret_bind, run_op, serviceStep, run_ret, true_and]
      rw [insertRow_frame]
      exact ⟨h.toRemoved.drop hp rfl rfl rfl, hcancel,
        h.history_saved hs hlive (insertRow_saved _ _ _ rfl) (hkeyed s p hfound)⟩
    | true =>
      simp only [when_true, ret_bind, op_bind, run_op, serviceStep, run_ret, true_and]
      rw [insertRow_frame]
      refine ⟨h.toRemoved.drop hp rfl rfl rfl, fun d => ?_,
        h.history_saved hs hlive (insertRow_saved _ _ _ rfl) (hkeyed s p hfound)⟩
      by_cases hd : d = p.daemonId
      · rcases hcancel d with hsame | hcleared
        · rw [hd] at hsame ⊢
          rw [hsame] at hflag
          rcases hentry : σ.daemonPullCancellations.get p.daemonId with _ | ⟨b, k⟩
          · simp [hentry, namesSession] at hflag
          · obtain rfl : k = s := by simpa [hentry, namesSession] using hflag
            exact .inr ⟨b, k, by simp, rfl, hlive⟩
        · exact .inr hcleared
      · rw [get_erase, if_neg hd]
        exact hcancel d

theorem cleanupStalledSessions_effect (ω : Oracle serviceSig) (n : ℕ) (σ : Store) (hkeyed : σ.Keyed) :
    ∃ done, (∀ s, s ∈ done ↔ σ.Stalls (ω n .utcNow) s) ∧
      Failed σ (run serviceStep ω n cleanupStalledSessions σ).state done := by
  simp only [cleanupStalledSessions, bind_eq, op_bind, ret_bind, run_op, serviceStep]
  generalize hentries : HashMap.iter σ.sessions _ = entries
  obtain ⟨k, hrun⟩ := stalledSessions_run ω (ω n .utcNow) σ entries (n + 1 + 1 + 1 + 1 + 1 + 1)
  simp only [run_bind, hrun]
  refine ⟨_, fun s => ?_, (run_forEach serviceStep ω (fun done τ => Failed σ τ done) (removeStalled _) _
    (fun s _ done n τ h => removeStalled_effect ω _ σ hkeyed s done n τ h) [] _ σ
    ⟨.refl σ, fun d => .inl rfl, by simp⟩).2⟩
  simp only [List.nil_append, List.mem_map, List.mem_filter, Prod.exists, exists_and_right,
    exists_eq_right, ← hentries, mem_iter, Store.Stalls, Bool.and_eq_true, Bool.not_eq_true']

end VantageNet
