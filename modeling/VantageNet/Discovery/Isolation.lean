import VantageNet.Discovery.Handlers

/-!
What the update endpoint lets one daemon do to the others. The two checks compare the
payload with the caller, never the stored session with the caller.
-/

namespace VantageNet

open Interaction Interaction.Program

structure OnlyOwn (me : Uuid) (σ τ : Store) : Prop where
  sessions : ∀ s p, σ.sessions.get s = some p → p.daemonId ≠ me → τ.sessions.get s = some p
  created : ∀ s p, σ.sessions.get s = none → τ.sessions.get s = some p → p.daemonId = me
  queues : ∀ d, d ≠ me → τ.daemonSessions.get d = σ.daemonSessions.get d
  cancellations : ∀ d, d ≠ me → τ.daemonPullCancellations.get d = σ.daemonPullCancellations.get d
  kept : ∀ id r, σ.discoveries.get id = some r → τ.discoveries.get id = some r
  recorded : ∀ id r, τ.discoveries.get id = some r → σ.discoveries.get id = some r ∨
    r.base.daemonId = me ∧ ∃ results, r.base.runType = .historical results ∧
      ∀ p, σ.sessions.get results.sessionId = some p → p.daemonId = me

theorem OnlyOwn.refl (me : Uuid) (σ : Store) : OnlyOwn me σ σ :=
  ⟨fun _ _ h _ => h, fun _ _ h h' => by simp [h] at h', fun _ _ => rfl, fun _ _ => rfl, fun _ _ h => h,
    fun _ _ h => .inl h⟩

def Store.Owns (σ : Store) (me s : Uuid) : Prop := ∀ p, σ.sessions.get s = some p → p.daemonId = me

theorem get_retainQueue_of_ne (m : HashMap Uuid (List Uuid)) {d e : Uuid} (s : Uuid) (h : e ≠ d) :
    (retainQueue m d s).get e = m.get e := by
  unfold retainQueue
  split
  · rfl
  · rw [get_insert, if_neg h]

theorem OnlyOwn.receive {σ : Store} {update : DiscoveryUpdatePayload} (now : Instant)
    (hown : σ.Owns update.daemonId update.sessionId) : OnlyOwn update.daemonId σ (σ.receive update now) := by
  refine ⟨fun s p hp hne => ?_, fun s p hnone hp => ?_, fun d hd => ?_, fun _ _ => rfl, fun _ _ h => h,
    fun _ _ h => .inl h⟩
  · rw [Store.receive, get_insert]
    split_ifs with hs
    · subst hs
      exact absurd (hown p hp) hne
    · exact hp
  · simp only [Store.receive, get_insert] at hp
    split_ifs at hp with hs
    · cases hp
      rfl
    · simp [hnone] at hp
  · simp only [Store.receive]
    split_ifs
    · rfl
    · rw [get_insert, if_neg hd]

/-- The session that moves up is the caller's, or there is nothing to reset about it. -/
def Store.NextOwn (σ : Store) (me s : Uuid) : Prop :=
  ∀ k p, σ.next me s = some k → σ.sessions.get k = some p → p.daemonId = me ∨ p.phase = .pending

theorem next_receive (σ : Store) (update : DiscoveryUpdatePayload) (now : Instant) :
    (σ.receive update now).next update.daemonId update.sessionId =
      σ.next update.daemonId update.sessionId := by
  simp only [Store.next, Store.queue, Store.receive]
  split_ifs
  · rfl
  · rw [queue_insert, if_pos rfl, List.filter_append]
    simp

def Store.finish (σ : Store) (update : DiscoveryUpdatePayload) (now : Instant)
    (discoveries : HashMap Uuid Discovery) (posted : List (Uuid × Uuid)) : Store :=
  { ((σ.receive update now).record update.daemonId discoveries).handOver
    update.daemonId update.sessionId with posted }

theorem get_finish (σ : Store) (update : DiscoveryUpdatePayload) (now : Instant)
    (discoveries : HashMap Uuid Discovery) (posted : List (Uuid × Uuid)) (k : Uuid) :
    (σ.finish update now discoveries posted).sessions.get k = if k = update.sessionId then none else
      if σ.next update.daemonId update.sessionId = some k then
        (σ.sessions.get k).map (fun p => { p with phase := .pending }) else σ.sessions.get k := by
  change HashMap.get ((promote (σ.receive update now).sessions
    ((σ.receive update now).next update.daemonId update.sessionId)).erase update.sessionId) k = _
  rw [get_erase, get_promote, next_receive, Store.receive, get_insert]
  split_ifs <;> rfl

theorem Saved.onlyOwn {before after : HashMap Uuid Discovery} {me : Uuid} {results : DiscoveryUpdatePayload}
    (h : Saved before after me results) (id : Uuid) (r : Discovery) :
    (before.get id = some r → after.get id = some r) ∧
      (after.get id = some r → before.get id = some r ∨
        r.base.daemonId = me ∧ r.base.runType = .historical results) := by
  rcases h with rfl | ⟨row, hnew, hdaemon, htype, rfl⟩
  · exact ⟨fun h => h, .inl⟩
  · rw [get_insert]
    split_ifs with hid
    · subst hid
      rw [← get_eq_none] at hnew
      refine ⟨fun h => by simp [hnew] at h, fun h => ?_⟩
      cases h
      exact .inr ⟨hdaemon, htype⟩
    · exact ⟨fun h => h, .inl⟩

theorem OnlyOwn.finish {σ : Store} {update : DiscoveryUpdatePayload} (now : Instant)
    {discoveries : HashMap Uuid Discovery} (posted : List (Uuid × Uuid))
    (hsaved : Saved σ.discoveries discoveries update.daemonId update)
    (hown : σ.Owns update.daemonId update.sessionId) (hnext : σ.NextOwn update.daemonId update.sessionId) :
    OnlyOwn update.daemonId σ (σ.finish update now discoveries posted) := by
  refine ⟨fun s p hp hne => ?_, fun s p hnone hp => ?_, fun d hd => ?_, fun d hd => ?_,
    fun id r => (hsaved.onlyOwn id r).1, fun id r hr => ?_⟩
  · rw [get_finish]
    split_ifs with hs hmoves
    · subst hs
      exact absurd (hown p hp) hne
    · have hphase := (hnext s p hmoves hp).resolve_left hne
      rw [hp, Option.map_some, ← hphase]
    · exact hp
  · rw [get_finish, hnone] at hp
    split_ifs at hp
    cases hp
  · change (retainQueue (σ.receive update now).daemonSessions update.daemonId update.sessionId).get d = _
    rw [get_retainQueue_of_ne _ _ hd]
    exact (OnlyOwn.receive now hown).queues d hd
  · change HashMap.get (σ.daemonPullCancellations.erase update.daemonId) d = _
    rw [get_erase, if_neg hd]
  · exact ((hsaved.onlyOwn id r).2 hr).imp_right (fun h => ⟨h.1, update, h.2, hown⟩)

theorem update_onlyOwn_iff (ω : Oracle serviceSig) (hbus : BusOk ω) (networkId me : Uuid)
    (update : DiscoveryUpdatePayload) (σ : Store) :
    OnlyOwn me σ (run serviceStep ω 0 (receiveDiscoveryUpdate networkId me update) σ).state ↔
      update.networkId ≠ networkId ∨ update.daemonId ≠ me ∨ σ.Owns me update.sessionId ∧
        (update.phase.isTerminal = true → σ.NextOwn me update.sessionId) := by
  unfold receiveDiscoveryUpdate
  by_cases hnetwork : update.networkId = networkId
  · by_cases hdaemon : update.daemonId = me
    · subst hdaemon
      simp only [hnetwork, ne_eq, not_true_eq_false, ↓reduceIte, false_or]
      have heffect := updateSession_effect ω update σ
      generalize (run serviceStep ω 0 (updateSession update) σ).state = τ at heffect ⊢
      cases heffect with
      | progressed _ now hphase =>
        simp only [hphase, Bool.false_eq_true, false_implies, and_true]
        refine ⟨fun h p hp => ?_, OnlyOwn.receive now⟩
        by_contra hne
        have hkept := h.sessions _ p hp hne
        rw [Store.receive, get_insert, if_pos rfl] at hkept
        cases hkept
        exact hne rfl
      | recorded _ now discoveries hphase hnot hsaved => exact absurd hbus hnot
      | finished _ now discoveries posted hphase hsaved hposted =>
        refine ⟨fun h => ⟨fun p hp => ?_, fun _ k p hk hp => ?_⟩,
          fun h => .finish now posted hsaved h.1 (h.2 hphase)⟩
        · by_contra hne
          have hkept := h.sessions _ p hp hne
          change (σ.finish update now discoveries posted).sessions.get _ = _ at hkept
          rw [get_finish, if_pos rfl] at hkept
          cases hkept
        · by_cases hne : p.daemonId = update.daemonId
          · exact .inl hne
          · have hkept := h.sessions k p hp hne
            have hks : k ≠ update.sessionId := by
              simpa using (List.mem_filter.mp (List.mem_of_head? hk)).2
            change (σ.finish update now discoveries posted).sessions.get _ = _ at hkept
            rw [get_finish, if_neg hks, if_pos hk, hp, Option.map_some] at hkept
            right
            rw [← Option.some.inj hkept]
    · simpa [hnetwork, hdaemon] using OnlyOwn.refl me σ
  · simpa [hnetwork] using OnlyOwn.refl me σ

theorem update_onlyOwn_own_session :
    OnlyOwn 7 ([⟨.startSession (adHocFor 7), calm 1 0 .push⟩].foldl Store.serve .empty)
      (run serviceStep (calm 3 0 .push) 0 (receiveDiscoveryUpdate 0 7 (reportOf 1 7 .scanning))
        ([⟨.startSession (adHocFor 7), calm 1 0 .push⟩].foldl Store.serve .empty)).state := by
  refine (update_onlyOwn_iff (calm 3 0 .push) (fun _ _ _ => rfl) 0 7 (reportOf 1 7 .scanning) _).mpr
    (.inr (.inr ⟨fun p hp => ?_, fun h => nomatch h⟩))
  cases hp
  rfl

theorem update_ends_session_of_other_daemon :
    (([⟨.startSession (adHocFor 8), calm 1 0 .push⟩].foldl Store.serve .empty).sessions.get 1).map
        DiscoveryUpdatePayload.daemonId = some 8 ∧
    (run serviceStep (calm 3 0 .push) 0 (receiveDiscoveryUpdate 0 7 (reportOf 1 7 .complete))
      ([⟨.startSession (adHocFor 8), calm 1 0 .push⟩].foldl Store.serve .empty)).result = .ok () ∧
    (run serviceStep (calm 3 0 .push) 0 (receiveDiscoveryUpdate 0 7 (reportOf 1 7 .complete))
      ([⟨.startSession (adHocFor 8), calm 1 0 .push⟩].foldl Store.serve .empty)).state.sessions.get 1 = none ∧
    (run serviceStep (calm 3 0 .push) 0 (receiveDiscoveryUpdate 0 7 (reportOf 1 7 .complete))
      ([⟨.startSession (adHocFor 8), calm 1 0 .push⟩].foldl Store.serve .empty)).state.queue 8 = [1] :=
  ⟨rfl, rfl, rfl, by decide⟩

end VantageNet
