import VantageNet.Discovery.Sessions

/-!
What a session function run to completion does to the store, whatever the database,
the daemon and the event bus answer.
-/

namespace VantageNet

open Interaction Interaction.Program

def Store.owner (σ : Store) (s : Uuid) : Option Uuid :=
  (σ.sessions.get s).map DiscoveryUpdatePayload.daemonId

def Store.live (σ : Store) (s : Uuid) : Bool := (σ.sessions.get s).isSome

def Store.Keyed (σ : Store) : Prop := ∀ s p, σ.sessions.get s = some p → p.sessionId = s

theorem queue_insert (m : HashMap Uuid (List Uuid)) (d e : Uuid) (q : List Uuid) :
    (HashMap.get (m.insert d q) e).getD [] = if e = d then q else (m.get e).getD [] := by
  rw [get_insert]
  split_ifs <;> rfl

theorem queue_retain (m : HashMap Uuid (List Uuid)) (d e s : Uuid) :
    ((retainQueue m d s).get e).getD [] =
      if e = d then ((m.get d).getD []).filter (fun k => k ≠ s) else (m.get e).getD [] := by
  unfold retainQueue
  cases hq : m.get d with
  | none =>
    split_ifs with he
    · simp [he, hq]
    · rfl
  | some q => simpa using queue_insert m d e _

def Saved (before after : HashMap Uuid Discovery) (daemonId : Uuid) (results : DiscoveryUpdatePayload) : Prop :=
  after = before ∨ ∃ r : Discovery, r.id ∉ before ∧ r.base.daemonId = daemonId ∧
    r.base.runType = .historical results ∧ after = before.insert r.id r

def isHistoryOf (s : Uuid) (r : Discovery) : Bool :=
  match r.base.runType with
  | .historical results => results.sessionId = s
  | _ => false

def histories (discoveries : HashMap Uuid Discovery) (s : Uuid) : ℕ :=
  discoveries.entries.countP (fun e => isHistoryOf s e.2)

theorem Saved.histories_le {before after : HashMap Uuid Discovery} {d : Uuid} {results : DiscoveryUpdatePayload}
    (h : Saved before after d results) (s : Uuid) :
    histories after s ≤ histories before s + if results.sessionId = s then 1 else 0 := by
  rcases h with rfl | ⟨r, hid, -, hr, rfl⟩
  · exact Nat.le_add_right _ _
  · have hmatch : isHistoryOf s r = true ↔ results.sessionId = s := by simp [isHistoryOf, hr]
    simp only [histories, Finmap.entries_insert_of_notMem hid, Multiset.countP_cons, hmatch, le_refl]

theorem insertRow_frame (σ : Store) (r : Discovery) (a : Except Error Unit) :
    (σ.insertRow r a).2 = { σ with discoveries := (σ.insertRow r a).2.discoveries } := by
  unfold Store.insertRow
  split
  · rfl
  · split_ifs <;> rfl

theorem insertRow_saved (σ : Store) (r : Discovery) (a : Except Error Unit) {results : DiscoveryUpdatePayload}
    (hr : r.base.runType = .historical results) :
    Saved σ.discoveries (σ.insertRow r a).2.discoveries r.base.daemonId results := by
  unfold Store.insertRow
  split
  · exact .inl rfl
  · split_ifs with hid
    · exact .inl rfl
    · exact .inr ⟨r, hid, rfl, hr, rfl⟩

/-- The event bus only logs what its subscribers make of an event: `publish` always returns `Ok`. -/
def BusOk (ω : Oracle serviceSig) : Prop := ∀ n operation id, ω n (.publish operation id) = .ok ()

def PushDaemon (ω : Oracle serviceSig) (d : Uuid) : Prop :=
  ∀ n, ∃ daemon, ω n (.daemonGet d) = .ok (some daemon) ∧ daemon.mode = .push

theorem PushDaemon.isPush {ω : Oracle serviceSig} {d : Uuid} (h : PushDaemon ω d) {n : ℕ} {daemon : Option Daemon}
    (hd : ω n (.daemonGet d) = .ok daemon) : isPush daemon = true := by
  obtain ⟨target, htarget, hmode⟩ := h n
  rw [hd] at htarget
  cases htarget
  simp [VantageNet.isPush, hmode]

theorem PushDaemon.not_error {ω : Oracle serviceSig} {d : Uuid} {n : ℕ} {e : Error}
    (hd : ω n (.daemonGet d) = .error e) : ¬ PushDaemon ω d := by
  intro h
  obtain ⟨target, htarget, -⟩ := h n
  cases hd.symm.trans htarget

theorem sendDiscoveryRequest_effect (ω : Oracle serviceSig) (n : ℕ) (d : Uuid)
    (request : DaemonDiscoveryRequest) (σ : Store) :
    ¬ PushDaemon ω d ∧ (run serviceStep ω n (sendDiscoveryRequest d request) σ).state = σ ∨
      (run serviceStep ω n (sendDiscoveryRequest d request) σ).state =
        { σ with posted := (d, request.sessionId) :: σ.posted } := by
  simp only [sendDiscoveryRequest, bind_eq, op_bind, ret_bind, run_op, serviceStep]
  rcases hd : ω n (.daemonGet d) with e | _ | daemon
  · exact .inl ⟨PushDaemon.not_error hd, rfl⟩
  · exact .inl ⟨fun h => (nomatch h.isPush hd), rfl⟩
  · right
    simp only [orFail_ok, ret_bind, run_op, serviceStep]
    rcases ω (n + 1) (.postInitiate d request) with e | ⟨⟩
    · rfl
    · simp only [orFail_ok, ret_bind, run_op, serviceStep]
      rcases ω (n + 1 + 1) (.publish .discoveryStarted d) with e | ⟨⟩ <;> rfl

def Store.enqueue (σ : Store) (discovery : Discovery) (s : Uuid) : Store := { σ with
  sessions := σ.sessions.insert s (DiscoveryUpdatePayload.new s discovery.base.daemonId
    discovery.base.networkId discovery.base.discoveryType)
  daemonSessions :=
    σ.daemonSessions.insert discovery.base.daemonId (σ.queue discovery.base.daemonId ++ [s]) }

theorem startSession_run (ω : Oracle serviceSig) (n : ℕ) (discovery : Discovery) (σ : Store) :
    run serviceStep ω n (startSession discovery) σ =
      run serviceStep ω (n + 10)
        (do
          let daemonIsPush := isPush (← orFail (← daemonGet discovery.base.daemonId))
          when ((σ.queue discovery.base.daemonId).isEmpty && daemonIsPush)
            (sendDiscoveryRequest discovery.base.daemonId ⟨ω n .newV4, discovery.base.discoveryType⟩)
          let sessionPayload := DiscoveryUpdatePayload.new (ω n .newV4) discovery.base.daemonId
            discovery.base.networkId discovery.base.discoveryType
          broadcast sessionPayload
          return sessionPayload)
        (σ.enqueue discovery (ω n .newV4)) := by
  have hidle : (!((σ.daemonSessions.get discovery.base.daemonId).map (fun q => !q.isEmpty)).getD false) =
      (σ.queue discovery.base.daemonId).isEmpty := by
    unfold Store.queue
    cases σ.daemonSessions.get discovery.base.daemonId <;> simp
  simp only [startSession, bind_eq, pure_eq, op_bind, ret_bind, run_op, serviceStep, hidle]
  rfl

theorem startSession_effect (ω : Oracle serviceSig) (n : ℕ) (discovery : Discovery) (σ : Store) :
    ∃ tx posted, (run serviceStep ω n (startSession discovery) σ).state =
        { σ.enqueue discovery (ω n .newV4) with updateTx := tx, posted } ∧
      (posted = σ.posted ∧ (σ.queue discovery.base.daemonId = [] → ¬ PushDaemon ω discovery.base.daemonId) ∨
        σ.queue discovery.base.daemonId = [] ∧
          posted = (discovery.base.daemonId, ω n .newV4) :: σ.posted) := by
  rw [startSession_run]
  simp only [bind_eq, pure_eq, op_bind, ret_bind, run_op, serviceStep]
  rcases hd : ω (n + 10) (.daemonGet discovery.base.daemonId) with e | daemon
  · exact ⟨_, _, rfl, .inl ⟨rfl, fun _ => PushDaemon.not_error hd⟩⟩
  simp only [orFail_ok, ret_bind]
  cases hsend : (σ.queue discovery.base.daemonId).isEmpty && isPush daemon with
  | false =>
    refine ⟨_, _, rfl, .inl ⟨rfl, fun hempty hpush => ?_⟩⟩
    simp [hempty, hpush.isPush hd] at hsend
  | true =>
    have hempty : σ.queue discovery.base.daemonId = [] := by
      rw [Bool.and_eq_true, List.isEmpty_iff] at hsend
      exact hsend.1
    have hsent := sendDiscoveryRequest_effect ω (n + 10 + 1) discovery.base.daemonId
      ⟨ω n .newV4, discovery.base.discoveryType⟩ (σ.enqueue discovery (ω n .newV4))
    simp only [when_true, run_bind]
    generalize run serviceStep ω (n + 10 + 1) (sendDiscoveryRequest discovery.base.daemonId
      ⟨ω n .newV4, discovery.base.discoveryType⟩) (σ.enqueue discovery (ω n .newV4)) = o at hsent ⊢
    rcases o with ⟨e | ⟨⟩, m, τ⟩ <;> rcases hsent with ⟨hpush, rfl⟩ | rfl
    · exact ⟨_, _, rfl, .inl ⟨rfl, fun _ => hpush⟩⟩
    · exact ⟨_, _, rfl, .inr ⟨hempty, rfl⟩⟩
    · exact ⟨_, _, rfl, .inl ⟨rfl, fun _ => hpush⟩⟩
    · exact ⟨_, _, rfl, .inr ⟨hempty, rfl⟩⟩

end VantageNet
