import VantageNet.Discovery.WorkOrder

/-!
The service together with the daemons that poll it. A daemon runs at most one session,
waits for one reply at a time, and takes a cancellation for whatever it is running when
the reply arrives (`daemon/runtime/service.rs`, `daemon/discovery/manager.rs`). The reply
carries only a flag; `cancel` also keeps which session it was meant for.
-/

namespace VantageNet

open Interaction Interaction.Program

structure WorkReply where
  next : Option Uuid
  cancel : Option Uuid

structure System where
  store : Store
  running : Uuid → Option Uuid
  replies : Uuid → Option WorkReply
  /-- The sessions that cancellations were meant for and those they were applied to. -/
  applied : List (Uuid × Uuid)

def System.start : System := ⟨Store.empty, fun _ => none, fun _ => none, []⟩

inductive Move where
  | call (e : Served)
  | poll (daemonNetworkId daemonId : Uuid) (request : DaemonHeartbeatPayload) (answers : Oracle serviceSig)
  | deliver (daemonId : Uuid)
  | lose (daemonId : Uuid)
  | finish (daemonId : Uuid)

def Store.reply (σ : Store) (d : Uuid) :
    Except Error (Option DiscoveryUpdatePayload × Bool) → Option WorkReply
  | .error _ => none
  | .ok (nextSession, cancel) =>
    some ⟨nextSession.map DiscoveryUpdatePayload.sessionId, if cancel then some (σ.flag d).2 else none⟩

/-- `cancel_current_session` signals the task and returns, so the daemon is still running the
session when it looks at the work it was offered. -/
def System.receive (S : System) (d : Uuid) (reply : WorkReply) : System :=
  { S with
    running := Function.update S.running d ((S.running d).orElse (fun _ => reply.next))
    replies := Function.update S.replies d none
    applied := match reply.cancel, S.running d with
      | some target, some session => (target, session) :: S.applied
      | _, _ => S.applied }

def System.step (S : System) : Move → System
  | .call e => { S with store := S.store.serve e }
  | .poll networkId d request ω =>
    match S.replies d with
    | some _ => S
    | none =>
      let o := run serviceStep ω 0 (receiveWorkRequest networkId d request) S.store
      { S with store := o.state, replies := Function.update S.replies d (S.store.reply d o.result) }
  | .deliver d =>
    match S.replies d with
    | none => S
    | some reply => S.receive d reply
  | .lose d => { S with replies := Function.update S.replies d none }
  | .finish d => { S with running := Function.update S.running d none }

def Store.Flags (σ : Store) (d s : Uuid) : Prop := ∀ b k, σ.daemonPullCancellations.get d = some (b, k) → k = s

/-- The moves that clear, overwrite or hand out a cancellation only where it is meant. -/
def Careful (S : System) : Move → Prop
  | .call e =>
    match e.call with
    | .updateSession update => update.phase.isTerminal = true →
        S.store.Flags update.daemonId update.sessionId
    | .cancelSession s => ∀ p, S.store.sessions.get s = some p → p.phase = .started ∨ p.phase = .scanning →
        PullDaemon e.answers p.daemonId → S.store.Flags p.daemonId s
    | .cleanupOldSessions maxAgeHours => ∀ s p, S.store.sessions.get s = some p →
        isOld (e.answers 0 .utcNow - hours maxAgeHours) p = true →
        ∀ b k, S.store.daemonPullCancellations.get p.daemonId = some (b, k) → ∀ q, S.store.sessions.get k = some q →
          isOld (e.answers 0 .utcNow - hours maxAgeHours) q = true
    | .pullCancellationForDaemon _ => False
    | _ => True
  | .poll _ d _ ω => BusOk ω ∧ ∀ s, S.running d = some s → S.store.Flags d s
  | _ => True

def Store.Ended (σ : Store) (s : Uuid) : Prop := ∀ p, σ.sessions.get s = some p → p.phase.isTerminal = true

structure System.Valid (S : System) : Prop where
  keyed : S.store.Keyed
  replies : ∀ d reply s t, S.replies d = some reply → reply.cancel = some s → S.running d = some t → s = t
  applied : ∀ hit ∈ S.applied, hit.1 = hit.2

theorem terminal_cancellation {σ τ : Store} {d s t e : Uuid} (hflags : σ.Flags e t) (hended : τ.Ended t)
    (hcleared : τ.daemonPullCancellations = σ.daemonPullCancellations.erase e)
    (hflag : σ.daemonPullCancellations.get d = some (true, s)) :
    τ.daemonPullCancellations.get d = some (true, s) ∨ τ.Ended s := by
  by_cases hd : d = e
  · subst hd
    obtain rfl := hflags true s hflag
    exact .inr hended
  · left
    rw [hcleared, get_erase, if_neg hd]
    exact hflag

theorem aged_cancellation {σ τ : Store} {done : List Uuid} (haged : Aged σ τ done) {d s : Uuid}
    (hnamed : ∀ k ∈ done, σ.owner k = some d → ∀ q, σ.sessions.get s = some q → s ∈ done)
    (hflag : σ.daemonPullCancellations.get d = some (true, s)) :
    τ.daemonPullCancellations.get d = some (true, s) ∨ τ.Ended s := by
  by_cases hleaves : ∃ k ∈ done, σ.owner k = some d
  · obtain ⟨k, hk, hown⟩ := hleaves
    right
    intro q hq
    obtain ⟨hs, hfound⟩ := haged.toRemoved.found hq
    exact absurd (hnamed k hk hown q hfound) hs
  · left
    rw [haged.cancellations d (fun k hk hown => hleaves ⟨k, hk, hown⟩)]
    exact hflag

theorem serve_cancellation {S : System} (hkeyed : S.store.Keyed) {e : Served} (hcareful : Careful S (.call e))
    {d s : Uuid} (hflag : S.store.daemonPullCancellations.get d = some (true, s)) :
    (S.store.serve e).daemonPullCancellations.get d = some (true, s) ∨ (S.store.serve e).Ended s := by
  rcases e with ⟨call, ω⟩
  have heffect := serve_effect S.store hkeyed ⟨call, ω⟩
  generalize S.store.serve ⟨call, ω⟩ = τ at heffect ⊢
  simp only at heffect
  cases heffect with
  | started discovery updateTx posted hposted => exact .inl hflag
  | progressed update now hphase => exact .inl hflag
  | recorded update now discoveries hphase hbus hsaved =>
    refine terminal_cancellation (hcareful hphase) ?_ rfl hflag
    intro p hp
    simp only [Store.record, Store.receive, get_insert, ↓reduceIte] at hp
    cases hp
    exact hphase
  | finished update now discoveries posted hphase hsaved hposted =>
    refine terminal_cancellation (hcareful hphase) ?_ rfl hflag
    intro p hp
    simp [Store.handOver, get_erase] at hp
  | cancelled k τ hcancelled =>
    cases hcancelled with
    | unchanged => exact .inl hflag
    | pending p updateTx hp hphase => exact .inl hflag
    | flagged p hp hphase hpull =>
      left
      rw [get_insert]
      split_ifs with hd
      · subst hd
        rw [hcareful p hp hphase hpull true s hflag]
      · exact hflag
    | unreachable p results updateTx discoveries hp hphase hbad hid hsaved => exact .inl hflag
  | aged maxAgeHours done τ hdone haged =>
    apply aged_cancellation haged _ hflag
    intro k hk hown q hq
    obtain ⟨p, hp, hold⟩ := (hdone k).mp hk
    have hd : p.daemonId = d := by simpa [Store.owner, hp] using hown
    subst hd
    exact (hdone s).mpr ⟨q, hq, hcareful k p hp hold true s hflag q hq⟩
  | stalled done τ hdone hfailed =>
    rcases hfailed.cancellations d with hsame | ⟨b, k, hk, hnames, -⟩
    · exact .inl (hsame.trans hflag)
    · cases hnames.symm.trans hflag
      right
      intro q hq
      exact absurd hk (hfailed.toRemoved.found hq).1
  | listed d => exact .inl hflag
  | polled d => exact absurd hcareful (fun h => h)

theorem poll_cancellation {S : System} (networkId d : Uuid) (request : DaemonHeartbeatPayload)
    {ω : Oracle serviceSig} (hbus : BusOk ω) {e s : Uuid}
    (hflag : S.store.daemonPullCancellations.get e = some (true, s)) :
    (S.step (.poll networkId d request ω)).store.daemonPullCancellations.get e = some (true, s) ∨
      e = d ∧ ∃ reply, (S.step (.poll networkId d request ω)).replies d = some reply ∧
        reply.cancel = some s := by
  simp only [System.step]
  cases hreply : S.replies d with
  | some reply => exact .inl hflag
  | none =>
    obtain ⟨r, k, τ, hrun, ⟨-, -, rfl⟩ | ⟨hok, rfl, hanswer⟩⟩ :=
      receiveWorkRequest_effect ω networkId d request S.store
    · simp only [hrun]
      exact .inl hflag
    · simp only [hrun]
      by_cases he : e = d
      · subst he
        obtain ⟨a, rfl⟩ := hok hbus
        rw [hanswer a rfl]
        have htaken : S.store.flag e = (true, s) := by simp [Store.flag, hflag]
        refine .inr ⟨rfl, _, Function.update_self .., ?_⟩
        simp [htaken]
      · left
        rw [Store.poll, get_erase, if_neg he]
        exact hflag

theorem System.Valid.poll {S : System} (h : S.Valid) {networkId d : Uuid} {request : DaemonHeartbeatPayload}
    {ω : Oracle serviceSig} (hruns : ∀ s, S.running d = some s → S.store.Flags d s) :
    (S.step (.poll networkId d request ω)).Valid := by
  simp only [System.step]
  cases hreply : S.replies d with
  | some reply => exact h
  | none =>
    obtain ⟨r, k, τ, hrun, hcases⟩ := receiveWorkRequest_effect ω networkId d request S.store
    have hkeyed : τ.Keyed := by
      rcases hcases with ⟨-, -, rfl⟩ | ⟨-, rfl, -⟩
      · exact h.keyed
      · exact h.keyed.congr rfl
    simp only [hrun]
    refine ⟨hkeyed, fun e reply s t he hcancel ht => ?_, h.applied⟩
    by_cases hed : e = d
    · subst hed
      simp only [Function.update_self] at he
      rcases r with err | ⟨nextSession, cancel⟩
      · cases he
      cases cancel with
      | false =>
        cases he
        cases hcancel
      | true =>
        cases he
        rcases hcases with ⟨-, ⟨_, herr⟩, -⟩ | ⟨-, -, hanswer⟩
        · cases herr
        have htaken : true = (S.store.flag e).1 := congrArg Prod.snd (hanswer _ rfl)
        cases hentry : S.store.daemonPullCancellations.get e with
        | none => simp [Store.flag, hentry] at htaken
        | some entry =>
          simp only [Store.flag, hentry, Option.getD_some, ↓reduceIte, Option.some.injEq] at hcancel
          rw [← hcancel]
          exact hruns t ht entry.1 entry.2 hentry
    · simp only [Function.update_of_ne hed] at he
      exact h.replies e reply s t he hcancel ht

theorem System.Valid.receive {S : System} (h : S.Valid) {d : Uuid} {reply : WorkReply}
    (hreply : S.replies d = some reply) : (S.receive d reply).Valid := by
  refine ⟨h.keyed, fun e other s t he hcancel ht => ?_, fun hit hmem => ?_⟩
  · by_cases hed : e = d
    · subst hed
      simp [System.receive] at he
    · simp only [System.receive, Function.update_of_ne hed] at he ht
      exact h.replies e other s t he hcancel ht
  · cases hcancel : reply.cancel with
    | none =>
      simp only [System.receive, hcancel] at hmem
      exact h.applied hit hmem
    | some target =>
      cases hrunning : S.running d with
      | none =>
        simp only [System.receive, hcancel, hrunning] at hmem
        exact h.applied hit hmem
      | some session =>
        simp only [System.receive, hcancel, hrunning, List.mem_cons] at hmem
        rcases hmem with rfl | hmem
        · exact h.replies d reply target session hreply hcancel hrunning
        · exact h.applied hit hmem

theorem step_valid {S : System} (h : S.Valid) {m : Move} (hcareful : Careful S m) : (S.step m).Valid := by
  cases m with
  | call e => exact ⟨serve_keyed h.keyed e, h.replies, h.applied⟩
  | poll networkId d request ω => exact h.poll hcareful.2
  | deliver d =>
    simp only [System.step]
    cases hreply : S.replies d with
    | none => exact h
    | some reply => exact h.receive hreply
  | lose d =>
    refine ⟨h.keyed, fun e reply s t he hcancel ht => ?_, h.applied⟩
    by_cases hed : e = d
    · subst hed
      simp [System.step] at he
    · simp only [System.step, Function.update_of_ne hed] at he
      exact h.replies e reply s t he hcancel ht
  | finish d =>
    refine ⟨h.keyed, fun e reply s t he hcancel ht => ?_, h.applied⟩
    by_cases hed : e = d
    · subst hed
      simp [System.step] at ht
    · simp only [System.step, Function.update_of_ne hed] at ht
      exact h.replies e reply s t he hcancel ht

theorem cancellation_reaches_target (moves : List Move) (m : Move)
    (h : Meets System.step Careful .start moves) (hm : Careful (moves.foldl System.step .start) m) :
    (∀ d s, (moves.foldl System.step .start).store.daemonPullCancellations.get d = some (true, s) →
      ((moves ++ [m]).foldl System.step .start).store.daemonPullCancellations.get d = some (true, s) ∨
      (∃ networkId request ω reply, m = .poll networkId d request ω ∧
        ((moves ++ [m]).foldl System.step .start).replies d = some reply ∧ reply.cancel = some s) ∨
      ((moves ++ [m]).foldl System.step .start).store.Ended s) ∧
    ∀ hit ∈ ((moves ++ [m]).foldl System.step .start).applied, hit.1 = hit.2 := by
  have hvalid : (moves.foldl System.step .start).Valid :=
    h.invariant System.Valid (fun _ _ hS hcareful => step_valid hS hcareful)
      ⟨empty_keyed, fun _ _ _ _ hreply => (nomatch hreply), fun _ hmem => (nomatch hmem)⟩
  rw [List.foldl_append]
  generalize moves.foldl System.step .start = S at hvalid hm ⊢
  refine ⟨fun d s hflag => ?_, (step_valid hvalid hm).applied⟩
  cases m with
  | call e =>
    rcases serve_cancellation hvalid.keyed hm hflag with hkept | hended
    · exact .inl hkept
    · exact .inr (.inr hended)
  | poll networkId d' request ω =>
    rcases poll_cancellation networkId d' request hm.1 hflag with hkept | ⟨rfl, reply, hreply, hcancel⟩
    · exact .inl hkept
    · exact .inr (.inl ⟨networkId, request, ω, reply, rfl, hreply, hcancel⟩)
  | deliver d' =>
    left
    simp only [List.foldl_cons, List.foldl_nil, System.step]
    cases S.replies d' <;> exact hflag
  | lose d' => exact .inl hflag
  | finish d' => exact .inl hflag

def cancelledRun : List Move :=
  [.call ⟨.startSession (adHocFor 7), calm 1 0 .pull⟩, .poll 0 7 ⟨"", "", .pull⟩ (iterating 0 [1]), .deliver 7,
    .call ⟨.updateSession (reportOf 1 7 .started), calm 3 0 .pull⟩, .call ⟨.cancelSession 1, calm 5 0 .pull⟩]

theorem cancelledRun_careful : Meets System.step Careful .start cancelledRun :=
  ⟨trivial, ⟨fun _ _ _ => rfl, fun _ h => nomatch h⟩, trivial, fun h => (nomatch h),
    fun _ _ _ _ _ _ h => (nomatch h), trivial⟩

theorem cancellation_reaches_target_polled :
    (cancelledRun.foldl System.step .start).store.daemonPullCancellations.get 7 = some (true, 1) ∧
    ∀ hit ∈ ((cancelledRun ++ [Move.poll 0 7 ⟨"", "", .pull⟩ (iterating 0 [1])]).foldl System.step .start).applied,
      hit.1 = hit.2 := by
  refine ⟨rfl, (cancellation_reaches_target cancelledRun (.poll 0 7 ⟨"", "", .pull⟩ (iterating 0 [1]))
    cancelledRun_careful ⟨fun _ _ _ => rfl, fun s hs b k hflag => ?_⟩).2⟩
  cases hs
  cases hflag
  rfl

theorem late_report_loses_cancellation :
    (cancelledRun.foldl System.step .start).store.daemonPullCancellations.get 7 = some (true, 1) ∧
    ((cancelledRun ++ [Move.call ⟨.updateSession (reportOf 2 7 .complete), calm 7 0 .pull⟩]).foldl
      System.step .start).store.daemonPullCancellations.get 7 = none ∧
    ((cancelledRun ++ [Move.call ⟨.updateSession (reportOf 2 7 .complete), calm 7 0 .pull⟩]).foldl
      System.step .start).store.sessions.get 1 = some (reportOf 1 7 .pending) ∧
    ((cancelledRun ++ [Move.call ⟨.updateSession (reportOf 2 7 .complete), calm 7 0 .pull⟩]).foldl
      System.step .start).running 7 = some 1 ∧
    (((cancelledRun ++ [Move.call ⟨.updateSession (reportOf 2 7 .complete), calm 7 0 .pull⟩]).foldl
      System.step .start).replies 7).isNone :=
  ⟨rfl, rfl, rfl, rfl, rfl⟩

end VantageNet
