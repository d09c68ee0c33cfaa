import VantageNet.Discovery.Handlers

/-!
Which session a daemon that polls for work is given: the first one of its queue that an
iteration of `sessions` comes across.
-/

namespace VantageNet

open Interaction Interaction.Program

def Store.waiting (σ : Store) (d : Uuid) (proposed : List Uuid) : List DiscoveryUpdatePayload :=
  ((HashMap.iter σ.sessions proposed).filter (fun e => (σ.queue d).contains e.1)).map Prod.snd

def Store.flag (σ : Store) (d : Uuid) : Bool × Uuid := (σ.daemonPullCancellations.get d).getD (false, Uuid.nil)

def Store.poll (σ : Store) (d : Uuid) : Store :=
  { σ with daemonPullCancellations := σ.daemonPullCancellations.erase d }

theorem announceWork_run (ω : Oracle serviceSig) (n : ℕ) (daemon : Daemon) (cancel : Bool)
    (nextSession : Option DiscoveryUpdatePayload) (σ : Store) :
    ∃ r k, run serviceStep ω n (announceWork daemon cancel nextSession) σ = ⟨r, k, σ⟩ ∧
      (BusOk ω → r = .ok ()) := by
  have hannounce : ∀ m b operation, ∃ r k, run serviceStep ω m
      (when b (do orFail (← publishEntity operation daemon.id))) σ = ⟨r, k, σ⟩ ∧ (BusOk ω → r = .ok ()) := by
    intro m b operation
    cases b with
    | false => exact ⟨_, _, rfl, fun _ => rfl⟩
    | true =>
      simp only [when_true, bind_eq, op_bind, ret_bind, run_op, serviceStep]
      rcases hp : ω m (.publish operation daemon.id) with e | ⟨⟩
      · exact ⟨_, _, rfl, fun hbus => by simp [hbus _ _ _] at hp⟩
      · exact ⟨_, _, rfl, fun _ => rfl⟩
  obtain ⟨r, k, hfirst, hok⟩ := hannounce n cancel .discoveryCancelled
  simp only [bind_eq] at hfirst hannounce
  simp only [announceWork, bind_eq, run_bind, hfirst]
  rcases r with e | ⟨⟩
  · exact ⟨_, _, rfl, hok⟩
  · exact hannounce k nextSession.isSome .discoveryStarted

structure Admits (ω : Oracle serviceSig) (networkId d : Uuid) : Prop where
  daemon : ∃ daemon, ω 0 (.daemonGet d) = .ok (some daemon) ∧ daemon.networkId = networkId
  heartbeat : ∀ daemon, ω 2 (.daemonUpdate daemon) = .ok ()

theorem receiveWorkRequest_effect (ω : Oracle serviceSig) (networkId d : Uuid) (request : DaemonHeartbeatPayload)
    (σ : Store) :
    ∃ r k τ, run serviceStep ω 0 (receiveWorkRequest networkId d request) σ = ⟨r, k, τ⟩ ∧
      (¬ Admits ω networkId d ∧ (∃ e, r = .error e) ∧ τ = σ ∨
        (BusOk ω → ∃ a, r = .ok a) ∧ τ = σ.poll d ∧ ∀ a, r = .ok a →
          a = ((σ.waiting d ((ω 6 .sessionsIter).map Prod.fst)).head?, (σ.flag d).1)) := by
  simp only [receiveWorkRequest, workingDaemon, bind_eq, op_bind, ret_bind, run_op, serviceStep]
  rcases hd : ω 0 (.daemonGet d) with e | _ | daemon
  · exact ⟨_, _, _, rfl, .inl ⟨fun h => by simpa [hd] using h.daemon, ⟨_, rfl⟩, rfl⟩⟩
  · exact ⟨_, _, _, rfl, .inl ⟨fun h => by simpa [hd] using h.daemon, ⟨_, rfl⟩, rfl⟩⟩
  simp only [orFail_ok, ret_bind]
  by_cases hnetwork : daemon.networkId = networkId
  · simp only [hnetwork, ne_eq, not_true_eq_false, ↓reduceIte, pure_eq, ret_bind, run_op, serviceStep]
    rcases hupdate : ω (0 + 1 + 1) (.daemonUpdate _) with e | ⟨⟩
    · exact ⟨_, _, _, rfl, .inl ⟨fun h => (by cases hupdate.symm.trans (h.heartbeat _)), ⟨_, rfl⟩, rfl⟩⟩
    simp only [orFail_ok, ret_bind, getSessionsForDaemon, pullCancellationForDaemon, bind_eq, pure_eq, op_bind,
      run_op, serviceStep, run_bind]
    obtain ⟨r, k, hrun, hok⟩ := announceWork_run ω 12 ⟨daemon.id, networkId, request.mode, request.url,
      request.name, ω 1 .utcNow⟩ (σ.flag d).1 (σ.waiting d ((ω 6 .sessionsIter).map Prod.fst)).head? (σ.poll d)
    simp only [Store.flag, Store.waiting, Store.queue, Store.poll] at hrun
    simp only [hrun]
    rcases r with e | ⟨⟩
    · exact ⟨_, _, _, rfl, .inr ⟨fun hbus => (by cases hok hbus), rfl, fun a ha => (by cases ha)⟩⟩
    · exact ⟨_, _, _, rfl, .inr ⟨fun _ => ⟨_, rfl⟩, rfl, fun a ha => by cases ha; rfl⟩⟩
  · simp only [hnetwork, ne_eq, not_false_eq_true, ↓reduceIte, fail_bind]
    exact ⟨_, _, _, rfl, .inl ⟨fun h => by simpa [hd, hnetwork] using h.daemon, ⟨_, rfl⟩, rfl⟩⟩

theorem mem_waiting (σ : Store) (d : Uuid) (proposed : List Uuid) (p : DiscoveryUpdatePayload) :
    p ∈ σ.waiting d proposed ↔ ∃ s ∈ σ.queue d, σ.sessions.get s = some p := by
  simp only [Store.waiting, List.mem_map, List.mem_filter, Prod.exists, mem_iter, List.contains_iff_mem,
    exists_eq_left, and_comm]

def iterating (networkId : Uuid) (order : List Uuid) : Oracle serviceSig
  | _, .daemonGet d => .ok (some ⟨d, networkId, .pull, "", "", 0⟩)
  | _, .sessionsIter => order.map (fun s => (s, reportOf s 0 .pending))
  | n, i => calm 0 0 .pull n i

theorem receiveWorkRequest_iterating (networkId d : Uuid) (request : DaemonHeartbeatPayload) (order : List Uuid)
    (σ : Store) :
    (run serviceStep (iterating networkId order) 0 (receiveWorkRequest networkId d request) σ).result =
      .ok ((σ.waiting d order).head?, (σ.flag d).1) := by
  have hadmits : Admits (iterating networkId order) networkId d := ⟨⟨_, rfl, rfl⟩, fun _ => rfl⟩
  have hproposed : ((iterating networkId order 6 .sessionsIter).map Prod.fst) = order := by
    simp [iterating, Function.comp_def]
  obtain ⟨r, k, τ, hrun, ⟨hnot, -⟩ | ⟨hok, -, hreply⟩⟩ :=
    receiveWorkRequest_effect (iterating networkId order) networkId d request σ
  · exact absurd hadmits hnot
  · obtain ⟨a, rfl⟩ := hok (fun _ _ _ => rfl)
    rw [hrun, hreply a rfl, hproposed]

/-- Every stored session of the queue comes first in some iteration. -/
theorem exists_waiting_first {σ : Store} {d s : Uuid} {p : DiscoveryUpdatePayload} (hs : s ∈ σ.queue d)
    (hp : σ.sessions.get s = some p) : ∃ order, (σ.waiting d order).head? = some p := by
  obtain ⟨rest, horder⟩ := exists_isOrder_cons ((mem_iff_get _ _).mpr ⟨p, hp⟩)
  obtain ⟨entries, hentries⟩ := iter_cons horder hp
  exact ⟨s :: rest, by simp [Store.waiting, hentries, hs]⟩

theorem waiting_first_eq {σ : Store} (hkeyed : σ.Keyed) {d head : Uuid} (hhead : head ∈ σ.queue d)
    (hlive : σ.live head = true) (hrest : ∀ s ∈ σ.queue d, s ≠ head → σ.live s = false) (proposed : List Uuid) :
    (σ.waiting d proposed).head?.map DiscoveryUpdatePayload.sessionId = some head := by
  obtain ⟨p, hp⟩ := Option.isSome_iff_exists.mp hlive
  have hmem := (mem_waiting σ d proposed p).mpr ⟨head, hhead, hp⟩
  cases hfirst : (σ.waiting d proposed).head? with
  | none =>
    rw [List.head?_eq_none_iff] at hfirst
    rw [hfirst] at hmem
    cases hmem
  | some q =>
    obtain ⟨s, hs, hq⟩ := (mem_waiting σ d proposed q).mp (List.mem_of_head? hfirst)
    have hlive : σ.live s = true := by rw [Store.live, hq]; rfl
    have hsame : s = head := by
      by_contra hne
      rw [hrest s hs hne] at hlive
      cases hlive
    rw [Option.map_some, hkeyed s q hq, hsame]

theorem work_request_serves_head_iff (es : List Served) (networkId d : Uuid) (request : DaemonHeartbeatPayload)
    (head : Uuid) (rest : List Uuid) (hqueue : (es.foldl Store.serve .empty).queue d = head :: rest) :
    (∀ ω nextSession cancel,
      (run serviceStep ω 0 (receiveWorkRequest networkId d request) (es.foldl Store.serve .empty)).result =
        .ok (nextSession, cancel) → nextSession.map DiscoveryUpdatePayload.sessionId = some head) ↔
    (es.foldl Store.serve .empty).live head = true ∧
      ∀ s ∈ rest, s ≠ head → (es.foldl Store.serve .empty).live s = false := by
  have hkeyed := run_keyed es
  generalize es.foldl Store.serve .empty = σ at hqueue hkeyed ⊢
  constructor
  · intro h
    have hserved (order : List Uuid) := h _ _ _ (receiveWorkRequest_iterating networkId d request order σ)
    constructor
    · obtain ⟨p, hp, hid⟩ := Option.map_eq_some_iff.mp (hserved [])
      obtain ⟨s, -, hs⟩ := (mem_waiting σ d [] p).mp (List.mem_of_head? hp)
      rw [← hid, hkeyed s p hs, Store.live, hs]
      rfl
    · intro s hs hne
      by_contra hlive
      obtain ⟨p, hp⟩ := Option.isSome_iff_exists.mp (Bool.eq_true_of_not_eq_false hlive)
      have hmem : s ∈ σ.queue d := hqueue ▸ List.mem_cons_of_mem head hs
      obtain ⟨order, horder⟩ := exists_waiting_first hmem hp
      have hfirst := hserved order
      rw [horder] at hfirst
      exact hne ((hkeyed s p hp).symm.trans (Option.some.inj hfirst))
  · rintro ⟨hlive, hrest⟩ ω nextSession cancel hok
    obtain ⟨r, k, τ, hrun, ⟨-, ⟨e, he⟩, -⟩ | ⟨-, -, hreply⟩⟩ :=
      receiveWorkRequest_effect ω networkId d request σ
    · rw [hrun] at hok
      cases he.symm.trans hok
    · rw [hrun] at hok
      cases hreply _ hok
      apply waiting_first_eq hkeyed (by simp [hqueue]) hlive
      intro s hs hne
      rw [hqueue, List.mem_cons] at hs
      exact hrest s (hs.resolve_left hne) hne

theorem work_request_serves_head_alone :
    ([⟨.startSession (adHocFor 7), calm 1 0 .pull⟩].foldl Store.serve .empty).queue 7 = [1] ∧
    ∀ ω nextSession cancel, (run serviceStep ω 0 (receiveWorkRequest 0 7 ⟨"", "", .pull⟩)
      ([⟨.startSession (adHocFor 7), calm 1 0 .pull⟩].foldl Store.serve .empty)).result =
        .ok (nextSession, cancel) → nextSession.map DiscoveryUpdatePayload.sessionId = some 1 :=
  ⟨by decide, (work_request_serves_head_iff [⟨.startSession (adHocFor 7), calm 1 0 .pull⟩] 0 7 ⟨"", "", .pull⟩ 1 []
    (by decide)).mpr ⟨by decide, fun _ h => nomatch h⟩⟩

theorem work_request_serves_younger :
    ([⟨.startSession (adHocFor 7), calm 1 0 .pull⟩, ⟨.startSession (adHocFor 7), calm 2 0 .pull⟩].foldl
      Store.serve .empty).queue 7 = [1, 2] ∧
    ∃ p cancel, (run serviceStep (iterating 0 [2, 1]) 0 (receiveWorkRequest 0 7 ⟨"", "", .pull⟩)
      ([⟨.startSession (adHocFor 7), calm 1 0 .pull⟩, ⟨.startSession (adHocFor 7), calm 2 0 .pull⟩].foldl
        Store.serve .empty)).result = .ok (some p, cancel) ∧ p.sessionId = 2 :=
  ⟨by decide, _, _, rfl, rfl⟩

end VantageNet
