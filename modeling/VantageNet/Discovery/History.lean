import VantageNet.Discovery.Calls

/-!
How often a session can end. Each historical record of a session id stands for one
time it entered `sessions`; after its end it enters again only when it is named anew.
-/

namespace VantageNet

open Interaction Interaction.Program

def Served.opens (e : Served) (s : Uuid) : Bool :=
  match e.call with
  | .startSession _ => e.answers 0 .newV4 = s
  | .updateSession update => update.sessionId = s
  | _ => false

/-- How many of the calls find `s` not live and open it. -/
def entries (s : Uuid) : Store → List Served → ℕ
  | _, [] => 0
  | σ, e :: es => (!σ.live s && e.opens s).toNat + entries s (σ.serve e) es

theorem live_removed {σ τ : Store} {done : List Uuid} (h : Removed σ τ done) (s : Uuid) :
    τ.live s = (!decide (s ∈ done) && σ.live s) := by
  unfold Store.live
  rw [h.sessions]
  split_ifs with hs <;> simp [hs]

theorem live_insert {σ τ : Store} {k : Uuid} {p : DiscoveryUpdatePayload}
    (hsessions : τ.sessions = σ.sessions.insert k p) (s : Uuid) : τ.live s = (σ.live s || decide (k = s)) := by
  unfold Store.live
  rw [hsessions, get_insert]
  split_ifs with hs
  · simp [hs]
  · simp [Ne.symm hs]

theorem live_handOver (σ : Store) (d k s : Uuid) : (σ.handOver d k).live s = (!decide (k = s) && σ.live s) := by
  simp only [Store.live, Store.handOver, get_erase, get_promote]
  split_ifs with hs hn
  · simp [hs]
  · simp [Ne.symm hs]
  · simp [Ne.symm hs]

structure Recorded (σ τ : Store) (s : Uuid) (opened : Bool) : Prop where
  bound : histories τ.discoveries s + (τ.live s).toNat ≤
    histories σ.discoveries s + (σ.live s).toNat + (!σ.live s && opened).toNat
  live : τ.live s = true → σ.live s = true ∨ opened = true

theorem Recorded.of_ended {σ τ : Store} {s : Uuid} {opened : Bool} (ended : Bool)
    (hlive : τ.live s = (!ended && (σ.live s || opened)))
    (hhistory : histories τ.discoveries s ≤
      histories σ.discoveries s + (ended && (σ.live s || opened)).toNat) : Recorded σ τ s opened := by
  refine ⟨?_, ?_⟩
  · rw [hlive]
    cases ended <;> cases hl : σ.live s <;> cases opened <;>
      simp only [hl, Bool.not_true, Bool.not_false, Bool.and_true, Bool.and_false, Bool.or_true, Bool.or_false,
        Bool.toNat_true, Bool.toNat_false] at hhistory ⊢ <;> omega
  · rw [hlive]
    simp

theorem Recorded.removed {σ τ : Store} {done : List Uuid} (h : Removed σ τ done) (s : Uuid)
    (hhistory : histories τ.discoveries s ≤
      histories σ.discoveries s + if s ∈ done ∧ s ∈ σ.sessions then 1 else 0) : Recorded σ τ s false := by
  refine .of_ended (decide (s ∈ done)) (by simpa using live_removed h s) (hhistory.trans ?_)
  have hl : s ∈ σ.sessions ↔ σ.live s = true := by rw [mem_iff_get, Store.live, Option.isSome_iff_exists]
  by_cases hs : s ∈ done <;> by_cases hl' : σ.live s = true <;> simp [hs, hl, hl']

theorem serve_recorded {σ : Store} (h : σ.Keyed) (e : Served) (hbus : BusOk e.answers) (s : Uuid) :
    Recorded σ (σ.serve e) s (e.opens s) := by
  rcases e with ⟨call, ω⟩
  have heffect := serve_effect σ h ⟨call, ω⟩
  generalize σ.serve ⟨call, ω⟩ = τ at heffect ⊢
  simp only at heffect
  cases heffect with
  | started discovery updateTx posted hposted =>
    exact .of_ended false (live_insert rfl s) (Nat.le_add_right _ _)
  | progressed update now hphase =>
    exact .of_ended false (live_insert rfl s) (Nat.le_add_right _ _)
  | recorded update now discoveries hphase hnot hsaved => exact absurd hbus hnot
  | finished update now discoveries posted hphase hsaved hposted =>
    refine .of_ended (decide (update.sessionId = s)) ?_ ((hsaved.histories_le s).trans ?_)
    · have hreceived : (σ.receive update now).live s = (σ.live s || decide (update.sessionId = s)) :=
        live_insert rfl s
      have hgone := live_handOver ((σ.receive update now).record update.daemonId discoveries)
        update.daemonId update.sessionId s
      exact hgone.trans (congrArg _ hreceived)
    · by_cases hs : update.sessionId = s <;> simp [Served.opens, hs]
  | cancelled k τ hcancelled =>
    cases hcancelled with
    | unchanged => exact .removed (.refl σ) s (Nat.le_add_right _ _)
    | pending p updateTx hp hphase =>
      have hremoved : Removed σ { σ.drop p.daemonId k with updateTx } ([] ++ [k]) :=
        (Removed.refl σ).drop hp rfl rfl rfl
      exact .removed hremoved s (Nat.le_add_right _ _)
    | flagged p hp hphase hpull => exact .of_ended false (by simp [Store.live, Served.opens]) (Nat.le_add_right _ _)
    | unreachable p results updateTx discoveries hp hphase hbad hid hsaved =>
      have hremoved : Removed σ { σ.drop p.daemonId k with updateTx, discoveries } ([] ++ [k]) :=
        (Removed.refl σ).drop hp rfl rfl rfl
      refine .removed hremoved s ((hsaved.histories_le s).trans ?_)
      have hlive : k ∈ σ.sessions := (mem_iff_get _ _).mpr ⟨p, hp⟩
      rw [hid]
      by_cases hk : k = s
      · subst hk
        simp [hlive]
      · simp [hk]
  | aged maxAgeHours done τ hdone haged =>
    exact .removed haged.toRemoved s (by rw [haged.discoveries]; exact Nat.le_add_right _ _)
  | stalled done τ hdone hfailed => exact .removed hfailed.toRemoved s (hfailed.history s)
  | listed d => exact .removed (.refl σ) s (Nat.le_add_right _ _)
  | polled d => exact .of_ended false (by simp [Store.live, Served.opens]) (Nat.le_add_right _ _)

theorem run_history {σ : Store} (h : σ.Keyed) (es : List Served) (hbus : ∀ e ∈ es, BusOk e.answers) (s : Uuid) :
    histories (es.foldl Store.serve σ).discoveries s + ((es.foldl Store.serve σ).live s).toNat ≤
      histories σ.discoveries s + (σ.live s).toNat + entries s σ es := by
  induction es generalizing σ with
  | nil => exact Nat.le_add_right _ _
  | cons e es ih =>
    have hstep := (serve_recorded h e (hbus e (by simp)) s).bound
    have hrest := ih (serve_keyed h e) (fun e' he' => hbus e' (List.mem_cons_of_mem e he'))
    simp only [List.foldl_cons, entries] at hrest ⊢
    omega

theorem run_stays_ended {σ : Store} (h : σ.Keyed) (es : List Served) (hbus : ∀ e ∈ es, BusOk e.answers) (s : Uuid)
    (hended : σ.live s = false) (hclosed : ∀ e ∈ es, e.opens s = false) :
    (es.foldl Store.serve σ).live s = false ∧
      histories (es.foldl Store.serve σ).discoveries s ≤ histories σ.discoveries s := by
  induction es generalizing σ with
  | nil => exact ⟨hended, le_refl _⟩
  | cons e es ih =>
    obtain ⟨hbound, hlive⟩ := serve_recorded h e (hbus e (by simp)) s
    rw [hclosed e (by simp), hended] at hbound hlive
    have hgone : (σ.serve e).live s = false := by simpa using hlive
    obtain ⟨hrest, hle⟩ := ih (serve_keyed h e) (fun e' he' => hbus e' (List.mem_cons_of_mem e he')) hgone
      (fun e' he' => hclosed e' (List.mem_cons_of_mem e he'))
    refine ⟨hrest, hle.trans ?_⟩
    simpa [hgone] using hbound

theorem session_ends_once_per_entry (es later : List Served)
    (hbus : ∀ e ∈ es ++ later, BusOk e.answers) (s : Uuid) :
    histories (es.foldl Store.serve .empty).discoveries s + ((es.foldl Store.serve .empty).live s).toNat ≤
        entries s .empty es ∧
      ((es.foldl Store.serve .empty).live s = false → (∀ e ∈ later, e.opens s = false) →
        ((es ++ later).foldl Store.serve .empty).live s = false ∧
        histories ((es ++ later).foldl Store.serve .empty).discoveries s ≤
          histories (es.foldl Store.serve .empty).discoveries s) := by
  refine ⟨?_, fun hended hclosed => ?_⟩
  · have hbound := run_history empty_keyed es (fun e he => hbus e (by simp [he])) s
    have hnone : histories Store.empty.discoveries s + (Store.empty.live s).toNat = 0 := rfl
    rwa [hnone, Nat.zero_add] at hbound
  · rw [List.foldl_append]
    exact run_stays_ended (run_keyed es) later (fun e he => hbus e (by simp [he])) s hended hclosed

theorem session_ends_once_per_entry_completed :
    let σ := [⟨.startSession (adHocFor 7), calm 1 0 .push⟩, ⟨.updateSession (reportOf 1 7 .complete), calm 3 0 .push⟩,
      ⟨.cleanupStalledSessions, calm 5 0 .push⟩].foldl Store.serve .empty
    σ.live 1 = false ∧ histories σ.discoveries 1 ≤ 1 := by
  have hcalm : ∀ e ∈ [⟨.startSession (adHocFor 7), calm 1 0 .push⟩,
      ⟨.updateSession (reportOf 1 7 .complete), calm 3 0 .push⟩] ++ [⟨.cleanupStalledSessions, calm 5 0 .push⟩],
      BusOk (Served.answers e) := by
    simp [BusOk, calm]
  obtain ⟨hbound, hended⟩ := session_ends_once_per_entry _ _ hcalm 1
  obtain ⟨hlive, hle⟩ := hended (by decide) (by decide)
  exact ⟨hlive, hle.trans ((Nat.le_add_right _ _).trans hbound)⟩

theorem repeated_and_late_updates :
    histories ([⟨.startSession (adHocFor 7), calm 1 0 .push⟩,
      ⟨.updateSession (reportOf 1 7 .complete), calm 3 0 .push⟩,
      ⟨.updateSession (reportOf 1 7 .complete), calm 5 0 .push⟩].foldl Store.serve .empty).discoveries 1 = 2 ∧
    ([⟨.startSession (adHocFor 7), calm 1 0 .push⟩, ⟨.cancelSession 1, calm 3 0 .push⟩].foldl
      Store.serve .empty).live 1 = false ∧
    ([⟨.startSession (adHocFor 7), calm 1 0 .push⟩, ⟨.cancelSession 1, calm 3 0 .push⟩,
      ⟨.updateSession (reportOf 1 7 .started), calm 5 0 .push⟩].foldl Store.serve .empty).live 1 = true := by
  decide

end VantageNet
