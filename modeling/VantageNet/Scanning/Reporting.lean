import VantageNet.Scanning.Runs

/-!
The percentages that a scan sends to the server. With one responsive host they never decrease; with
two of them, the fixed values of one host come after the greater ones of another.
-/

namespace VantageNet.Scanning

open Interaction Inventory

variable {s : NetworkScan}

section progress

/-- All that was sent so far is in order, and at most `m`. -/
def Under (m : ℕ) (p : Progress) : Prop := p.sent.Pairwise (· ≤ ·) ∧ ∀ x ∈ p.sent, x ≤ m

namespace Under

variable {m n : ℕ} {p : Progress}

theorem mono (h : Under m p) (hle : m ≤ n) : Under n p := ⟨h.1, fun x hx => (h.2 x hx).trans hle⟩

theorem send (h : Under m p) (hle : m ≤ n) : Under n (p.send n) := by
  constructor
  · refine List.pairwise_append.mpr ⟨h.1, List.pairwise_singleton _ _, fun x hx y hy => ?_⟩
    exact List.mem_singleton.mp hy ▸ (h.2 x hx).trans hle
  · intro x hx
    rcases List.mem_append.mp hx with hx | hx
    · exact (h.2 x hx).trans hle
    · exact (List.mem_singleton.mp hx).le

/-- What is reported is greater than all that was reported before it. -/
theorem report {low : ℕ} (h : Under (max low p.lastProgress) p) (now : ℕ) {percent : ℕ} (hlow : low ≤ percent)
    (hless : percent < 100) : Under (max low (p.report now percent).lastProgress) (p.report now percent) := by
  unfold Progress.report
  split_ifs
  · exact h
  · exact h
  · have hnew : Under percent ({ p with lastProgressReportTime := now, lastProgress := percent }.send percent) :=
      send h (by omega)
    exact hnew.mono (le_max_right _ _)

end Under

namespace Progress

@[simp]
theorem batchesDone_report (p : Progress) (now percent : ℕ) : (p.report now percent).batchesDone = p.batchesDone := by
  unfold report
  split_ifs <;> rfl

@[simp]
theorem phase1Scanned_report (p : Progress) (now percent : ℕ) : (p.report now percent).phase1Scanned = p.phase1Scanned := by
  unfold report
  split_ifs <;> rfl

theorem lastProgress_report_le {p : Progress} {percent m : ℕ} (now : ℕ) (hlast : p.lastProgress ≤ m) (hpercent : percent ≤ m) :
    (p.report now percent).lastProgress ≤ m := by
  unfold report
  split_ifs
  · exact hlast
  · exact hlast
  · exact hpercent

/-- Non-decreasing percentages. -/
def Monotone (p : Progress) : Prop := p.sent.Pairwise (· ≤ ·) ∧ ∀ x ∈ p.sent, x ≤ 100

/-- Where a scan is in phase 1 with `left` hosts still to be looked at. -/
structure InPhase1 (total left : ℕ) (p : Progress) : Prop where
  under : Under (max 0 p.lastProgress) p
  lastProgress : p.lastProgress ≤ 50
  batchesDone : p.batchesDone = 0
  scanned : p.phase1Scanned + left ≤ total

theorem InPhase1.hostChecked {total left : ℕ} {p : Progress} (h : p.InPhase1 total (left + 1)) (now : ℕ) :
    (p.hostChecked now total).InPhase1 total left := by
  have hscanned := h.scanned
  have hpercent : (p.phase1Scanned + 1) * 50 / max total 1 ≤ 50 := by
    refine Nat.div_le_of_le_mul ?_
    exact Nat.mul_le_mul_right 50 (by omega)
  have hexact : asU8 ((p.phase1Scanned + 1) * 50 / max total 1) ≤ 50 := (Nat.mod_le _ _).trans hpercent
  unfold Progress.hostChecked
  constructor
  · exact Under.report (p := { p with phase1Scanned := p.phase1Scanned + 1 }) h.under now (Nat.zero_le _) (by omega)
  · exact lastProgress_report_le now h.lastProgress hexact
  · rw [batchesDone_report]
    exact h.batchesDone
  · rw [phase1Scanned_report]
    change p.phase1Scanned + 1 + left ≤ total
    omega

/-- Whatever is sent next is at most 100. -/
theorem InPhase1.under_hundred {total left : ℕ} {p : Progress} (h : p.InPhase1 total left) : Under 100 p :=
  h.under.mono (max_le (Nat.zero_le _) (h.lastProgress.trans (by omega)))

end Progress

end progress

section one_host

/-- How far the only host has come, with the ports `rest` after the batch that is under way. -/
def OnlyHost {ρ : Type} (p : Progress) : DeepScan ρ → Prop
  | .ports _ _ rest => Under (max 50 p.lastProgress) p ∧ p.lastProgress ≤ 90 ∧
      p.batchesDone + 1 + (rest.length + 199) / 200 ≤ 328
  | .udp _ => Under 90 p
  | .endpoints _ => Under 95 p
  | .done _ => Under 98 p

namespace OnlyHost

variable {ρ : Type} {p : Progress}

theorem under {d : DeepScan ρ} (h : OnlyHost p d) : Under 98 p := by
  cases d with
  | ports openPorts connections rest => exact h.1.mono (max_le (by omega) (h.2.1.trans (by omega)))
  | udp openPorts => exact h.mono (by omega)
  | endpoints requests => exact h.mono (by omega)
  | done given => exact h

theorem start (hunder : Under (max 50 p.lastProgress) p) (hlast : p.lastProgress ≤ 50) (hbatches : p.batchesDone = 0)
    (phase1Ports : List UInt16) : OnlyHost p (DeepScan.start (ρ := ρ) phase1Ports) := by
  have hports : (remainingTcpPorts phase1Ports).length ≤ 65535 := by
    refine (List.length_filter_le _ _).trans_eq ?_
    rw [allPorts, List.length_map, List.length_range']
  unfold DeepScan.start
  dsimp only
  split_ifs
  · exact hunder.mono (max_le (by omega) (by omega))
  · refine ⟨hunder, by omega, ?_⟩
    rw [hbatches, List.length_drop, portsPerHostBatch]
    omega

/-- At most 40 of the percentages go to the batches of one host. -/
theorem batchDone {openPorts : List UInt16} {connections : Window UInt16} {rest : List UInt16}
    (h : OnlyHost p (.ports (ρ := ρ) openPorts connections rest)) (now : ℕ) :
    Under (max 50 (p.batchDone now 328).lastProgress) (p.batchDone now 328) ∧ (p.batchDone now 328).lastProgress ≤ 90 ∧
    (p.batchDone now 328).batchesDone + (rest.length + 199) / 200 ≤ 328 := by
  obtain ⟨hunder, hlast, hbatches⟩ := h
  have hexact : asU8 (50 + (p.batchesDone + 1) * 40 / 328) = 50 + (p.batchesDone + 1) * 40 / 328 :=
    Nat.mod_eq_of_lt (by omega)
  unfold Progress.batchDone
  rw [show max 328 1 = 328 from rfl, hexact]
  refine ⟨?_, Progress.lastProgress_report_le now hlast (by omega), ?_⟩
  · exact Under.report (p := { p with batchesDone := p.batchesDone + 1 }) hunder now (by omega) (by omega)
  · rw [Progress.batchesDone_report]
    exact hbatches

theorem step {r : List (IpAddr × List UInt16)} (hr : r.length = 1) {endpoints : List UInt16 → List ρ} {b : Bool}
    {d d' : DeepScan ρ} {report : Report} (h : OnlyHost p d) (now : ℕ) (hstep : d.Step endpoints b report d') :
    OnlyHost (NetworkScan.reported p now r report) d' := by
  have hall : r.length * NetworkScan.batchesPerHost = 328 := by
    rw [hr]
    rfl
  cases hstep with
  | answered openPorts connections rest j q isOpen hp => exact h
  | nextBatch openPorts connections rest hidle hrest =>
    have hdone := h.batchDone now
    have hlength := List.length_pos_iff.mpr hrest
    rw [NetworkScan.reported, hall]
    split_ifs
    · exact hdone.1.mono (max_le (by omega) (hdone.2.1.trans (by omega)))
    · refine ⟨hdone.1, hdone.2.1, ?_⟩
      rw [List.length_drop, portsPerHostBatch]
      omega
  | lastBatch openPorts connections hidle =>
    have hdone := h.batchDone now
    rw [NetworkScan.reported, hall]
    exact hdone.1.mono (max_le (by omega) hdone.2.1)
  | udpScanned openPorts => exact Under.send h (by omega)
  | responded requests j request hr => exact h
  | endpointsScanned requests hidle => exact Under.send h (by omega)
  | failed d hd => exact h.under

end OnlyHost

/-- Where the percentages of a scan are, given where the scan is. -/
def InOrder (s : NetworkScan) (p : Progress) : Stage s.Request → Prop
  | .arp hosts _ => p.InPhase1 s.totalIps (hosts.pending + s.nonInterfacedIps.length)
  | .checking hosts _ => p.InPhase1 s.totalIps hosts.pending
  | .deepScanning hosts r _ => r.length ≤ 1 → r.length = 1 ∧ hosts.pending ≤ 1 ∧ Under 98 p ∧ hosts.Forall (OnlyHost p)
  | .ended _ r _ => r.length ≤ 1 → Under 100 p

theorem inOrder_phase2 {p : Progress} {left : ℕ} (h : p.InPhase1 s.totalIps left) (r : List (IpAddr × List UInt16)) :
    InOrder s (s.phase2 p r).progress (s.phase2 p r).stage := by
  have hlast := h.lastProgress
  have hsent : Under 50 (p.send 50) := h.under.send (max_le (by omega) hlast)
  unfold NetworkScan.phase2
  split_ifs with hnone
  · exact fun _ => hsent.send (by omega)
  · intro hfew
    have hlength := List.length_pos_iff.mpr hnone
    refine ⟨by omega, ?_, hsent.mono (by omega), ?_⟩
    · rw [Window.pending_start, List.length_map]
      exact hfew
    · refine .start _ (List.forall_mem_map.mpr (fun host _ => ?_))
      exact OnlyHost.start (hsent.mono (le_max_left _ _)) hlast h.batchesDone host.2

theorem inOrder_phase1b {p : Progress} (h : p.InPhase1 s.totalIps s.nonInterfacedIps.length)
    (r : List (IpAddr × List UInt16)) : InOrder s (s.phase1b p r).progress (s.phase1b p r).stage := by
  unfold NetworkScan.phase1b
  split_ifs
  · exact inOrder_phase2 h r
  · change p.InPhase1 s.totalIps (Window.start _ (s.nonInterfacedIps.map s.check)).pending
    rw [Window.pending_start, List.length_map]
    exact h

theorem inOrder_phase1a : InOrder s s.phase1a.progress s.phase1a.stage := by
  have hfirst : (Progress.empty.send 0).InPhase1 s.totalIps (s.interfacedIps.length + s.nonInterfacedIps.length) :=
    ⟨Under.send ⟨.nil, fun _ h => absurd h List.not_mem_nil⟩ (le_refl 0), Nat.zero_le _, rfl, (Nat.zero_add _).le⟩
  unfold NetworkScan.phase1a
  split_ifs with hnone
  · rw [hnone, List.length_nil, Nat.zero_add] at hfirst
    exact inOrder_phase1b hfirst _
  · change (Progress.empty.send 0).InPhase1 s.totalIps ((Window.start _ s.interfacedIps).pending + s.nonInterfacedIps.length)
    rw [Window.pending_start]
    exact hfirst

theorem InOrder.step {σ τ : ScanState s.Request} (h : InOrder s σ.progress σ.stage) (hstep : s.Step σ τ) :
    InOrder s τ.progress τ.stage := by
  cases hstep with
  | cancel =>
    obtain ⟨b, p, stage⟩ := σ
    cases stage with
    | arp hosts r => exact h
    | checking hosts r =>
      change p.InPhase1 s.totalIps (hosts.mapWaiting PortCheck.refused).pending
      rw [Window.pending_mapWaiting]
      exact h
    | deepScanning hosts r abandoned =>
      intro hfew
      obtain ⟨hone, hpending, hunder, hhosts⟩ := h hfew
      exact ⟨hone, (Window.pending_mapWaiting hosts _).trans_le hpending, hunder, hhosts.mapWaiting (fun _ hd => hd.under)⟩
    | ended phase r abandoned => exact h
  | fail b p stage hstage =>
    cases stage with
    | arp hosts r => exact fun _ => h.under_hundred
    | checking hosts r => exact fun _ => h.under_hundred
    | deepScanning hosts r abandoned => exact fun hfew => (h hfew).2.2.1.mono (by omega)
    | ended phase r abandoned => exact absurd rfl (hstage phase r abandoned)
  | arpAnswered b p hosts r i now ip isUp hip =>
    have hpending := Window.pending_finish (List.getElem?_eq_some_iff.mp hip).1
    refine Progress.InPhase1.hostChecked ?_ now
    rw [Nat.add_right_comm, hpending]
    exact h
  | arpDone b p hosts r hidle =>
    cases b
    · exact inOrder_phase1b ⟨h.under, h.lastProgress, h.batchesDone, by have := h.scanned; omega⟩ r
    · exact fun _ => h.under_hundred
  | check b p hosts r i c c' hc hstep =>
    change p.InPhase1 s.totalIps (hosts.replace i c').pending
    rw [Window.pending_replace]
    exact h
  | checked b p hosts r i now c hc hidle =>
    have hpending := Window.pending_finish (List.getElem?_eq_some_iff.mp hc).1
    refine Progress.InPhase1.hostChecked ?_ now
    rw [hpending]
    exact h
  | allChecked b p hosts r hidle =>
    cases b
    · exact inOrder_phase2 h r
    · exact fun _ => h.under_hundred
  | deepScan b p hosts r abandoned i now d d' report hd hstep =>
    intro hfew
    obtain ⟨hone, hpending, hunder, hhosts⟩ := h hfew
    have hd' := (hhosts.running d (List.mem_of_getElem? hd)).step hone now hstep
    refine ⟨hone, (Window.pending_replace hosts i d').trans_le hpending, hd'.under, ?_⟩
    -- It is the only one that runs, and none waits.
    exact hosts.forall_replace_only hpending (List.getElem?_eq_some_iff.mp hd).1 hd'
  | deepScanned b p hosts r abandoned i given hd =>
    intro hfew
    obtain ⟨hone, hpending, hunder, hhosts⟩ := h hfew
    have hless := Window.pending_finish (List.getElem?_eq_some_iff.mp hd).1
    exact ⟨hone, by omega, hunder, hhosts.finish i⟩
  | allDeepScanned b p hosts r abandoned hidle => exact fun hfew => (h hfew).2.2.1.send (by omega)

theorem inOrder_of_reaches {σ : ScanState s.Request} (h : s.Reaches σ) : InOrder s σ.progress σ.stage := by
  induction h with
  | refl => exact inOrder_phase1a
  | tail _ hstep ih => exact ih.step hstep

end one_host

section two_hosts

theorem answered_all {ρ : Type} (endpoints : List UInt16 → List ρ) (openPorts : List UInt16) (connections : Window UInt16)
    (rest : List UInt16) : ∃ connections', connections'.running = [] ∧
    DeepScan.Steps endpoints false (.ports openPorts connections rest) (.ports openPorts connections' rest) := by
  obtain ⟨connections', hfinishes, hidle⟩ := connections.exists_idle
  refine ⟨connections', hidle, hfinishes.lift (fun connections => DeepScan.ports openPorts connections rest) ?_⟩
  rintro w _ ⟨j, q, hq, rfl⟩
  exact ⟨_, .answered openPorts w rest j q false hq⟩

theorem ports_scanned {ρ : Type} (endpoints : List UInt16 → List ρ) (openPorts : List UInt16) (connections : Window UInt16)
    (rest : List UInt16) : DeepScan.Steps endpoints false (.ports openPorts connections rest) (.udp openPorts) := by
  generalize hn : rest.length = n
  induction n using Nat.strong_induction_on generalizing connections rest with
  | _ n ih =>
    obtain ⟨connections', hidle, hanswered⟩ := answered_all endpoints openPorts connections rest
    by_cases hrest : rest = []
    · rw [hrest] at hanswered ⊢
      exact hanswered.tail ⟨_, .lastBatch openPorts connections' hidle⟩
    · have hless : (rest.drop portsPerHostBatch).length < n := by
        have hlength := List.length_pos_iff.mpr hrest
        rw [List.length_drop, portsPerHostBatch]
        omega
      exact (hanswered.tail ⟨_, .nextBatch openPorts connections' rest hidle hrest⟩).trans (ih _ hless _ _ rfl)

theorem start_scanned {ρ : Type} (endpoints : List UInt16 → List ρ) (phase1Ports : List UInt16) :
    DeepScan.Steps endpoints false (.start phase1Ports) (.udp phase1Ports) := by
  unfold DeepScan.start
  dsimp only
  split_ifs
  · exact .refl
  · exact ports_scanned endpoints phase1Ports _ _

theorem requests_answered {ρ : Type} (endpoints : List UInt16 → List ρ) (requests : Window ρ) :
    ∃ requests', requests'.running = [] ∧ DeepScan.Steps endpoints false (.endpoints requests) (.endpoints requests') := by
  obtain ⟨requests', hfinishes, hidle⟩ := requests.exists_idle
  refine ⟨requests', hidle, hfinishes.lift DeepScan.endpoints ?_⟩
  rintro w _ ⟨j, request, hrequest, rfl⟩
  exact ⟨_, .responded w j request hrequest⟩

variable (p : Progress) (r : List (IpAddr × List UInt16)) (abandoned : Bool) {hosts : Window (DeepScan s.Request)} {i : ℕ}
  {phase1Ports : List UInt16}

/-- A host whose deep scan begins may come to where 95 is sent for it. -/
theorem sends_95 (hstart : hosts.running[i]? = some (.start phase1Ports)) : ∃ (p' : Progress) (requests : Window s.Request), p.sent <+: p'.sent ∧
    Relation.ReflTransGen s.Step ⟨false, p, .deepScanning hosts r abandoned⟩
      ⟨false, p'.send 95, .deepScanning (hosts.replace i (.endpoints requests)) r abandoned⟩ := by
  obtain ⟨hi, -⟩ := List.getElem?_eq_some_iff.mp hstart
  obtain ⟨p', hsent, hrun⟩ := steps_deepScan p r abandoned hstart (start_scanned s.endpoints phase1Ports)
  have hudp : (hosts.replace i (.udp phase1Ports)).running[i]? = some (.udp phase1Ports) := by
    rw [Window.running_replace, List.getElem?_set_self hi]
  have hscanned := hrun.tail (.deepScan false p' _ r abandoned i 0 _ _ _ hudp (.udpScanned phase1Ports))
  rw [Window.replace_replace] at hscanned
  exact ⟨p', _, hsent, hscanned⟩

/-- A host whose deep scan begins may be the next to be done with, and 98 is sent for it. -/
theorem sends_98 (hstart : hosts.running[i]? = some (.start phase1Ports)) : ∃ p' : Progress, 98 ∈ p'.sent ∧
    Relation.ReflTransGen s.Step ⟨false, p, .deepScanning hosts r abandoned⟩
      ⟨false, p', .deepScanning (hosts.finish i) r abandoned⟩ := by
  obtain ⟨hi, -⟩ := List.getElem?_eq_some_iff.mp hstart
  obtain ⟨p₁, requests, -, hrun₁⟩ := sends_95 p r abandoned hstart
  have hendpoints : (hosts.replace i (.endpoints requests)).running[i]? = some (.endpoints requests) := by
    rw [Window.running_replace, List.getElem?_set_self hi]
  obtain ⟨requests', hidle, hanswered⟩ := requests_answered s.endpoints requests
  obtain ⟨p₂, -, hrun₂⟩ := steps_deepScan (p₁.send 95) r abandoned hendpoints hanswered
  rw [Window.replace_replace] at hrun₂
  have hanswered' : (hosts.replace i (.endpoints requests')).running[i]? = some (.endpoints requests') := by
    rw [Window.running_replace, List.getElem?_set_self hi]
  have hlast := hrun₂.tail (.deepScan false p₂ _ r abandoned i 0 _ _ _ hanswered' (.endpointsScanned requests' hidle))
  rw [Window.replace_replace] at hlast
  have hover : (hosts.replace i (.done false)).running[i]? = some (.done false) := by
    rw [Window.running_replace, List.getElem?_set_self hi]
  have hdone := hlast.tail (.deepScanned false _ _ r abandoned i false hover)
  rw [Bool.or_false, Window.finish_replace] at hdone
  exact ⟨p₂.send 98, List.mem_append_right _ List.mem_cons_self, hrun₁.trans hdone⟩

/-- One of the hosts is done with before the ports of another one are scanned. -/
theorem exists_decrease (hmany : 1 < r.length) : ∃ σ,
    Relation.ReflTransGen s.Step (s.phase2 p r) σ ∧ ¬ σ.progress.Monotone := by
  have hlimit : 0 < getOptimalDeepScanConcurrency s.fdLimit portsPerHostBatch :=
    Nat.lt_of_lt_of_le Nat.one_pos (le_max_left _ _)
  let hosts : Window (DeepScan s.Request) := .start (getOptimalDeepScanConcurrency s.fdLimit portsPerHostBatch)
    (r.map (fun host => DeepScan.start host.2))
  have hphase2 : s.phase2 p r = ⟨false, p.send 50, .deepScanning hosts r false⟩ :=
    if_neg (fun h => by rw [h] at hmany; exact absurd hmany (by decide))
  have hhosts : hosts.Forall (fun d => ∃ phase1Ports, d = .start phase1Ports) :=
    .start _ (List.forall_mem_map.mpr (fun host _ => ⟨host.2, rfl⟩))
  have hpending : hosts.pending = r.length := (Window.pending_start _ _).trans (List.length_map _)
  have hnext : ∀ w : Window (DeepScan s.Request), w.Filled → 0 < w.pending →
      w.Forall (fun d => ∃ phase1Ports, d = .start phase1Ports) → ∃ phase1Ports, w.running[0]? = some (.start phase1Ports) := by
    intro w hfilled hsome hstarts
    rcases hrunning : w.running with _ | ⟨d, rest⟩
    · rw [Window.pending, hrunning, hfilled hrunning] at hsome
      exact absurd hsome (Nat.lt_irrefl 0)
    · obtain ⟨phase1Ports, rfl⟩ := hstarts.running d (by rw [hrunning]; exact List.mem_cons_self)
      exact ⟨phase1Ports, rfl⟩
  obtain ⟨ports₁, hfirst⟩ := hnext hosts (Window.filled_start hlimit _) (by omega) hhosts
  have hless := Window.pending_finish (List.getElem?_eq_some_iff.mp hfirst).1
  obtain ⟨p₁, hsent, hrun₁⟩ := sends_98 (p.send 50) r false hfirst
  obtain ⟨ports₂, hsecond⟩ := hnext (hosts.finish 0) (Window.filled_finish (w := hosts) hlimit 0) (by omega) (hhosts.finish 0)
  obtain ⟨p₂, requests, hmore, hrun₂⟩ := sends_95 p₁ r false hsecond
  refine ⟨_, hphase2 ▸ hrun₁.trans hrun₂, fun hmonotone => ?_⟩
  have hle := (List.pairwise_append.mp hmonotone.1).2.2 98 (hmore.subset hsent) 95 List.mem_cons_self
  omega

end two_hosts

section monotone

def Stage.InPhase1 {ρ : Type} : Stage ρ → Prop
  | .arp _ _ => True
  | .checking _ _ => True
  | .deepScanning _ _ _ => False
  | .ended _ _ _ => False

/-- From phase 2 on no further host is found. -/
theorem responsiveHosts_of_phase2 {p : Progress} {r : List (IpAddr × List UInt16)} {σ : ScanState s.Request}
    (hrun : Relation.ReflTransGen s.Step (s.phase2 p r) σ) : ¬ σ.stage.InPhase1 ∧ σ.stage.responsiveHosts = r := by
  induction hrun with
  | refl =>
    unfold NetworkScan.phase2
    split_ifs with hnone
    · exact ⟨id, hnone.symm⟩
    · exact ⟨id, rfl⟩
  | @tail σ τ _ hstep ih =>
    obtain ⟨hphase2, hsame⟩ := ih
    cases hstep with
    | cancel =>
      obtain ⟨b, p, stage⟩ := σ
      cases stage <;> exact ⟨hphase2, hsame⟩
    | fail b p stage hstage => exact ⟨id, hsame⟩
    | arpAnswered b p hosts r i now ip isUp hip => exact absurd trivial hphase2
    | arpDone b p hosts r hidle => exact absurd trivial hphase2
    | check b p hosts r i c c' hc hstep => exact absurd trivial hphase2
    | checked b p hosts r i now c hc hidle => exact absurd trivial hphase2
    | allChecked b p hosts r hidle => exact absurd trivial hphase2
    | deepScan b p hosts r abandoned i now d d' report hd hstep => exact ⟨id, hsame⟩
    | deepScanned b p hosts r abandoned i given hd => exact ⟨id, hsame⟩
    | allDeepScanned b p hosts r abandoned hidle => exact ⟨id, hsame⟩

/-- In phase 1, and from the end of phase 1 on. -/
theorem progress_monotone_iff (s : NetworkScan) {p : Progress} {r : List (IpAddr × List UInt16)}
    (hfound : s.Reaches (s.phase2 p r)) :
    (∀ σ, s.Reaches σ → σ.stage.InPhase1 ∨ σ.stage.responsiveHosts.length ≤ 1 → σ.progress.Monotone) ∧
    ((∀ σ, Relation.ReflTransGen s.Step (s.phase2 p r) σ → σ.progress.Monotone) ↔ r.length ≤ 1) := by
  have hfew : ∀ σ, s.Reaches σ → σ.stage.InPhase1 ∨ σ.stage.responsiveHosts.length ≤ 1 → σ.progress.Monotone := by
    rintro ⟨b, p, stage⟩ hσ hstage
    have hinOrder := inOrder_of_reaches hσ
    cases stage with
    | arp hosts r => exact Progress.InPhase1.under_hundred hinOrder
    | checking hosts r => exact Progress.InPhase1.under_hundred hinOrder
    | deepScanning hosts r abandoned => exact (hinOrder (hstage.resolve_left id)).2.2.1.mono (by omega)
    | ended phase r abandoned => exact hinOrder (hstage.resolve_left id)
  refine ⟨hfew, fun hall => ?_, fun hone σ hrun => ?_⟩
  · by_contra hmany
    obtain ⟨σ, hrun, hdecrease⟩ := exists_decrease (s := s) p r (not_le.mp hmany)
    exact hdecrease (hall σ hrun)
  · exact hfew σ (hfound.trans hrun) (.inr ((responsiveHosts_of_phase2 hrun).2 ▸ hone))

/-- A scan of two addresses on a subnet with an interface. -/
def twoAddresses : NetworkScan where
  fdLimit := 1024
  concurrentScans := 15
  interfacedIps := [.v4 0x0a000001, .v4 0x0a000002]
  nonInterfacedIps := []
  discoveryPorts := []
  Request := String
  endpoints := fun _ => []

theorem twoAddresses_found : ∃ p, twoAddresses.Reaches (twoAddresses.phase2 p [(.v4 0x0a000001, []), (.v4 0x0a000002, [])]) := by
  have hconcurrency : getOptimalArpConcurrency twoAddresses.fdLimit = 50 := by decide
  have hstart : twoAddresses.Reaches ⟨false, Progress.empty.send 0, .arp (.start 50 twoAddresses.interfacedIps) []⟩ := by
    rw [NetworkScan.Reaches, NetworkScan.phase1a, if_neg (show twoAddresses.interfacedIps ≠ [] from List.cons_ne_nil _ _),
      hconcurrency]
  have hsame : ∀ p r, twoAddresses.phase1b p r = twoAddresses.phase2 p r := fun p r => if_pos rfl
  have hfirst := hstart.tail (.arpAnswered false _ _ [] 0 0 (.v4 0x0a000001) true rfl)
  have hsecond := hfirst.tail (.arpAnswered false _ _ _ 0 0 (.v4 0x0a000002) true rfl)
  have hdone := hsecond.tail (.arpDone false _ _ _ rfl)
  exact ⟨_, hsame _ _ ▸ hdone⟩

theorem progress_monotone_found : ∃ p r, twoAddresses.Reaches (twoAddresses.phase2 p r) ∧
    (∀ σ, twoAddresses.Reaches σ → σ.stage.InPhase1 ∨ σ.stage.responsiveHosts.length ≤ 1 → σ.progress.Monotone) ∧
    ((∀ σ, Relation.ReflTransGen twoAddresses.Step (twoAddresses.phase2 p r) σ → σ.progress.Monotone) ↔ r.length ≤ 1) := by
  obtain ⟨p, hfound⟩ := twoAddresses_found
  exact ⟨p, _, hfound, progress_monotone_iff twoAddresses hfound⟩

/-- Both addresses answer. -/
theorem progress_decreases : ¬ ∀ (s : NetworkScan) (σ : ScanState s.Request), s.Reaches σ → σ.progress.Monotone := by
  intro h
  obtain ⟨p, hfound⟩ := twoAddresses_found
  obtain ⟨σ, hrun, hdecrease⟩ := exists_decrease (s := twoAddresses) p
    [(.v4 0x0a000001, []), (.v4 0x0a000002, [])] (by decide)
  exact hdecrease (h twoAddresses σ (hfound.trans hrun))

end monotone

end VantageNet.Scanning
