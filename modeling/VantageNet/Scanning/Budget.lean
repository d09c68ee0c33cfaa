import VantageNet.Scanning.Runs

/-!
The connections that a scan has in flight against the descriptors that are left for it.
-/

namespace VantageNet.Scanning

open Interaction Inventory

section limits

/-- The hosts that are checked at once where `available` descriptors are left. -/
def hostsAtOnce (available : ℕ) : ℕ :=
  if available < 110 then 1
  else if available < 165 then 2
  else if available < 220 then 3
  else if available < 275 then 4
  else if available < 500 then 5
  else if available < 840 then available / 55
  else if available < 2000 then 15
  else if available < 5000 then 30
  else 50

/-- The ports of one host that are checked at once. -/
def portsAtOnce (available : ℕ) : ℕ := if available < 500 then available / 2 else min available 1000

variable {fdLimit : ℕ}

theorem hostsAtOnce_pos (available : ℕ) : 0 < hostsAtOnce available := by
  unfold hostsAtOnce
  split_ifs <;> omega

theorem portsAtOnce_pos {available : ℕ} (h : 50 ≤ available) : 0 < portsAtOnce available := by
  unfold portsAtOnce
  split_ifs <;> omega

theorem getOptimalPortBatchSize_eq (havailable : 50 ≤ fdLimit - reserved) :
    getOptimalPortBatchSize fdLimit = portsAtOnce (fdLimit - reserved) := by
  unfold getOptimalPortBatchSize portsAtOnce
  exact if_neg (not_lt.mpr havailable)

theorem div_div_eq {a k : ℕ} (h : k < a / k) : a / (a / k) = k := by
  have hmod := Nat.div_add_mod a k
  have hk : 0 < k := by
    rcases Nat.eq_zero_or_pos k with rfl | hk
    · rw [Nat.div_zero] at h
      omega
    · exact hk
  have hlt := Nat.mod_lt a hk
  apply Nat.div_eq_of_lt_le
  · omega
  · rw [Nat.add_mul, Nat.one_mul]
    omega

/-- The descriptors that are set aside for one host where `k` hosts are aimed at. -/
def fdsPerHost (available k : ℕ) : ℕ := clamp (available / k - (25 + 20)) 10 200 + 25 + 20

theorem fdsPerHost_few {a k : ℕ} (h : a / k ≤ 55) : fdsPerHost a k = 55 := by
  unfold fdsPerHost clamp
  omega

theorem fdsPerHost_some {a k : ℕ} (hlow : 55 ≤ a / k) (hhigh : a / k ≤ 245) : fdsPerHost a k = a / k := by
  unfold fdsPerHost clamp
  omega

theorem fdsPerHost_many {a k : ℕ} (h : 245 ≤ a / k) : fdsPerHost a k = 245 := by
  unfold fdsPerHost clamp
  omega

/-- As many hosts as were aimed at, unless there are too few descriptors for that. -/
theorem clamp_div_fdsPerHost {a k : ℕ} (hk : 1 ≤ k) (hk' : k ≤ 50) :
    clamp (a / fdsPerHost a k) 1 50 =
      if a / k ≤ 55 then clamp (a / 55) 1 50 else if a / k ≤ 245 then k else clamp (a / 245) 1 50 := by
  split_ifs with hfew hsome
  · rw [fdsPerHost_few hfew]
  · rw [fdsPerHost_some (by omega) hsome, div_div_eq (by omega)]
    unfold clamp
    omega
  · rw [fdsPerHost_many (by omega)]

theorem getOptimalConcurrentScans_eq (havailable : 50 ≤ fdLimit - reserved) :
    getOptimalConcurrentScans fdLimit 15 = hostsAtOnce (fdLimit - reserved) := by
  have hvalue : getOptimalConcurrentScans fdLimit 15 = clamp ((fdLimit - reserved) /
      fdsPerHost (fdLimit - reserved) (if fdLimit - reserved < 500 then 5 else if fdLimit - reserved < 2000 then 15
        else if fdLimit - reserved < 5000 then 30 else 50)) 1 50 := rfl
  rw [hvalue]
  generalize fdLimit - reserved = a at *
  unfold hostsAtOnce
  by_cases h500 : a < 500
  · rw [if_pos h500, clamp_div_fdsPerHost (by decide) (by decide)]
    unfold clamp
    split_ifs <;> omega
  · rw [if_neg h500]
    by_cases h2000 : a < 2000
    · rw [if_pos h2000, clamp_div_fdsPerHost (by decide) (by decide)]
      unfold clamp
      split_ifs <;> omega
    · rw [if_neg h2000]
      by_cases h5000 : a < 5000
      · rw [if_pos h5000, clamp_div_fdsPerHost (by decide) (by decide)]
        unfold clamp
        split_ifs <;> omega
      · rw [if_neg h5000, clamp_div_fdsPerHost (by decide) (by decide)]
        unfold clamp
        split_ifs <;> omega

end limits

section bound

variable {s : NetworkScan} {b : Bool}

/-- No address can answer in the first phase. -/
def NetworkScan.Barren (s : NetworkScan) : Prop :=
  s.interfacedIps = [] ∧ (s.nonInterfacedIps = [] ∨ s.discoveryPorts = [])

theorem settle_limit {τ : Type} (b : Bool) (w : Window τ) (j : ℕ) : (settle b w j).limit = w.limit := by
  cases b <;> rfl

theorem settle_pending {τ : Type} (b : Bool) {w : Window τ} {j : ℕ} (hj : j < w.running.length) :
    (settle b w j).pending ≤ w.pending := by
  have hfinish := Window.pending_finish hj
  cases b
  · change (w.finish j).pending ≤ w.pending
    omega
  · exact Nat.zero_le _

structure PortCheck.Within (batch ports : ℕ) (c : PortCheck) : Prop where
  limit : c.connections.limit = batch
  pending : c.connections.pending ≤ ports
  found : ports = 0 → c.openPorts = []

namespace PortCheck.Within

variable {batch ports : ℕ} {c c' : PortCheck}

theorem load (h : c.Within batch ports) : c.connections.running.length ≤ min batch ports := by
  have hrunning := c.connections.length_running_le
  have hlimit := h.limit
  have hpending := h.pending
  omega

theorem refused (h : c.Within batch ports) : c.refused.Within batch ports := ⟨h.limit, Nat.zero_le _, h.found⟩

theorem step (h : c.Within batch ports) (hstep : c.Step b c') : c'.Within batch ports := by
  cases hstep with
  | answered j p isOpen hp =>
    obtain ⟨hj, -⟩ := List.getElem?_eq_some_iff.mp hp
    have hpending := settle_pending b hj
    have hrunning := c.connections.length_running_le
    have hports := h.pending
    refine ⟨(settle_limit b _ j).trans h.limit, hpending.trans hports, fun hzero => ?_⟩
    omega

theorem responsive (h : c.Within batch ports) (hzero : ports = 0) : c.responsive = [] := if_pos (h.found hzero)

end PortCheck.Within

def DeepScan.Within {ρ : Type} : DeepScan ρ → Prop
  | .ports _ connections _ => connections.limit ≤ portsPerHostBatch
  | .udp _ => True
  | .endpoints requests => requests.limit ≤ portsPerHostBatch
  | .done _ => True

namespace DeepScan.Within

variable {ρ : Type} {d d' : DeepScan ρ} {report : Report} {endpoints : List UInt16 → List ρ}

theorem load (h : d.Within) : d.inFlight ≤ portsPerHostBatch := by
  cases d with
  | ports openPorts connections rest => exact connections.bounded.trans h
  | udp openPorts => exact Nat.zero_le _
  | endpoints requests => exact requests.bounded.trans h
  | done abandoned => exact Nat.zero_le _

theorem batch (openPorts remaining : List UInt16) : (DeepScan.batch (ρ := ρ) openPorts remaining).Within := le_refl portsPerHostBatch

theorem start (phase1Ports : List UInt16) : (DeepScan.start (ρ := ρ) phase1Ports).Within := by
  unfold DeepScan.start
  dsimp only
  split_ifs
  · trivial
  · exact batch _ _

theorem step (h : d.Within) (hstep : d.Step endpoints b report d') : d'.Within := by
  cases hstep with
  | answered openPorts connections rest j p isOpen hp => exact (settle_limit b _ j).trans_le h
  | nextBatch openPorts connections rest hidle hrest =>
    cases b
    · exact batch openPorts rest
    · trivial
  | lastBatch openPorts connections hidle => trivial
  | udpScanned openPorts =>
    change min (portsPerHostBatch / 2) 50 ≤ portsPerHostBatch
    decide
  | responded requests j r hr => exact (settle_limit b _ j).trans_le h
  | endpointsScanned requests hidle => trivial
  | failed d hd => trivial

end DeepScan.Within

def Stage.Within (s : NetworkScan) : Stage s.Request → Prop
  | .arp hosts r => s.Barren → hosts.pending = 0 ∧ r = []
  | .checking hosts r =>
    hosts.limit = getOptimalConcurrentScans s.fdLimit s.concurrentScans ∧ hosts.pending ≤ s.nonInterfacedIps.length ∧
    hosts.Forall (PortCheck.Within (getOptimalPortBatchSize s.fdLimit) s.discoveryPorts.length) ∧ (s.Barren → r = [])
  | .deepScanning hosts _ _ =>
    hosts.limit = getOptimalDeepScanConcurrency s.fdLimit portsPerHostBatch ∧ hosts.Forall DeepScan.Within ∧
    (s.Barren → hosts.pending = 0)
  | .ended _ _ _ => True

theorem within_phase2 (p : Progress) {r : List (IpAddr × List UInt16)} (hbarren : s.Barren → r = []) :
    (s.phase2 p r).stage.Within s := by
  unfold NetworkScan.phase2
  split_ifs with hr
  · trivial
  · exact ⟨rfl, .start _ (List.forall_mem_map.mpr (fun host _ => DeepScan.Within.start _)), fun h => absurd (hbarren h) hr⟩

theorem within_phase1b (p : Progress) {r : List (IpAddr × List UInt16)} (hbarren : s.Barren → r = []) :
    (s.phase1b p r).stage.Within s := by
  unfold NetworkScan.phase1b
  split_ifs
  · exact within_phase2 p hbarren
  · refine ⟨rfl, ?_, .start _ (List.forall_mem_map.mpr (fun ip _ => ?_)), hbarren⟩
    · rw [Window.pending_start, List.length_map]
    · exact ⟨Window.limit_start _ _, (Window.pending_start _ _).le, fun _ => rfl⟩

theorem within_phase1a : s.phase1a.stage.Within s := by
  unfold NetworkScan.phase1a
  split_ifs with hnone
  · exact within_phase1b _ (fun _ => rfl)
  · exact fun hbarren => absurd hbarren.1 hnone

theorem Stage.Within.refused {stage : Stage s.Request} (h : stage.Within s) : stage.refused.Within s := by
  cases stage with
  | arp hosts r => exact h
  | checking hosts r =>
    obtain ⟨hlimit, hpending, hhosts, hbarren⟩ := h
    refine ⟨hlimit, ?_, hhosts.mapWaiting (fun _ hc => hc.refused), hbarren⟩
    rwa [Window.pending_mapWaiting]
  | deepScanning hosts r abandoned =>
    obtain ⟨hlimit, hhosts, hbarren⟩ := h
    refine ⟨hlimit, hhosts.mapWaiting (fun _ _ => trivial), fun hb => ?_⟩
    rw [Window.pending_mapWaiting, hbarren hb]
  | ended phase r abandoned => trivial

theorem Stage.Within.step {σ τ : ScanState s.Request} (h : σ.stage.Within s) (hstep : s.Step σ τ) : τ.stage.Within s := by
  cases hstep with
  | cancel => exact h.refused
  | fail b p stage hstage => trivial
  | arpAnswered b p hosts r i now ip isUp hip =>
    intro hbarren
    obtain ⟨hi, -⟩ := List.getElem?_eq_some_iff.mp hip
    have hpending : hosts.waiting.length + hosts.running.length = 0 := (h hbarren).1
    omega
  | arpDone b p hosts r hidle =>
    cases b
    · exact within_phase1b p (fun hbarren => (h hbarren).2)
    · trivial
  | check b p hosts r i c c' hc hstep =>
    obtain ⟨hlimit, hpending, hhosts, hbarren⟩ := h
    refine ⟨hlimit, ?_, hhosts.replace i ((hhosts.running c (List.mem_of_getElem? hc)).step hstep), hbarren⟩
    rwa [Window.pending_replace]
  | checked b p hosts r i now c hc hidle =>
    obtain ⟨hlimit, hpending, hhosts, hbarren⟩ := h
    obtain ⟨hi, -⟩ := List.getElem?_eq_some_iff.mp hc
    have hfinish := Window.pending_finish hi
    refine ⟨hlimit, by omega, hhosts.finish i, fun hb => ?_⟩
    rw [hbarren hb, List.nil_append]
    rcases hb.2 with hnone | hnone
    · rw [hnone, List.length_nil] at hpending
      omega
    · exact (hhosts.running c (List.mem_of_getElem? hc)).responsive (by rw [hnone, List.length_nil])
  | allChecked b p hosts r hidle =>
    cases b
    · exact within_phase2 p h.2.2.2
    · trivial
  | deepScan b p hosts r abandoned i now d d' report hd hstep =>
    obtain ⟨hlimit, hhosts, hbarren⟩ := h
    refine ⟨hlimit, hhosts.replace i ((hhosts.running d (List.mem_of_getElem? hd)).step hstep), fun hb => ?_⟩
    rw [Window.pending_replace, hbarren hb]
  | deepScanned b p hosts r abandoned i given hd =>
    obtain ⟨hlimit, hhosts, hbarren⟩ := h
    obtain ⟨hi, -⟩ := List.getElem?_eq_some_iff.mp hd
    have hfinish := Window.pending_finish hi
    refine ⟨hlimit, hhosts.finish i, fun hb => ?_⟩
    have hpending := hbarren hb
    omega
  | allDeepScanned b p hosts r abandoned hidle => trivial

theorem within_of_reaches {σ : ScanState s.Request} (h : s.Reaches σ) : σ.stage.Within s := by
  induction h with
  | refl => exact within_phase1a
  | tail _ hstep ih => exact ih.step hstep

theorem inFlight_checking_le {hosts : Window PortCheck} {r : List (IpAddr × List UInt16)}
    (h : (Stage.checking (ρ := s.Request) hosts r).Within s) : (Stage.checking (ρ := s.Request) hosts r).inFlight ≤
      min (getOptimalConcurrentScans s.fdLimit s.concurrentScans) s.nonInterfacedIps.length *
        min (getOptimalPortBatchSize s.fdLimit) s.discoveryPorts.length := by
  obtain ⟨hlimit, hpending, hhosts, -⟩ := h
  have hload := Window.inUse_le (w := hosts) (fun c hc => (hhosts.running c hc).load)
  refine hload.trans (Nat.mul_le_mul_right _ ?_)
  omega

theorem inFlight_deepScanning_le {hosts : Window (DeepScan s.Request)} {r : List (IpAddr × List UInt16)} {abandoned : Bool}
    (h : (Stage.deepScanning hosts r abandoned).Within s) : (Stage.deepScanning hosts r abandoned).inFlight ≤
      min (getOptimalDeepScanConcurrency s.fdLimit portsPerHostBatch) hosts.pending * portsPerHostBatch := by
  obtain ⟨hlimit, hhosts, -⟩ := h
  have hload := Window.inUse_le (w := hosts) (fun d hd => (hhosts.running d hd).load)
  rwa [hlimit] at hload

end bound

section attained

variable {s : NetworkScan} {p : Progress} {r : List (IpAddr × List UInt16)}

theorem nodup_allPorts : allPorts.Nodup := by
  refine List.Nodup.map_on ?_ List.nodup_range'
  intro p hp q hq heq
  rw [List.mem_range'_1] at hp hq
  have hnat := congrArg UInt16.toNat heq
  rw [UInt16.toNat_ofNat_of_lt' (by change p < 65536; omega), UInt16.toNat_ofNat_of_lt' (by change q < 65536; omega)] at hnat
  exact hnat

theorem length_remainingTcpPorts {phase1Ports : List UInt16} (hshort : phase1Ports.length ≤ 1) :
    65534 ≤ (remainingTcpPorts phase1Ports).length := by
  have hall : allPorts.length = 65535 := by rw [allPorts, List.length_map, List.length_range']
  rcases phase1Ports with _ | ⟨p, _ | ⟨q, rest⟩⟩
  · have hnone : remainingTcpPorts [] = allPorts := List.filter_eq_self.mpr (fun _ _ => by simp)
    rw [hnone, hall]
    decide
  · have herase : remainingTcpPorts [p] = allPorts.erase p := by
      rw [nodup_allPorts.erase_eq_filter]
      exact List.filter_congr (fun q _ => by rw [Bool.eq_iff_iff]; simp)
    rw [herase]
    have hlength := List.length_erase (a := p) (l := allPorts)
    split_ifs at hlength <;> omega
  · simp at hshort

theorem inFlight_start {ρ : Type} {phase1Ports : List UInt16} (hshort : phase1Ports.length ≤ 1) :
    (DeepScan.start (ρ := ρ) phase1Ports).inFlight = portsPerHostBatch := by
  have hremaining := length_remainingTcpPorts hshort
  have hnot : remainingTcpPorts phase1Ports ≠ [] := fun h => by rw [h, List.length_nil] at hremaining; omega
  unfold DeepScan.start
  dsimp only
  rw [if_neg hnot]
  change (Window.start portsPerHostBatch ((remainingTcpPorts phase1Ports).take portsPerHostBatch)).running.length = _
  rw [Window.length_running_start, List.length_take]
  have hbatch : portsPerHostBatch ≤ 65534 := by decide
  omega

theorem inFlight_phase2 (hr : r ≠ []) (hshort : ∀ host ∈ r, host.2.length ≤ 1) :
    portsPerHostBatch ≤ (s.phase2 p r).stage.inFlight := by
  have hload : ∀ d ∈ r.map (fun host => DeepScan.start (ρ := s.Request) host.2), d.inFlight = portsPerHostBatch :=
    List.forall_mem_map.mpr (fun host hhost => inFlight_start (hshort host hhost))
  have hone : 1 ≤ getOptimalDeepScanConcurrency s.fdLimit portsPerHostBatch := le_max_left _ _
  have hpos : 1 ≤ r.length := List.length_pos_iff.mpr hr
  rw [NetworkScan.phase2, if_neg hr]
  change _ ≤ (Window.start _ _).inUse DeepScan.inFlight
  rw [Window.inUse_start _ hload, List.length_map]
  exact Nat.le_mul_of_pos_left _ (by omega)

theorem inFlight_phase1b (hips : s.nonInterfacedIps ≠ []) : (s.phase1b p r).stage.inFlight =
    min (getOptimalConcurrentScans s.fdLimit s.concurrentScans) s.nonInterfacedIps.length *
      min (getOptimalPortBatchSize s.fdLimit) s.discoveryPorts.length := by
  have hload : ∀ c ∈ s.nonInterfacedIps.map s.check,
      c.connections.running.length = min (getOptimalPortBatchSize s.fdLimit) s.discoveryPorts.length :=
    List.forall_mem_map.mpr (fun ip _ => Window.length_running_start _ _)
  have hall := Window.inUse_start (getOptimalConcurrentScans s.fdLimit s.concurrentScans) hload
  rw [List.length_map] at hall
  rw [NetworkScan.phase1b, if_neg hips]
  exact hall

/-- A scan that finds a host opens a full batch of connections to it. -/
theorem reaches_batch {hosts : Window PortCheck} (hreached : s.Reaches ⟨false, p, .checking hosts r⟩)
    (hshort : ∀ host ∈ r, host.2.length ≤ 1) (hhosts : hosts.Forall (fun c => c.openPorts.length ≤ 1))
    (hsome : r ≠ [] ∨ ∃ c ∈ hosts.running, c.openPorts ≠ []) :
    ∃ σ, s.Reaches σ ∧ portsPerHostBatch ≤ σ.stage.inFlight := by
  obtain ⟨hosts', r', p', hrest, hidle, hshort', hsome'⟩ := drained (s := s) (p := p) (r := r) hosts
  exact ⟨s.phase2 p' r', (hreached.trans hrest).tail (.allChecked false p' hosts' r' hidle),
    inFlight_phase2 (hsome' hsome) (hshort' hshort hhosts)⟩

theorem forall_checks (limit : ℕ) : (Window.start limit (s.nonInterfacedIps.map s.check)).Forall
    (fun c => c.openPorts.length ≤ 1) :=
  .start _ (List.forall_mem_map.mpr (fun _ _ => Nat.zero_le 1))

theorem reaches_batch_arp {ip : IpAddr} {ips : List IpAddr} (hips : s.interfacedIps = ip :: ips) :
    ∃ σ, s.Reaches σ ∧ portsPerHostBatch ≤ σ.stage.inFlight := by
  obtain ⟨p, hdone⟩ := reaches_answered hips
  have hshort : ∀ host ∈ [(ip, ([] : List UInt16))], host.2.length ≤ 1 := List.forall_mem_singleton.mpr (Nat.zero_le 1)
  by_cases hnone : s.nonInterfacedIps = []
  · rw [NetworkScan.phase1b, if_pos hnone] at hdone
    exact ⟨_, hdone, inFlight_phase2 (List.cons_ne_nil _ _) hshort⟩
  · rw [NetworkScan.phase1b, if_neg hnone] at hdone
    exact reaches_batch hdone hshort (forall_checks _) (.inl (List.cons_ne_nil _ _))

theorem reaches_batch_port {ip : IpAddr} {ips : List IpAddr} {q : UInt16} {ports : List UInt16}
    (hips : s.nonInterfacedIps = ip :: ips) (hports : s.discoveryPorts = q :: ports)
    (hhosts : 0 < getOptimalConcurrentScans s.fdLimit s.concurrentScans) (hbatch : 0 < getOptimalPortBatchSize s.fdLimit) :
    ∃ σ, s.Reaches σ ∧ portsPerHostBatch ≤ σ.stage.inFlight := by
  obtain ⟨p, hreached⟩ := reaches_phase1b (s := s)
  rw [NetworkScan.phase1b, if_neg (hips ▸ List.cons_ne_nil _ _)] at hreached
  have hfirst := Window.first_start (x := s.check ip) (s.nonInterfacedIps.map s.check) hhosts (by rw [hips]; rfl)
  have hfirstPort : (s.check ip).connections.running[0]? = some q :=
    Window.first_start s.discoveryPorts hbatch (by rw [hports]; rfl)
  exact reaches_batch (hreached.tail (.check false p _ _ 0 _ _ hfirst (.answered 0 q true hfirstPort)))
    (fun _ h => absurd h List.not_mem_nil) ((forall_checks _).replace 0 (le_refl 1))
    (.inr ⟨_, List.mem_set (List.getElem?_eq_some_iff.mp hfirst).1 _, List.cons_ne_nil _ _⟩)

end attained

section budget

variable {s : NetworkScan}

/-- `interfaced` and `nonInterfaced` addresses and `ports` discovery ports are few enough for what is
available: those that are checked at once take no more, and the batch of a deep scan fits, or no host
will be deep scanned. -/
def Fits (available interfaced nonInterfaced ports : ℕ) : Prop :=
  min (hostsAtOnce available) nonInterfaced * min (portsAtOnce available) ports ≤ available ∧
  (200 ≤ available ∨ interfaced = 0 ∧ (nonInterfaced = 0 ∨ ports = 0))

theorem scan_within_budget_iff (hautomatic : s.concurrentScans = 15) (havailable : 50 ≤ s.fdLimit - reserved) :
    (∀ σ, s.Reaches σ → σ.stage.inFlight ≤ s.fdLimit - reserved) ↔
      Fits (s.fdLimit - reserved) s.interfacedIps.length s.nonInterfacedIps.length s.discoveryPorts.length := by
  have hhosts := getOptimalConcurrentScans_eq havailable
  have hports := getOptimalPortBatchSize_eq havailable
  rw [← hautomatic] at hhosts
  constructor
  · intro hbudget
    constructor
    · by_cases hips : s.nonInterfacedIps = []
      · rw [hips, List.length_nil, Nat.min_zero, Nat.zero_mul]
        exact Nat.zero_le _
      · obtain ⟨p, hreached⟩ := reaches_phase1b (s := s)
        have hall := hbudget _ hreached
        rwa [inFlight_phase1b hips, hhosts, hports] at hall
    · by_contra hnot
      obtain ⟨hfew, hfound⟩ := not_or.mp hnot
      have hbatch : ∃ σ, s.Reaches σ ∧ portsPerHostBatch ≤ σ.stage.inFlight := by
        rcases hinterfaced : s.interfacedIps with _ | ⟨ip, ips⟩
        · rcases hips : s.nonInterfacedIps with _ | ⟨ip, ips⟩
          · exact absurd ⟨by rw [hinterfaced]; rfl, .inl (by rw [hips]; rfl)⟩ hfound
          · rcases hdiscovery : s.discoveryPorts with _ | ⟨p, ports⟩
            · exact absurd ⟨by rw [hinterfaced]; rfl, .inr (by rw [hdiscovery]; rfl)⟩ hfound
            · exact reaches_batch_port hips hdiscovery (hhosts ▸ hostsAtOnce_pos _) (hports ▸ portsAtOnce_pos havailable)
        · exact reaches_batch_arp hinterfaced
      obtain ⟨σ, hσ, hmany⟩ := hbatch
      have hmost := hbudget σ hσ
      have hvalue : portsPerHostBatch = 200 := rfl
      omega
  · rintro ⟨hchecks, hdeep⟩ σ hσ
    have hwithin := within_of_reaches hσ
    cases hstage : σ.stage with
    | checking hosts r =>
      rw [hstage] at hwithin
      have hle := inFlight_checking_le hwithin
      rw [hhosts, hports] at hle
      exact hle.trans hchecks
    | arp hosts r => exact Nat.zero_le _
    | deepScanning hosts r abandoned =>
      rw [hstage] at hwithin
      have hle := inFlight_deepScanning_le hwithin
      refine hle.trans ?_
      rcases hdeep with hdeep | ⟨hnone, hbarren⟩
      · have hdiv : getOptimalDeepScanConcurrency s.fdLimit portsPerHostBatch * portsPerHostBatch ≤ s.fdLimit - reserved := by
          unfold getOptimalDeepScanConcurrency portsPerHostBatch
          dsimp only
          omega
        exact (Nat.mul_le_mul_right _ (min_le_left _ _)).trans hdiv
      · rw [hwithin.2.2 ⟨List.length_eq_zero_iff.mp hnone,
          hbarren.imp List.length_eq_zero_iff.mp List.length_eq_zero_iff.mp⟩, Nat.min_zero, Nat.zero_mul]
        exact Nat.zero_le _
    | ended phase r abandoned => exact Nat.zero_le _

/-- 1024 descriptors, 254 addresses and 100 discovery ports. -/
def wideScan : NetworkScan where
  fdLimit := 1024
  concurrentScans := 15
  interfacedIps := []
  nonInterfacedIps := (List.range 254).map (fun n => .v4 (BitVec.ofNat 32 (0x0a000001 + n)))
  discoveryPorts := (List.range 100).map (fun n => UInt16.ofNat (8000 + n))
  Request := String
  endpoints := fun _ => []

theorem scan_within_budget_narrow :
    (wideScan.concurrentScans = 15 ∧ 50 ≤ wideScan.fdLimit - reserved) ∧
    ((∀ σ, wideScan.Reaches σ → σ.stage.inFlight ≤ wideScan.fdLimit - reserved) ↔
      Fits (wideScan.fdLimit - reserved) wideScan.interfacedIps.length wideScan.nonInterfacedIps.length
        wideScan.discoveryPorts.length) :=
  ⟨⟨rfl, by decide⟩, scan_within_budget_iff rfl (by decide)⟩

/-- 14 hosts with 100 connections each, where 821 descriptors are left. -/
theorem scan_exceeds_budget : ¬ ∀ s : NetworkScan, s.concurrentScans = 15 → 50 ≤ s.fdLimit - reserved →
    ∀ σ, s.Reaches σ → σ.stage.inFlight ≤ s.fdLimit - reserved := by
  intro h
  have hsome : wideScan.nonInterfacedIps ≠ [] := by decide
  obtain ⟨p, hreached⟩ := reaches_phase1b (s := wideScan)
  have hall := h wideScan rfl (by decide) _ hreached
  have hips : wideScan.nonInterfacedIps.length = 254 := by rw [wideScan, List.length_map, List.length_range]
  have hports : wideScan.discoveryPorts.length = 100 := by rw [wideScan, List.length_map, List.length_range]
  rw [inFlight_phase1b hsome, hips, hports] at hall
  revert hall
  decide

end budget

end VantageNet.Scanning
