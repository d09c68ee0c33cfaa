import VantageNet.Scanning.NetworkScan

/-!
Runs that every scan may take: the looks that are under way come to their ends, and the next ones
are taken up.
-/

namespace VantageNet.Scanning

open Interaction Inventory

variable {s : NetworkScan} {p : Progress} {r : List (IpAddr × List UInt16)}

section phase1

/-- The connections of a host may all come to their end without another port found open. -/
theorem PortCheck.drained (c : PortCheck) : ∃ c', Relation.ReflTransGen (PortCheck.Step false) c c' ∧
    c'.connections.running = [] ∧ c'.openPorts = c.openPorts := by
  obtain ⟨connections, hfinishes, hidle⟩ := c.connections.exists_idle
  refine ⟨{ c with connections := connections }, ?_, hidle, rfl⟩
  refine hfinishes.lift (fun connections => { c with connections := connections }) ?_
  rintro w _ ⟨j, p, hp, rfl⟩
  exact .answered j p false hp

theorem steps_check {hosts : Window PortCheck} {i : ℕ} {c c' : PortCheck}
    (hc : hosts.running[i]? = some c) (hsteps : Relation.ReflTransGen (PortCheck.Step false) c c') :
    Relation.ReflTransGen s.Step ⟨false, p, .checking hosts r⟩ ⟨false, p, .checking (hosts.replace i c') r⟩ := by
  obtain ⟨hi, -⟩ := List.getElem?_eq_some_iff.mp hc
  induction hsteps with
  | refl => rw [Window.replace_self hc]
  | @tail c₁ c₂ _ hstep ih =>
    refine ih.tail ?_
    rw [← Window.replace_replace hosts i c₁ c₂]
    exact .check false p _ r i c₁ c₂ (by rw [Window.running_replace, List.getElem?_set_self hi]) hstep

/-- The ARP checks may come to their end without another host found. -/
theorem drained_arp (hosts : Window IpAddr) : ∃ hosts' p',
    Relation.ReflTransGen s.Step ⟨false, p, .arp hosts r⟩ ⟨false, p', .arp hosts' r⟩ ∧ hosts'.running = [] := by
  obtain ⟨hosts', hfinishes, hidle⟩ := hosts.exists_idle
  suffices hsteps : ∃ p', Relation.ReflTransGen s.Step ⟨false, p, .arp hosts r⟩ ⟨false, p', .arp hosts' r⟩ by
    obtain ⟨p', hsteps⟩ := hsteps
    exact ⟨hosts', p', hsteps, hidle⟩
  clear hidle
  induction hfinishes with
  | refl => exact ⟨p, .refl⟩
  | tail _ hfinish ih =>
    obtain ⟨i, ip, hip, rfl⟩ := hfinish
    obtain ⟨p', hsteps⟩ := ih
    exact ⟨_, hsteps.tail (.arpAnswered false p' _ r i 0 ip false hip)⟩

theorem drained (hosts : Window PortCheck) : ∃ hosts' r' p',
    Relation.ReflTransGen s.Step ⟨false, p, .checking hosts r⟩ ⟨false, p', .checking hosts' r'⟩ ∧ hosts'.running = [] ∧
    ((∀ host ∈ r, host.2.length ≤ 1) → hosts.Forall (fun c => c.openPorts.length ≤ 1) → ∀ host ∈ r', host.2.length ≤ 1) ∧
    ((r ≠ [] ∨ ∃ c ∈ hosts.running, c.openPorts ≠ []) → r' ≠ []) := by
  generalize hn : hosts.pending = n
  induction n using Nat.strong_induction_on generalizing hosts r p with
  | _ n ih =>
    rcases hrunning : hosts.running with _ | ⟨c, rest⟩
    · exact ⟨hosts, r, p, .refl, hrunning, fun hr _ => hr,
        fun h => h.elim id (fun ⟨_, hc, _⟩ => absurd hc List.not_mem_nil)⟩
    · have hc : hosts.running[0]? = some c := by rw [hrunning]; rfl
      obtain ⟨c', hsteps, hidle, hopen⟩ := c.drained
      have hc' : (hosts.replace 0 c').running[0]? = some c' := by rw [Window.running_replace, hrunning]; rfl
      have hlt : 0 < (hosts.replace 0 c').running.length := by
        rw [Window.running_replace, List.length_set, hrunning]
        exact Nat.succ_pos _
      have hpending := Window.pending_finish hlt
      rw [Window.pending_replace] at hpending
      obtain ⟨hosts', r', p', hrest, hdone, hshort, hsome⟩ := ih ((hosts.replace 0 c').finish 0).pending (by omega)
        (p := p.hostChecked 0 s.totalIps) (r := r ++ c'.responsive) ((hosts.replace 0 c').finish 0) rfl
      refine ⟨hosts', r', p', ((steps_check hc hsteps).tail (.checked false p _ r 0 0 c' hc' hidle)).trans hrest, hdone, ?_, ?_⟩
      · intro hr hhosts
        have hc1 : c'.openPorts.length ≤ 1 := hopen ▸ hhosts.running c (by rw [hrunning]; exact List.mem_cons_self)
        refine hshort (fun host hhost => ?_) ((hhosts.replace 0 hc1).finish 0)
        rcases List.mem_append.mp hhost with hhost | hhost
        · exact hr host hhost
        · unfold PortCheck.responsive at hhost
          split_ifs at hhost
          · exact absurd hhost List.not_mem_nil
          · exact List.mem_singleton.mp hhost ▸ hc1
      · rintro (hr | ⟨d, hd, hfound⟩)
        · exact hsome (.inl (fun h => hr (List.append_eq_nil_iff.mp h).1))
        · rcases List.mem_cons.mp hd with rfl | hd
          · refine hsome (.inl (fun h => ?_))
            have hnil := (List.append_eq_nil_iff.mp h).2
            rw [PortCheck.responsive, if_neg (hopen ▸ hfound)] at hnil
            exact List.cons_ne_nil _ _ hnil
          · refine hsome (.inr ⟨d, ?_, hfound⟩)
            change d ∈ ((hosts.running.set 0 c').eraseIdx 0) ++ _
            rw [hrunning]
            exact List.mem_append_left _ hd

theorem reaches_phase1b : ∃ p, s.Reaches (s.phase1b p []) := by
  by_cases hnone : s.interfacedIps = []
  · refine ⟨Progress.empty.send 0, ?_⟩
    have hstart : s.phase1a = s.phase1b (Progress.empty.send 0) [] := if_pos hnone
    rw [NetworkScan.Reaches, hstart]
  · have hstart : s.phase1a = ⟨false, Progress.empty.send 0, .arp (.start (getOptimalArpConcurrency s.fdLimit) s.interfacedIps) []⟩ :=
      if_neg hnone
    obtain ⟨hosts, p, hsteps, hidle⟩ := drained_arp (s := s) (p := Progress.empty.send 0) (r := [])
      (.start (getOptimalArpConcurrency s.fdLimit) s.interfacedIps)
    exact ⟨p, (hstart ▸ hsteps).tail (.arpDone false p hosts [] hidle)⟩

/-- The first interfaced address may be the only one that answers. -/
theorem reaches_answered {ip : IpAddr} {ips : List IpAddr} (hips : s.interfacedIps = ip :: ips) :
    ∃ p, s.Reaches (s.phase1b p [(ip, [])]) := by
  have hstart : s.phase1a = ⟨false, Progress.empty.send 0, .arp (.start (getOptimalArpConcurrency s.fdLimit) s.interfacedIps) []⟩ :=
    if_neg (hips ▸ List.cons_ne_nil _ _)
  have hfirst := Window.first_start (x := ip) s.interfacedIps
    (show 0 < getOptimalArpConcurrency s.fdLimit from Nat.lt_of_lt_of_le Nat.one_pos (le_max_left _ _)) (by rw [hips]; rfl)
  have hanswered : s.Reaches ⟨false, (Progress.empty.send 0).hostChecked 0 s.totalIps,
      .arp (Window.finish (.start (getOptimalArpConcurrency s.fdLimit) s.interfacedIps) 0) [(ip, [])]⟩ := by
    rw [NetworkScan.Reaches, hstart]
    exact .single (.arpAnswered false _ _ [] 0 0 ip true hfirst)
  obtain ⟨hosts, p, hsteps, hidle⟩ := drained_arp (s := s) (p := (Progress.empty.send 0).hostChecked 0 s.totalIps)
    (r := [(ip, [])]) (Window.finish (.start (getOptimalArpConcurrency s.fdLimit) s.interfacedIps) 0)
  exact ⟨p, (hanswered.trans hsteps).tail (.arpDone false p hosts _ hidle)⟩

end phase1

section phase2

/-- The deep scans take up a host as long as one waits. -/
def Kept {ρ : Type} : Stage ρ → Prop
  | .deepScanning hosts _ _ => 0 < hosts.limit ∧ hosts.Filled
  | _ => True

theorem kept_phase2 (p : Progress) (r : List (IpAddr × List UInt16)) : Kept (s.phase2 p r).stage := by
  unfold NetworkScan.phase2
  split_ifs
  · trivial
  · have hlimit : 0 < getOptimalDeepScanConcurrency s.fdLimit portsPerHostBatch :=
      Nat.lt_of_lt_of_le Nat.one_pos (le_max_left _ _)
    exact ⟨hlimit, Window.filled_start hlimit _⟩

theorem kept_phase1b (p : Progress) (r : List (IpAddr × List UInt16)) : Kept (s.phase1b p r).stage := by
  unfold NetworkScan.phase1b
  split_ifs
  · exact kept_phase2 p r
  · trivial

theorem kept_phase1a : Kept s.phase1a.stage := by
  unfold NetworkScan.phase1a
  split_ifs
  · exact kept_phase1b _ _
  · trivial

theorem Kept.refused {ρ : Type} {stage : Stage ρ} (h : Kept stage) : Kept stage.refused := by
  cases stage with
  | arp hosts r => trivial
  | checking hosts r => trivial
  | deepScanning hosts r abandoned => exact ⟨h.1, h.2.mapWaiting _⟩
  | ended phase r abandoned => trivial

theorem Kept.step {σ τ : ScanState s.Request} (h : Kept σ.stage) (hstep : s.Step σ τ) : Kept τ.stage := by
  cases hstep with
  | cancel => exact h.refused
  | fail b p stage hstage => trivial
  | arpAnswered b p hosts r i now ip isUp hip => trivial
  | arpDone b p hosts r hidle =>
    cases b
    · exact kept_phase1b p r
    · trivial
  | check b p hosts r i c c' hc hstep => trivial
  | checked b p hosts r i now c hc hidle => trivial
  | allChecked b p hosts r hidle =>
    cases b
    · exact kept_phase2 p r
    · trivial
  | deepScan b p hosts r abandoned i now d d' report hd hstep => exact ⟨h.1, h.2.replace i d'⟩
  | deepScanned b p hosts r abandoned i given hd => exact ⟨h.1, Window.filled_finish h.1 i⟩
  | allDeepScanned b p hosts r abandoned hidle => trivial

theorem kept_of_reaches {σ : ScanState s.Request} (h : s.Reaches σ) : Kept σ.stage := by
  induction h with
  | refl => exact kept_phase1a
  | tail _ hstep ih => exact ih.step hstep

abbrev DeepScan.Steps {ρ : Type} (endpoints : List UInt16 → List ρ) (cancelled : Bool) : DeepScan ρ → DeepScan ρ → Prop :=
  Relation.ReflTransGen (fun d d' => ∃ report, d.Step endpoints cancelled report d')

theorem Progress.sent_report (p : Progress) (now percent : ℕ) : p.sent <+: (p.report now percent).sent := by
  unfold Progress.report
  split_ifs
  · exact List.prefix_rfl
  · exact List.prefix_rfl
  · exact List.prefix_append _ _

theorem sent_reported (p : Progress) (now : ℕ) (r : List (IpAddr × List UInt16)) (report : Report) :
    p.sent <+: (NetworkScan.reported p now r report).sent := by
  cases report with
  | silent => exact List.prefix_rfl
  | batchDone => exact Progress.sent_report { p with batchesDone := p.batchesDone + 1 } _ _
  | direct percent => exact List.prefix_append _ _

theorem steps_deepScan {b : Bool} {hosts : Window (DeepScan s.Request)} {i : ℕ} {d d' : DeepScan s.Request}
    (p : Progress) (r : List (IpAddr × List UInt16)) (abandoned : Bool) (hd : hosts.running[i]? = some d)
    (hsteps : d.Steps s.endpoints b d') : ∃ p', p.sent <+: p'.sent ∧ Relation.ReflTransGen s.Step
      ⟨b, p, .deepScanning hosts r abandoned⟩ ⟨b, p', .deepScanning (hosts.replace i d') r abandoned⟩ := by
  obtain ⟨hi, -⟩ := List.getElem?_eq_some_iff.mp hd
  induction hsteps with
  | refl =>
    rw [Window.replace_self hd]
    exact ⟨p, List.prefix_rfl, .refl⟩
  | @tail d₁ d₂ _ hstep ih =>
    obtain ⟨p', hsent, hrun⟩ := ih
    obtain ⟨report, hstep⟩ := hstep
    rw [← Window.replace_replace hosts i d₁ d₂]
    exact ⟨_, hsent.trans (sent_reported p' 0 r report), hrun.tail (.deepScan b p' _ r abandoned i 0 d₁ d₂ report
      (by rw [Window.running_replace, List.getElem?_set_self hi]) hstep)⟩

end phase2

end VantageNet.Scanning
