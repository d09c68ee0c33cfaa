import VantageNet.Scanning.Runs

/-!
A scan whose token is cancelled while it looks at its responsive hosts is still reported complete.
-/

namespace VantageNet.Scanning

open Interaction Inventory

variable {s : NetworkScan}

/-- No host is left that a deep scan still has to look at the token for. -/
def Stage.Settled {ρ : Type} : Stage ρ → Prop
  | .deepScanning hosts _ _ => hosts.waiting = [] ∧ ∀ d ∈ hosts.running, ∃ given, d = .done given
  | _ => True

section clean

/-- No host was given up, and none will be: once the token is cancelled all deep scans are over. -/
def Clean {ρ : Type} (cancelled : Bool) : Stage ρ → Prop
  | .deepScanning hosts _ abandoned => abandoned = false ∧ (∀ d ∈ hosts.running, d ≠ .done true) ∧
      (∀ d ∈ hosts.waiting, d ≠ .done true) ∧ (cancelled = true → hosts.waiting = [] ∧ ∀ d ∈ hosts.running, d = .done false)
  | .ended _ _ abandoned => abandoned = false
  | _ => True

theorem start_ne_done {ρ : Type} (phase1Ports : List UInt16) (given : Bool) : DeepScan.start (ρ := ρ) phase1Ports ≠ .done given := by
  unfold DeepScan.start
  dsimp only
  split_ifs <;> exact fun h => nomatch h

theorem clean_phase2 (p : Progress) (r : List (IpAddr × List UInt16)) : Clean (s.phase2 p r).cancelled (s.phase2 p r).stage := by
  unfold NetworkScan.phase2
  split_ifs
  · rfl
  · have hstart : (Window.start (getOptimalDeepScanConcurrency s.fdLimit portsPerHostBatch)
        (r.map (fun host => DeepScan.start (ρ := s.Request) host.2))).Forall (fun d => d ≠ .done true) :=
      .start _ (List.forall_mem_map.mpr (fun host _ => start_ne_done host.2 true))
    exact ⟨rfl, hstart.running, hstart.waiting, fun h => nomatch h⟩

theorem clean_phase1b (p : Progress) (r : List (IpAddr × List UInt16)) : Clean (s.phase1b p r).cancelled (s.phase1b p r).stage := by
  unfold NetworkScan.phase1b
  split_ifs
  · exact clean_phase2 p r
  · trivial

theorem clean_phase1a : Clean s.phase1a.cancelled s.phase1a.stage := by
  unfold NetworkScan.phase1a
  split_ifs
  · exact clean_phase1b _ _
  · trivial

/-- What has to be settled only matters to the step that cancels the token. -/
theorem Clean.step {σ τ : ScanState s.Request} (h : Clean σ.cancelled σ.stage) (hstep : s.Step σ τ)
    (hcareful : σ.cancelled = false → τ.cancelled = true → σ.stage.Settled) : Clean τ.cancelled τ.stage := by
  cases hstep with
  | cancel =>
    obtain ⟨b, p, stage⟩ := σ
    cases stage with
    | arp hosts r => trivial
    | checking hosts r => trivial
    | deepScanning hosts r abandoned =>
      obtain ⟨habandoned, hrunning, hwaiting, hover⟩ := h
      have hsettled : hosts.waiting = [] ∧ ∀ d ∈ hosts.running, d = .done false := by
        cases b
        · obtain ⟨hnone, hall⟩ := hcareful rfl rfl
          refine ⟨hnone, fun d hd => ?_⟩
          obtain ⟨given, rfl⟩ := hall d hd
          cases given
          · rfl
          · exact absurd rfl (hrunning _ hd)
        · exact hover rfl
      have hnone : (hosts.mapWaiting (fun _ => DeepScan.done true)).waiting = [] := by
        change hosts.waiting.map _ = []
        rw [hsettled.1, List.map_nil]
      exact ⟨habandoned, hrunning, fun d hd => absurd hd (hnone ▸ List.not_mem_nil), fun _ => ⟨hnone, hsettled.2⟩⟩
    | ended phase r abandoned => exact h
  | fail b p stage hstage => rfl
  | arpAnswered b p hosts r i now ip isUp hip => trivial
  | arpDone b p hosts r hidle =>
    cases b
    · exact clean_phase1b p r
    · rfl
  | check b p hosts r i c c' hc hstep => trivial
  | checked b p hosts r i now c hc hidle => trivial
  | allChecked b p hosts r hidle =>
    cases b
    · exact clean_phase2 p r
    · rfl
  | deepScan b p hosts r abandoned i now d d' report hd hstep =>
    obtain ⟨habandoned, hrunning, hwaiting, hover⟩ := h
    have hmem := List.mem_of_getElem? hd
    cases b
    · have hd' : d' ≠ .done true := by
        cases hstep <;> exact fun h => nomatch h
      refine ⟨habandoned, fun x hx => ?_, hwaiting, fun h => nomatch h⟩
      rcases List.mem_or_eq_of_mem_set hx with hx | rfl
      · exact hrunning x hx
      · exact hd'
    · obtain rfl := (hover rfl).2 d hmem
      cases hstep with
      | failed d hd => exact absurd rfl (hd false)
  | deepScanned b p hosts r abandoned i given hd =>
    obtain ⟨rfl, hrunning, hwaiting, hover⟩ := h
    have hgiven : given = false := by
      cases given
      · rfl
      · exact absurd rfl (hrunning _ (List.mem_of_getElem? hd))
    have hall : (hosts.finish i).Forall (fun d => d ≠ .done true) := Window.Forall.finish ⟨hrunning, hwaiting⟩ i
    refine ⟨by rw [hgiven]; rfl, hall.running, hall.waiting, fun hb => ?_⟩
    obtain ⟨hnone, hdone⟩ := hover hb
    refine ⟨by simp [Window.finish, Window.refill, hnone], fun d hd => ?_⟩
    have hfinished : (hosts.finish i).running = hosts.running.eraseIdx i := by
      simp [Window.finish, Window.refill, hnone]
    exact hdone d (List.mem_of_mem_eraseIdx (hfinished ▸ hd))
  | allDeepScanned b p hosts r abandoned hidle => exact h.1

end clean

section given_up

/-- A cancelled batch is idle as soon as one of its connections comes to its end. -/
theorem settle_idle {τ : Type} (w : Window τ) (j : ℕ) : (settle true w j).running = [] := rfl

theorem endpoints_given_up {ρ : Type} (endpoints : List UInt16 → List ρ) (requests : Window ρ) :
    DeepScan.Steps endpoints true (.endpoints requests) (.done true) := by
  rcases hrunning : requests.running with _ | ⟨x, rest⟩
  · exact .single ⟨_, .endpointsScanned requests hrunning⟩
  · have hx : requests.running[0]? = some x := by rw [hrunning]; rfl
    exact .head ⟨_, .responded requests 0 x hx⟩ (.single ⟨_, .endpointsScanned _ (settle_idle requests 0)⟩)

theorem udp_given_up {ρ : Type} (endpoints : List UInt16 → List ρ) (openPorts : List UInt16) :
    DeepScan.Steps endpoints true (.udp openPorts) (.done true) :=
  .head ⟨_, .udpScanned openPorts⟩ (endpoints_given_up endpoints _)

theorem batch_given_up {ρ : Type} (endpoints : List UInt16 → List ρ) (openPorts : List UInt16) {connections : Window UInt16}
    (hidle : connections.running = []) (rest : List UInt16) :
    DeepScan.Steps endpoints true (.ports openPorts connections rest) (.done true) := by
  by_cases hrest : rest = []
  · rw [hrest]
    exact .head ⟨_, .lastBatch openPorts connections hidle⟩ (udp_given_up endpoints openPorts)
  · exact .single ⟨_, .nextBatch openPorts connections rest hidle hrest⟩

/-- Wherever a deep scan is when the token is cancelled, it may come to give its host up. -/
theorem given_up {ρ : Type} (endpoints : List UInt16 → List ρ) {d : DeepScan ρ} (hd : d ≠ .done false) :
    DeepScan.Steps endpoints true d (.done true) := by
  cases d with
  | ports openPorts connections rest =>
    rcases hrunning : connections.running with _ | ⟨q, others⟩
    · exact batch_given_up endpoints openPorts hrunning rest
    · have hq : connections.running[0]? = some q := by rw [hrunning]; rfl
      exact .head ⟨_, .answered openPorts connections rest 0 q false hq⟩
        (batch_given_up endpoints _ (settle_idle connections 0) rest)
  | udp openPorts => exact udp_given_up endpoints openPorts
  | endpoints requests => exact endpoints_given_up endpoints requests
  | done given =>
    cases given
    · exact absurd rfl hd
    · exact .refl

/-- The deep scans that are left may come to their ends, and each one that has to look at the token still
is given up. -/
theorem drained_cancelled (p : Progress) (hosts : Window (DeepScan s.Request)) (r : List (IpAddr × List UInt16))
    (abandoned : Bool) (hlimit : 0 < hosts.limit) (hfilled : hosts.Filled)
    (hleft : abandoned = true ∨ ∃ d, (d ∈ hosts.running ∨ d ∈ hosts.waiting) ∧ d ≠ .done false) :
    ∃ p', Relation.ReflTransGen s.Step ⟨true, p, .deepScanning hosts r abandoned⟩ ⟨true, p', .ended .complete r true⟩ := by
  generalize hn : hosts.pending = n
  induction n using Nat.strong_induction_on generalizing hosts p abandoned with
  | _ n ih =>
    rcases hrunning : hosts.running with _ | ⟨d, rest⟩
    · have habandoned : abandoned = true := by
        refine hleft.resolve_right (fun ⟨d, hd, _⟩ => ?_)
        rw [hrunning, hfilled hrunning] at hd
        exact hd.elim List.not_mem_nil List.not_mem_nil
      rw [habandoned]
      exact ⟨_, .single (.allDeepScanned true p hosts r true hrunning)⟩
    · have hd : hosts.running[0]? = some d := by rw [hrunning]; rfl
      obtain ⟨given, hgiven, hsteps⟩ : ∃ given, (given = true ∨ d = .done false) ∧ d.Steps s.endpoints true (.done given) := by
        by_cases hover : d = .done false
        · exact ⟨false, .inr hover, hover ▸ .refl⟩
        · exact ⟨true, .inl rfl, given_up s.endpoints hover⟩
      obtain ⟨p₁, -, hrun⟩ := steps_deepScan p r abandoned hd hsteps
      have hover : (hosts.replace 0 (.done given)).running[0]? = some (.done given) := by
        rw [Window.running_replace, hrunning]
        rfl
      have hlt : 0 < (hosts.replace 0 (.done given)).running.length := by
        rw [Window.running_replace, List.length_set, hrunning]
        exact Nat.succ_pos _
      have hpending := Window.pending_finish hlt
      rw [Window.pending_replace] at hpending
      have hleft' : (abandoned || given) = true ∨ ∃ x, (x ∈ ((hosts.replace 0 (.done given)).finish 0).running ∨
          x ∈ ((hosts.replace 0 (.done given)).finish 0).waiting) ∧ x ≠ .done false := by
        rcases hleft with rfl | ⟨x, hx, hne⟩
        · exact .inl rfl
        · cases given with
          | true => exact .inl (Bool.or_true abandoned)
          | false =>
            obtain rfl := hgiven.resolve_left Bool.false_ne_true
            have hperm := (Window.perm_finish hover).mem_iff (a := x)
            have hset : (hosts.replace 0 (.done false)).running = .done false :: rest := by
              rw [Window.running_replace, hrunning]
              rfl
            rw [List.mem_cons, List.mem_append, List.mem_append, hset, List.mem_cons] at hperm
            rw [hrunning, List.mem_cons] at hx
            exact .inr ⟨x, (hperm.mpr (hx.elim .inl .inr)).resolve_left hne, hne⟩
      obtain ⟨p₂, hrest⟩ := ih ((hosts.replace 0 (.done given)).finish 0).pending (by omega) p₁
        ((hosts.replace 0 (.done given)).finish 0) (abandoned || given) hlimit
        (@Window.filled_finish _ (hosts.replace 0 (.done given)) hlimit 0) hleft' rfl
      exact ⟨p₂, (hrun.tail (.deepScanned true p₁ _ r abandoned 0 given hover)).trans hrest⟩

end given_up

section complete

theorem clean_of_uncancelled {σ : ScanState s.Request} (h : s.Reaches σ) (huncancelled : σ.cancelled = false) :
    Clean σ.cancelled σ.stage := by
  induction h with
  | refl => exact clean_phase1a
  | @tail σ τ _ hstep ih =>
    have hbefore : σ.cancelled = false := by
      cases hstep with
      | cancel => exact nomatch huncancelled
      | arpDone b p hosts r hidle =>
        cases b
        · rfl
        · exact nomatch huncancelled
      | allChecked b p hosts r hidle =>
        cases b
        · rfl
        · exact nomatch huncancelled
      | _ => exact huncancelled
    exact (ih hbefore).step hstep (fun _ h => absurd (huncancelled.symm.trans h) Bool.false_ne_true)

theorem cancelled_of_step {σ τ : ScanState s.Request} (hstep : s.Step σ τ) (h : σ.cancelled = true) : τ.cancelled = true := by
  cases hstep with
  | cancel => rfl
  | arpDone b p hosts r hidle =>
    obtain rfl : b = true := h
    rfl
  | allChecked b p hosts r hidle =>
    obtain rfl : b = true := h
    rfl
  | _ => exact h

/-- The token is cancelled. -/
def ScanState.cancel {ρ : Type} (σ : ScanState ρ) : ScanState ρ := ⟨true, σ.progress, σ.stage.refused⟩

/-- A scan that is reported complete has given no host up. -/
def CompleteIsScanned {ρ : Type} (σ : ScanState ρ) : Prop :=
  ∀ r abandoned, σ.stage = .ended .complete r abandoned → abandoned = false

theorem complete_of_clean {σ : ScanState s.Request} (h : Clean σ.cancelled σ.stage) : CompleteIsScanned σ := by
  intro r abandoned hended
  rw [hended] at h
  exact h

/-- Without the token, and from the cancelling of it on. -/
theorem complete_is_scanned_iff (s : NetworkScan) {σ : ScanState s.Request} (hσ : s.Reaches σ) (huncancelled : σ.cancelled = false) :
    CompleteIsScanned σ ∧ ((∀ τ, Relation.ReflTransGen s.Step σ.cancel τ → CompleteIsScanned τ) ↔ σ.stage.Settled) := by
  have hclean := clean_of_uncancelled hσ huncancelled
  refine ⟨complete_of_clean hclean, fun hcomplete => ?_, fun hsettled τ hrun => ?_⟩
  · cases hstage : σ.stage with
    | deepScanning hosts r abandoned =>
      have hkept := kept_of_reaches hσ
      rw [hstage] at hkept
      by_contra hnot
      have hleft : ∃ d, (d ∈ hosts.running ∨ d ∈ hosts.waiting.map (fun _ => DeepScan.done true)) ∧ d ≠ .done false := by
        rcases hwaiting : hosts.waiting with _ | ⟨d, rest⟩
        · by_contra hnone
          refine hnot ⟨hwaiting, fun d hd => ⟨false, ?_⟩⟩
          by_contra hd'
          exact hnone ⟨d, .inl hd, hd'⟩
        · exact ⟨.done true, .inr List.mem_cons_self, fun h => nomatch h⟩
      obtain ⟨p, hrun⟩ := drained_cancelled σ.progress (hosts.mapWaiting (fun _ => .done true)) r abandoned hkept.1
        (hkept.2.mapWaiting _) (.inr hleft)
      have hcancel : σ.cancel = ⟨true, σ.progress, .deepScanning (hosts.mapWaiting (fun _ => .done true)) r abandoned⟩ := by
        rw [ScanState.cancel, hstage]
        rfl
      exact absurd (hcomplete _ (hcancel ▸ hrun) r true rfl) (fun h => nomatch h)
    | _ => trivial
  · have hcancelled : Clean σ.cancel.cancelled σ.cancel.stage ∧ σ.cancel.cancelled = true :=
      ⟨hclean.step (.cancel σ) (fun _ _ => hsettled), rfl⟩
    have hall : Clean τ.cancelled τ.stage ∧ τ.cancelled = true := by
      induction hrun with
      | refl => exact hcancelled
      | tail _ hstep ih =>
        exact ⟨ih.1.step hstep (fun h => absurd (h.symm.trans ih.2) Bool.false_ne_true), cancelled_of_step hstep ih.2⟩
    exact complete_of_clean hall.1

/-- A scan of one address on a subnet with an interface. -/
def oneAddress : NetworkScan where
  fdLimit := 1024
  concurrentScans := 15
  interfacedIps := [.v4 0x0a000001]
  nonInterfacedIps := []
  discoveryPorts := []
  Request := String
  endpoints := fun _ => []

theorem complete_is_scanned_start : (oneAddress.Reaches oneAddress.phase1a ∧ oneAddress.phase1a.cancelled = false) ∧
    CompleteIsScanned oneAddress.phase1a ∧
    ((∀ τ, Relation.ReflTransGen oneAddress.Step oneAddress.phase1a.cancel τ → CompleteIsScanned τ) ↔
      oneAddress.phase1a.stage.Settled) :=
  ⟨⟨.refl, rfl⟩, complete_is_scanned_iff oneAddress .refl rfl⟩

/-- The address answers and is looked at more closely. -/
theorem oneAddress_deepScanned : ∃ p, oneAddress.Reaches ⟨false, p, oneAddress.deepScanning [(.v4 0x0a000001, [])]⟩ := by
  obtain ⟨p, hreached⟩ := reaches_answered (s := oneAddress)
    (show oneAddress.interfacedIps = .v4 0x0a000001 :: [] from rfl)
  rw [NetworkScan.phase1b, if_pos (show oneAddress.nonInterfacedIps = [] from rfl), NetworkScan.phase2, if_neg (List.cons_ne_nil _ _)] at hreached
  exact ⟨p.send 50, hreached⟩

/-- The token is cancelled while the ports of the host are scanned. -/
theorem complete_not_scanned : ¬ ∀ (s : NetworkScan) (σ : ScanState s.Request), s.Reaches σ → CompleteIsScanned σ := by
  intro h
  obtain ⟨p, hreached⟩ := oneAddress_deepScanned
  have hlimit : 0 < getOptimalDeepScanConcurrency oneAddress.fdLimit portsPerHostBatch :=
    Nat.lt_of_lt_of_le Nat.one_pos (le_max_left _ _)
  have hscanning := List.mem_of_getElem? (Window.first_start (x := DeepScan.start (ρ := oneAddress.Request) [])
    [DeepScan.start []] hlimit rfl)
  obtain ⟨p', hrun⟩ := drained_cancelled (s := oneAddress) p
    (Window.mapWaiting (.start (getOptimalDeepScanConcurrency oneAddress.fdLimit portsPerHostBatch) [DeepScan.start []])
      (fun _ => .done true)) [(.v4 0x0a000001, [])] false hlimit
    ((Window.filled_start hlimit _).mapWaiting _) (.inr ⟨_, .inl hscanning, start_ne_done [] false⟩)
  have hended : oneAddress.Reaches ⟨true, p', .ended .complete [(.v4 0x0a000001, [])] true⟩ :=
    (hreached.tail (.cancel _)).trans hrun
  exact absurd (h oneAddress _ hended _ true rfl) (fun h => nomatch h)

end complete

end VantageNet.Scanning
