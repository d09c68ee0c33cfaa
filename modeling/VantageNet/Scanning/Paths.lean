import VantageNet.Scanning.HostScan

/-!
A host is scanned in the same way whether it answered by ARP or some of its ports were found open
before, but for the scheme that its endpoints are first asked with.
-/

namespace VantageNet.Scanning

open Interaction Inventory

section lists

theorem mem_dedup {α : Type} [DecidableEq α] (l : List α) (x : α) : x ∈ dedup (fun a b => decide (a = b)) l ↔ x ∈ l := by
  fun_induction dedup (fun a b => decide (a = b)) l with
  | case1 => rfl
  | case2 a => rfl
  | case3 a b rest hsame ih =>
    rw [ih, of_decide_eq_true hsame]
    simp
  | case4 a b rest hsame ih => rw [List.mem_cons, List.mem_cons, ih]

theorem mem_sortedPorts (ports : List PortConfig) (p : PortConfig) : p ∈ sortedPorts ports ↔ p ∈ ports := by
  rw [sortedPorts, mem_dedup, List.mem_mergeSort]

/-- What stands together in an order that tells elements apart is left once. -/
theorem nodup_dedup {α : Type} [DecidableEq α] {r : α → α → Prop} (hanti : ∀ a b, r a b → r b a → a = b) {l : List α}
    (hl : l.Pairwise r) : (dedup (fun a b => decide (a = b)) l).Nodup := by
  fun_induction dedup (fun a b => decide (a = b)) l with
  | case1 => exact List.nodup_nil
  | case2 a => exact List.nodup_singleton a
  | case3 a b rest hsame ih =>
    have hab : a = b := of_decide_eq_true hsame
    exact ih (hab ▸ (List.pairwise_cons.mp hl).2)
  | case4 a b rest hsame ih =>
    obtain ⟨ha, hrest⟩ := List.pairwise_cons.mp hl
    refine List.nodup_cons.mpr ⟨fun hmem => ?_, ih hrest⟩
    rw [mem_dedup] at hmem
    rcases List.mem_cons.mp hmem with hab | hmem
    · exact hsame (decide_eq_true hab)
    · exact hsame (decide_eq_true (hanti a b (ha b List.mem_cons_self) ((List.pairwise_cons.mp hrest).1 a hmem)))

theorem portOrder_antisymm (a b : PortConfig) (hab : portOrder a b) (hba : portOrder b a) : a = b := by
  obtain ⟨m, s⟩ := a
  obtain ⟨n, t⟩ := b
  simp only [portOrder, Bool.or_eq_true, Bool.and_eq_true, decide_eq_true_eq, UInt16.lt_iff_toNat_lt] at hab hba
  have hnumber : m = n := UInt16.toNat_inj.mp (by grind)
  subst hnumber
  cases s <;> cases t <;> simp [TransportProtocol.rank] at hab hba ⊢

theorem pairwise_mergeSort_portOrder (ports : List PortConfig) : (ports.mergeSort portOrder).Pairwise (fun a b => portOrder a b) := by
  refine List.pairwise_mergeSort (fun a b c hab hbc => ?_) (fun a b => ?_) ports
  · simp only [portOrder, Bool.or_eq_true, Bool.and_eq_true, decide_eq_true_eq, UInt16.lt_iff_toNat_lt] at hab hbc ⊢
    grind
  · simp only [portOrder, Bool.or_eq_true, Bool.and_eq_true, decide_eq_true_eq, UInt16.lt_iff_toNat_lt]
    grind [UInt16.toNat_inj]

theorem nodup_sortedPorts (ports : List PortConfig) : (sortedPorts ports).Nodup :=
  nodup_dedup portOrder_antisymm (pairwise_mergeSort_portOrder ports)

theorem dedup_sublist {α : Type} (same : α → α → Bool) (l : List α) : (dedup same l).Sublist l := by
  fun_induction dedup same l with
  | case1 => exact .slnil
  | case2 a => exact .refl _
  | case3 a b rest _ ih => exact ih.trans (.cons_cons a (.cons b (.refl rest)))
  | case4 a b rest _ ih => exact .cons_cons a ih

/-- By number and then by protocol, without repetition. -/
def PortPrecedes (a b : PortConfig) : Prop :=
  a.number < b.number ∨ a.number = b.number ∧ TransportProtocol.rank a.protocol < TransportProtocol.rank b.protocol

theorem pairwise_sortedPorts (ports : List PortConfig) : (sortedPorts ports).Pairwise PortPrecedes := by
  have hsorted := (pairwise_mergeSort_portOrder ports).sublist (dedup_sublist (· = ·) _)
  refine hsorted.imp₂ (fun a b hab hne => ?_) (nodup_sortedPorts ports)
  simp only [portOrder, Bool.or_eq_true, Bool.and_eq_true, decide_eq_true_eq] at hab
  rcases hab with hless | ⟨hnumber, hrank⟩
  · exact .inl hless
  · refine .inr ⟨hnumber, lt_of_le_of_ne hrank (fun heq => hne ?_)⟩
    obtain ⟨m, s⟩ := a
    obtain ⟨n, t⟩ := b
    obtain rfl : m = n := hnumber
    cases s <;> cases t <;> first | rfl | exact absurd heq nofun

theorem mem_batchScan {τ β : Type} {items : List τ} {batchSize : ℕ} (hbatch : 0 < batchSize) (pick : ℕ → ℕ)
    {scanFn : τ → Option β} {y : β} : y ∈ batchScan items batchSize pick scanFn ↔ ∃ x ∈ items, scanFn x = some y := by
  rw [batchScan, (Window.perm_drain_start pick hbatch items).mem_iff, List.mem_filterMap]

theorem mem_allPorts (p : UInt16) : p ∈ allPorts ↔ p ≠ 0 := by
  rw [allPorts, List.mem_map]
  constructor
  · rintro ⟨n, hn, rfl⟩ hzero
    rw [List.mem_range'_1] at hn
    have hnat := congrArg UInt16.toNat hzero
    rw [UInt16.toNat_ofNat_of_lt' (by change n < 65536; omega)] at hnat
    change n = 0 at hnat
    omega
  · intro hp
    refine ⟨p.toNat, ?_, UInt16.ofNat_toNat⟩
    have hlt := p.toNat_lt
    have hpos : p.toNat ≠ 0 := fun h => hp (UInt16.toNat_inj.mp h)
    rw [List.mem_range'_1]
    omega

theorem mem_remainingTcpPorts (phase1Ports : List UInt16) (p : UInt16) :
    p ∈ remainingTcpPorts phase1Ports ↔ p ≠ 0 ∧ p ∉ phase1Ports := by
  rw [remainingTcpPorts, List.mem_filter, mem_allPorts, decide_eq_true_iff]

/-- What was collected before is kept, and every endpoint has one of its kind in the end. -/
theorem uniqueEndpoints_step (endpoints unique : List Endpoint) :
    let result := endpoints.foldl (fun unique e => if e.key ∈ unique.map Endpoint.key then unique else unique ++ [e]) unique
    (∀ u ∈ result, u ∈ unique ∨ u ∈ endpoints) ∧ (∀ u ∈ unique, u ∈ result) ∧ ∀ e ∈ endpoints, e.key ∈ result.map Endpoint.key := by
  induction endpoints generalizing unique with
  | nil => exact ⟨fun u hu => .inl hu, fun u hu => hu, fun e he => absurd he List.not_mem_nil⟩
  | cons e rest ih =>
    have hkept (next : List Endpoint) (hnext : ∀ u ∈ next, u ∈ unique ∨ u = e) (hgrows : ∀ u ∈ unique, u ∈ next)
        (hkey : e.key ∈ next.map Endpoint.key) :
        let result := rest.foldl (fun unique e => if e.key ∈ unique.map Endpoint.key then unique else unique ++ [e]) next
        (∀ u ∈ result, u ∈ unique ∨ u ∈ e :: rest) ∧ (∀ u ∈ unique, u ∈ result) ∧
          ∀ x ∈ e :: rest, x.key ∈ result.map Endpoint.key := by
      obtain ⟨hfrom, hkeeps, hcovers⟩ := ih next
      refine ⟨fun u hu => ?_, fun u hu => hkeeps u (hgrows u hu), fun x hx => ?_⟩
      · rcases hfrom u hu with hu | hu
        · rcases hnext u hu with hu | rfl
          · exact .inl hu
          · exact .inr List.mem_cons_self
        · exact .inr (List.mem_cons_of_mem _ hu)
      · rcases List.mem_cons.mp hx with rfl | hx
        · obtain ⟨u, hu, huk⟩ := List.mem_map.mp hkey
          exact List.mem_map.mpr ⟨u, hkeeps u hu, huk⟩
        · exact hcovers x hx
    rw [List.foldl_cons]
    split_ifs with h
    · exact hkept unique (fun u hu => .inl hu) (fun u hu => hu) h
    · refine hkept (unique ++ [e]) (fun u hu => ?_) (fun u hu => List.mem_append_left _ hu) ?_
      · exact (List.mem_append.mp hu).imp_right List.mem_singleton.mp
      · rw [List.map_append]
        exact List.mem_append_right _ (List.mem_singleton_self _)

theorem mem_of_mem_uniqueEndpoints {endpoints : List Endpoint} {u : Endpoint} (hu : u ∈ uniqueEndpoints endpoints) :
    u ∈ endpoints :=
  ((uniqueEndpoints_step endpoints []).1 u hu).resolve_left List.not_mem_nil

theorem exists_mem_uniqueEndpoints {endpoints : List Endpoint} {e : Endpoint} (he : e ∈ endpoints) :
    ∃ u ∈ uniqueEndpoints endpoints, u.key = e.key :=
  List.mem_map.mp ((uniqueEndpoints_step endpoints []).2.2 e he)

theorem mem_foldl_responses {ρ : Type} (responses : List (Endpoint × ρ)) (ports : List PortConfig) (p : PortConfig) :
    p ∈ responses.foldl (fun ports response =>
      if response.1.portType ∈ ports then ports else ports ++ [response.1.portType]) ports ↔
      p ∈ ports ∨ ∃ response ∈ responses, response.1.portType = p := by
  induction responses generalizing ports with
  | nil => simp
  | cons response rest ih =>
    rw [List.foldl_cons, ih]
    split_ifs with h
    · rw [List.exists_mem_cons_iff]
      constructor
      · exact fun hp => hp.imp_right .inr
      · rintro (hp | rfl | hp)
        · exact .inl hp
        · exact .inl h
        · exact .inr hp
    · rw [List.exists_mem_cons_iff, List.mem_append, List.mem_singleton, or_assoc, eq_comm (a := p)]

end lists

section scans

variable {ρ : Type} {host : HostBehaviour ρ} {definitions : ServiceDefinitions} {isGateway : Bool} {ip : IpAddr}

theorem mem_scanTcpPorts (pick : ℕ → ℕ) {batchSize : ℕ} (hbatch : 0 < batchSize) {ports : List UInt16} {p : PortConfig}
    {useHttps : Bool} : (p, useHttps) ∈ scanTcpPorts host pick batchSize ports ↔
      p.protocol = .tcp ∧ p.number ∈ ports ∧ host.tcp p.number = some useHttps := by
  rw [scanTcpPorts, mem_batchScan hbatch]
  constructor
  · rintro ⟨n, hn, hsome⟩
    obtain ⟨flag, hflag, heq⟩ := Option.map_eq_some_iff.mp hsome
    obtain ⟨rfl, rfl⟩ := Prod.mk.inj heq
    exact ⟨rfl, hn, hflag⟩
  · rintro ⟨htcp, hn, hflag⟩
    refine ⟨p.number, hn, ?_⟩
    rw [hflag, Option.map_some, newTcp, ← htcp]

theorem mem_scanBatches (pick : ℕ → ℕ → ℕ) {batchSize : ℕ} (hbatch : 0 < batchSize) {fuel : ℕ} {remaining : List UInt16}
    (hfuel : remaining.length ≤ fuel) {p : PortConfig} {useHttps : Bool} :
    (p, useHttps) ∈ scanBatches host pick batchSize fuel remaining ↔
      p.protocol = .tcp ∧ p.number ∈ remaining ∧ host.tcp p.number = some useHttps := by
  induction fuel generalizing remaining with
  | zero => simp [List.length_eq_zero_iff.mp (Nat.le_zero.mp hfuel), scanBatches]
  | succ fuel ih =>
    rw [scanBatches]
    split_ifs with hnil
    · simp [hnil]
    · have hdrop : (remaining.drop batchSize).length ≤ fuel := by
        have hpos := List.length_pos_iff.mpr hnil
        rw [List.length_drop]
        omega
      have hsplit : p.number ∈ remaining ↔ p.number ∈ remaining.take batchSize ∨ p.number ∈ remaining.drop batchSize := by
        rw [← List.mem_append, List.take_append_drop]
      rw [List.mem_append, mem_scanTcpPorts _ hbatch, ih hdrop, hsplit]
      tauto

theorem get_useHttpsPorts {found : List (PortConfig × Bool)} (flags : HashMap UInt16 Bool)
    (hfound : ∀ entry ∈ found, host.tcp entry.1.number = some entry.2) (n : UInt16) :
    (found.foldl (fun flags entry => flags.insert entry.1.number entry.2) flags).get n =
      if n ∈ found.map (fun entry => entry.1.number) then host.tcp n else flags.get n := by
  induction found generalizing flags with
  | nil => rfl
  | cons entry rest ih =>
    rw [List.foldl_cons, ih _ (fun x hx => hfound x (List.mem_cons_of_mem _ hx)), get_insert]
    simp only [List.map_cons, List.mem_cons]
    by_cases hrest : n ∈ rest.map (fun entry => entry.1.number)
    · rw [if_pos hrest, if_pos (.inr hrest)]
    · rw [if_neg hrest]
      by_cases hn : n = entry.1.number
      · rw [if_pos hn, if_pos (.inl hn), hn, hfound entry List.mem_cons_self]
      · rw [if_neg hn, if_neg (by tauto)]

/-- The host has the port open. -/
def HostBehaviour.opens (host : HostBehaviour ρ) (p : PortConfig) : Prop :=
  p.protocol = .tcp ∧ p.number ≠ 0 ∧ (host.tcp p.number).isSome

def HostBehaviour.answersUdp (host : HostBehaviour ρ) (definitions : ServiceDefinitions) (isGateway : Bool) (p : PortConfig) : Prop :=
  ∃ n ∈ (definitions.allDiscoveryPorts.filter (fun p => p.protocol = .udp)).map PortConfig.number,
    (udpService host isGateway n).map newUdp = some p

/-- The endpoints on such a port are asked for. -/
def HostBehaviour.asked (host : HostBehaviour ρ) (definitions : ServiceDefinitions) (isGateway : Bool) (p : PortConfig) : Prop :=
  host.opens p ∨ host.answersUdp definitions isGateway p ∨ p ∈ definitions.endpointOnlyPorts

theorem mem_scanUdpPorts (pick : ℕ → ℕ) (p : PortConfig) :
    p ∈ scanUdpPorts host definitions pick portsPerHostBatch isGateway ↔ host.answersUdp definitions isGateway p :=
  mem_batchScan (by decide) pick

variable (host definitions isGateway ip) in
/-- What `deepScanHost` finds before it comes to the endpoints, in the notation of its definition. -/
def foundTcp (σ : Schedule) (found : List PortConfig) : List (PortConfig × Bool) :=
  scanBatches host σ.tcp portsPerHostBatch (remainingTcpPorts (found.map PortConfig.number)).length
    (remainingTcpPorts (found.map PortConfig.number))

variable (host definitions isGateway) in
def portsBefore (σ : Schedule) (found : List PortConfig) : List PortConfig :=
  sortedPorts ((foundTcp host σ found).map Prod.fst ++ found) ++ scanUdpPorts host definitions σ.udp portsPerHostBatch isGateway

variable (host definitions isGateway ip) in
def endpointScan (σ : Schedule) (found : List PortConfig) : EndpointScan ρ :=
  scanEndpoints host definitions σ ip (sortedPorts (portsBefore host definitions isGateway σ found ++ definitions.endpointOnlyPorts))
    (useHttpsPorts (foundTcp host σ found)) portsPerHostBatch

variable {σ σ' : Schedule} {found : List PortConfig}

theorem mem_foundTcp {p : PortConfig} {useHttps : Bool} : (p, useHttps) ∈ foundTcp host σ found ↔
    p.protocol = .tcp ∧ (p.number ≠ 0 ∧ p.number ∉ found.map PortConfig.number) ∧ host.tcp p.number = some useHttps := by
  rw [foundTcp, mem_scanBatches _ (by decide) (le_refl _), mem_remainingTcpPorts]

/-- The ports found before are those that the deep scan leaves out. -/
theorem mem_portsBefore (hfound : ∀ p ∈ found, host.opens p) (p : PortConfig) :
    p ∈ portsBefore host definitions isGateway σ found ↔ host.opens p ∨ host.answersUdp definitions isGateway p := by
  rw [portsBefore, List.mem_append, mem_scanUdpPorts, mem_sortedPorts, List.mem_append, List.mem_map]
  refine or_congr_left ⟨?_, fun hopen => ?_⟩
  · rintro (⟨⟨q, flag⟩, hq, rfl⟩ | hp)
    · obtain ⟨htcp, ⟨hzero, -⟩, hflag⟩ := mem_foundTcp.mp hq
      exact ⟨htcp, hzero, Option.isSome_iff_exists.mpr ⟨flag, hflag⟩⟩
    · exact hfound p hp
  · by_cases hp : p.number ∈ found.map PortConfig.number
    · obtain ⟨q, hq, hnumber⟩ := List.mem_map.mp hp
      have heq : q = p := by
        cases q
        cases p
        obtain ⟨hqtcp, -⟩ := hfound _ hq
        obtain ⟨hptcp, -⟩ := hopen
        simp_all
      exact .inr (heq ▸ hq)
    · obtain ⟨htcp, hzero, hsome⟩ := hopen
      obtain ⟨flag, hflag⟩ := Option.isSome_iff_exists.mp hsome
      exact .inl ⟨(p, flag), mem_foundTcp.mpr ⟨htcp, ⟨hzero, hp⟩, hflag⟩, rfl⟩

/-- The https flag is known of the ports that the deep scan itself connected to. -/
theorem flag_foundTcp (n : UInt16) : ((useHttpsPorts (foundTcp host σ found)).get n).getD false = true ↔
    host.tcp n = some true ∧ n ≠ 0 ∧ n ∉ found.map PortConfig.number := by
  have hmem : n ∈ (foundTcp host σ found).map (fun entry => entry.1.number) ↔
      (n ≠ 0 ∧ n ∉ found.map PortConfig.number) ∧ (host.tcp n).isSome := by
    rw [List.mem_map]
    constructor
    · rintro ⟨⟨q, flag⟩, hq, rfl⟩
      obtain ⟨-, hn, hflag⟩ := mem_foundTcp.mp hq
      exact ⟨hn, Option.isSome_iff_exists.mpr ⟨flag, hflag⟩⟩
    · rintro ⟨hn, hsome⟩
      obtain ⟨flag, hflag⟩ := Option.isSome_iff_exists.mp hsome
      exact ⟨(newTcp n, flag), mem_foundTcp.mpr ⟨rfl, hn, hflag⟩, rfl⟩
  rw [useHttpsPorts, get_useHttpsPorts ∅ (fun entry hentry => (mem_foundTcp.mp hentry).2.2) n]
  split_ifs with h
  · obtain ⟨hn, -⟩ := hmem.mp h
    cases hflag : host.tcp n with
    | none => simp
    | some flag => simp [hn]
  · constructor
    · intro hnone
      cases hnone
    · rintro ⟨hflag, hn⟩
      exact absurd (hmem.mpr ⟨hn, Option.isSome_iff_exists.mpr ⟨true, hflag⟩⟩) h

/-- The endpoints that are asked for do not depend on the path either. -/
theorem asked_endpoints (hfound : ∀ p ∈ found, host.opens p) (p : PortConfig) :
    p ∈ sortedPorts (portsBefore host definitions isGateway σ found ++ definitions.endpointOnlyPorts) ↔
      host.asked definitions isGateway p := by
  rw [mem_sortedPorts, List.mem_append, mem_portsBefore hfound, or_assoc]
  rfl

open Classical in
variable (host definitions isGateway) in
/-- The endpoints that a scan of the host asks for. -/
noncomputable def askedEndpoints : List Endpoint :=
  uniqueEndpoints (definitions.allDiscoveryEndpoints.filter (fun e => host.asked definitions isGateway e.portType))

theorem of_mem_askedEndpoints {e : Endpoint} (he : e ∈ askedEndpoints host definitions isGateway) :
    e ∈ definitions.allDiscoveryEndpoints ∧ host.asked definitions isGateway e.portType := by
  obtain ⟨hall, hasked⟩ := List.mem_filter.mp (mem_of_mem_uniqueEndpoints he)
  exact ⟨hall, by simpa using hasked⟩

theorem uniqueEndpoints_asked (hfound : ∀ p ∈ found, host.opens p) :
    uniqueEndpoints (definitions.allDiscoveryEndpoints.filter (fun e =>
      e.portType ∈ sortedPorts (portsBefore host definitions isGateway σ found ++ definitions.endpointOnlyPorts))) =
      askedEndpoints host definitions isGateway := by
  refine congrArg uniqueEndpoints (List.filter_congr (fun e _ => ?_))
  exact decide_eq_decide.mpr (asked_endpoints hfound e.portType)

variable (ip) in
theorem mem_requests (hfound : ∀ p ∈ found, host.opens p) (e : Endpoint) (urls : List Url) :
    (e, urls) ∈ (deepScanHost host definitions σ ip isGateway found).requests ↔
      e ∈ askedEndpoints host definitions isGateway ∧
      urls = e.urls ip (decide (host.tcp e.portType.number = some true ∧ e.portType.number ≠ 0 ∧
        e.portType.number ∉ found.map PortConfig.number)) := by
  have hflag (n : UInt16) : ((useHttpsPorts (foundTcp host σ found)).get n).getD false =
      decide (host.tcp n = some true ∧ n ≠ 0 ∧ n ∉ found.map PortConfig.number) :=
    Bool.eq_iff_iff.mpr ((flag_foundTcp n).trans decide_eq_true_iff.symm)
  change (e, urls) ∈ (σ.values (uniqueEndpoints _)).map _ ↔ _
  rw [List.mem_map, ← hflag]
  constructor
  · rintro ⟨x, hx, heq⟩
    obtain ⟨rfl, rfl⟩ := Prod.mk.inj heq
    exact ⟨uniqueEndpoints_asked (σ := σ) hfound ▸ (σ.values_perm _).mem_iff.mp hx, rfl⟩
  · rintro ⟨he, rfl⟩
    exact ⟨e, (σ.values_perm _).mem_iff.mpr ((uniqueEndpoints_asked (σ := σ) hfound).symm ▸ he), rfl⟩

/-- One of the two addresses of the endpoint is answered. -/
def HostBehaviour.answers (host : HostBehaviour ρ) (ip : IpAddr) (e : Endpoint) : Prop :=
  (host.get ⟨.http, ip, e.portType.number, e.path⟩).isSome ∨ (host.get ⟨.https, ip, e.portType.number, e.path⟩).isSome

/-- It does not matter for this which address is tried first. -/
theorem findSome_urls (e : Endpoint) (useHttps : Bool) :
    (∃ response, (e.urls ip useHttps).findSome? host.get = some response) ↔ host.answers ip e := by
  rw [← Option.isSome_iff_exists, List.findSome?_isSome_iff]
  cases useHttps
  · simp [Endpoint.urls, HostBehaviour.answers]
  · simp [Endpoint.urls, HostBehaviour.answers, or_comm]

theorem mem_openPorts (hfound : ∀ p ∈ found, host.opens p) (p : PortConfig) :
    p ∈ (deepScanHost host definitions σ ip isGateway found).openPorts ↔
      (host.opens p ∨ host.answersUdp definitions isGateway p) ∨
        ∃ e ∈ askedEndpoints host definitions isGateway, host.answers ip e ∧ e.portType = p := by
  change p ∈ sortedPorts ((endpointScan host definitions isGateway ip σ found).responses.foldl _
    (portsBefore host definitions isGateway σ found)) ↔ _
  rw [mem_sortedPorts, mem_foldl_responses, mem_portsBefore hfound]
  refine or_congr_right ?_
  have hresponses (e : Endpoint) : (∃ response, (e, response) ∈ (endpointScan host definitions isGateway ip σ found).responses) ↔
      e ∈ askedEndpoints host definitions isGateway ∧ host.answers ip e := by
    rw [← findSome_urls e (((useHttpsPorts (foundTcp host σ found)).get e.portType.number).getD false)]
    simp only [endpointScan, scanEndpoints]
    simp only [mem_batchScan (show 0 < min (portsPerHostBatch / 2) 50 by decide), uniqueEndpoints_asked hfound,
      (σ.values_perm _).mem_iff, Option.map_eq_some_iff, Prod.mk.injEq]
    constructor
    · rintro ⟨_, x, hx, response, hresponse, rfl, -⟩
      exact ⟨hx, response, hresponse⟩
    · rintro ⟨he, response, hresponse⟩
      exact ⟨response, e, he, response, hresponse, rfl, rfl⟩
  constructor
  · rintro ⟨⟨e, response⟩, hmem, hp⟩
    obtain ⟨he, hanswers⟩ := (hresponses e).mp ⟨response, hmem⟩
    exact ⟨e, he, hanswers, hp⟩
  · rintro ⟨e, he, hanswers, hp⟩
    obtain ⟨response, hmem⟩ := (hresponses e).mpr ⟨he, hanswers⟩
    exact ⟨(e, response), hmem, hp⟩

/-- The ports that phase 1 hands on are open ones. -/
theorem opens_of_checkHostResponsivePorts {pick : ℕ → ℕ} {batchSize : ℕ} (hbatch : 0 < batchSize) {discoveryPorts : List UInt16}
    (hports : 0 ∉ discoveryPorts) (hchecked : checkHostResponsivePorts host pick batchSize discoveryPorts = some found) :
    ∀ p ∈ found, host.opens p := by
  unfold checkHostResponsivePorts at hchecked
  dsimp only at hchecked
  split_ifs at hchecked
  obtain rfl := Option.some.inj hchecked
  intro p hp
  obtain ⟨⟨q, flag⟩, hq, rfl⟩ := List.mem_map.mp hp
  obtain ⟨htcp, hnumber, hflag⟩ := (mem_scanTcpPorts pick hbatch).mp hq
  exact ⟨htcp, fun hzero => hports (hzero ▸ hnumber), Option.isSome_iff_exists.mpr ⟨flag, hflag⟩⟩

/-- Every answer comes in its turn. -/
def inTurn : Schedule := ⟨fun _ _ => 0, fun _ => 0, fun _ => 0, fun l => l, fun l => .refl l⟩

/-- The same ports are found open, and the same endpoints are asked for in the same order of schemes. -/
structure SameScan (a b : HostScan ρ) : Prop where
  openPorts : ∀ p, p ∈ a.openPorts ↔ p ∈ b.openPorts
  requests : ∀ r, r ∈ a.requests ↔ r ∈ b.requests

theorem urls_injective {e : Endpoint} {a b : Bool} (h : e.urls ip a = e.urls ip b) : a = b := by
  cases a <;> cases b
  · rfl
  · cases h
  · cases h
  · rfl

/-- The paths agree unless phase 1 has found a port that wants https and that an endpoint lies on. -/
theorem deepScan_path_independent_iff (host : HostBehaviour ρ) (definitions : ServiceDefinitions) (ip : IpAddr)
    (isGateway : Bool) (found : List PortConfig) (hfound : ∀ p ∈ found, host.opens p) :
    (∀ σ σ', SameScan (deepScanHost host definitions σ ip isGateway []) (deepScanHost host definitions σ' ip isGateway found)) ↔
      ∀ p ∈ found, host.tcp p.number = some true → ∀ e ∈ definitions.allDiscoveryEndpoints,
        e.portType.number = p.number → ¬ host.asked definitions isGateway e.portType := by
  have hnone : ∀ p ∈ ([] : List PortConfig), host.opens p := fun p hp => absurd hp List.not_mem_nil
  constructor
  · intro hsame p hp hflag e he hnumber hasked
    have hfiltered : e ∈ definitions.allDiscoveryEndpoints.filter (fun e => e.portType ∈
        sortedPorts (portsBefore host definitions isGateway inTurn found ++ definitions.endpointOnlyPorts)) :=
      List.mem_filter.mpr ⟨he, decide_eq_true ((asked_endpoints hfound e.portType).mpr hasked)⟩
    obtain ⟨u, hu, hkey⟩ := exists_mem_uniqueEndpoints hfiltered
    rw [uniqueEndpoints_asked hfound] at hu
    have hunumber : u.portType.number = p.number := (congrArg Prod.fst hkey).trans hnumber
    have hfirst := (mem_requests ip (σ := inTurn) hnone u _).mpr ⟨hu, rfl⟩
    obtain ⟨-, hurls⟩ := (mem_requests ip hfound u _).mp (((hsame inTurn inTurn).requests _).mp hfirst)
    have hflags := urls_injective hurls
    obtain ⟨-, hzero, -⟩ := hfound p hp
    have hmem : p.number ∈ found.map PortConfig.number := List.mem_map_of_mem hp
    rw [hunumber] at hflags
    simp [hflag, hzero, hmem] at hflags
  · intro hagree σ σ'
    constructor
    · intro p
      rw [mem_openPorts hnone, mem_openPorts hfound]
    · rintro ⟨e, urls⟩
      rw [mem_requests ip hnone, mem_requests ip hfound]
      refine and_congr_right (fun he => ?_)
      have hflags : (host.tcp e.portType.number = some true ∧ e.portType.number ≠ 0 ∧
          e.portType.number ∉ ([] : List PortConfig).map PortConfig.number) ↔
          (host.tcp e.portType.number = some true ∧ e.portType.number ≠ 0 ∧ e.portType.number ∉ found.map PortConfig.number) := by
        refine and_congr_right (fun hflag => and_congr_right (fun _ => ?_))
        refine iff_of_true List.not_mem_nil (fun hmem => ?_)
        obtain ⟨p, hp, hnumber⟩ := List.mem_map.mp hmem
        obtain ⟨hall, hasked⟩ := of_mem_askedEndpoints he
        exact hagree p hp (hnumber ▸ hflag) e hall hnumber.symm hasked
      rw [decide_eq_decide.mpr hflags]

end scans

/-- The definition of Proxmox VE. -/
def proxmox : ServiceDefinitions := ⟨[newTcp 8006], [.forPattern (newTcp 8006) "/"]⟩

/-- A host with port 8006 open, which it closes at once on whoever sends nothing. -/
def tlsHost : HostBehaviour Unit where
  tcp p := if p = 8006 then some true else none
  udp _ := none
  get url := if url.scheme = .https ∧ url.port = 8006 then some () else none

theorem opens_tlsHost : ∀ p ∈ [newTcp 8006], tlsHost.opens p :=
  List.forall_mem_singleton.mpr ⟨rfl, by decide, rfl⟩

theorem deepScan_path_independent_proxmox : (∀ p ∈ [newTcp 8006], tlsHost.opens p) ∧
    ((∀ σ σ', SameScan (deepScanHost tlsHost proxmox σ (.v4 0x0a000001) false [])
        (deepScanHost tlsHost proxmox σ' (.v4 0x0a000001) false [newTcp 8006])) ↔
      ∀ p ∈ [newTcp 8006], tlsHost.tcp p.number = some true → ∀ e ∈ proxmox.allDiscoveryEndpoints,
        e.portType.number = p.number → ¬ tlsHost.asked proxmox false e.portType) :=
  ⟨opens_tlsHost, deepScan_path_independent_iff tlsHost proxmox (.v4 0x0a000001) false [newTcp 8006] opens_tlsHost⟩

/-- Found by ARP, the host is first asked by https, and found by its open port by http. -/
theorem deepScan_depends_on_path : ¬ ∀ (host : HostBehaviour Unit) (definitions : ServiceDefinitions) (ip : IpAddr)
    (isGateway : Bool) (found : List PortConfig), (∀ p ∈ found, host.opens p) → ∀ σ σ',
      SameScan (deepScanHost host definitions σ ip isGateway []) (deepScanHost host definitions σ' ip isGateway found) := by
  intro h
  have hsame := h tlsHost proxmox (.v4 0x0a000001) false [newTcp 8006] opens_tlsHost inTurn inTurn
  have hnone : ∀ p ∈ ([] : List PortConfig), tlsHost.opens p := fun p hp => absurd hp List.not_mem_nil
  have hall : proxmox.allDiscoveryEndpoints = [.forPattern (newTcp 8006) "/"] := by
    simp [ServiceDefinitions.allDiscoveryEndpoints, proxmox, dedup]
  have hasked : Endpoint.forPattern (newTcp 8006) "/" ∈ askedEndpoints tlsHost proxmox false := by
    have hopen : tlsHost.asked proxmox false (newTcp 8006) := .inl (opens_tlsHost _ (List.mem_singleton_self _))
    rw [askedEndpoints, hall]
    simp [Endpoint.forPattern, hopen, uniqueEndpoints]
  have hfirst := (mem_requests (.v4 0x0a000001) (σ := inTurn) hnone _ _).mpr ⟨hasked, rfl⟩
  obtain ⟨-, hurls⟩ := (mem_requests _ opens_tlsHost _ _).mp ((hsame.requests _).mp hfirst)
  have hflags := urls_injective hurls
  revert hflags
  decide

end VantageNet.Scanning
