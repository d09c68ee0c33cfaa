import VantageNet.Scanning.Concurrency
import VantageNet.Scanning.Paths
import Mathlib.Data.Prod.Lex
import Mathlib.Data.String.Basic

/-!
What a scan for the ports and endpoints of all services gathers: `scan_ports_and_endpoints` of `daemon/utils/scanner.rs`,
for the ports and endpoints that the patterns name.
-/

namespace VantageNet.Scanning

open Interaction Inventory

section firsts

variable {α κ : Type} [DecidableEq κ] {key : α → κ} {le : α → α → Bool}

/-- Sorting by a key leaves the elements of one key in their order. -/
theorem filter_mergeSort (htrans : ∀ a b c, le a b → le b c → le a c) (htotal : ∀ a b, le a b || le b a)
    (hkey : ∀ a b, key a = key b → le a b) (l : List α) (k : κ) :
    (l.mergeSort le).filter (fun x => key x = k) = l.filter (fun x => key x = k) := by
  have hsorted : (l.filter (fun x => key x = k)).Pairwise (fun a b => le a b) := by
    refine List.pairwise_of_forall_mem_list (fun a ha b hb => hkey a b ?_)
    rw [of_decide_eq_true (List.mem_filter.mp ha).2, of_decide_eq_true (List.mem_filter.mp hb).2]
  have hsub := (List.sublist_mergeSort htrans htotal hsorted List.filter_sublist).filter (fun x => decide (key x = k))
  rw [List.filter_filter] at hsub
  simp only [Bool.and_self] at hsub
  exact (hsub.eq_of_length ((List.mergeSort_perm l le).filter _).length_eq.symm).symm

variable {same : α → α → Bool}

/-- Of the elements of one key the first is left. -/
theorem mem_dedup_iff_find? (htrans : ∀ a b c, le a b → le b c → le a c)
    (hanti : ∀ a b, le a b → le b a → key a = key b)
    (hkey : ∀ a b, key a = key b → le a b) (hsame : ∀ a b, same a b = true ↔ key a = key b) {l : List α}
    (hl : l.Pairwise (fun a b => le a b)) (e : α) :
    e ∈ dedup same l ↔ l.find? (fun x => key x = key e) = some e := by
  fun_induction dedup same l with
  | case1 => simp
  | case2 a =>
    rw [List.find?_cons, List.mem_singleton]
    by_cases h : key a = key e
    · simp [h, eq_comm]
    · simp [h]
      rintro rfl
      exact h rfl
  | case3 a b rest hab ih =>
    have hab := (hsame a b).mp hab
    obtain ⟨ha, hrest⟩ := List.pairwise_cons.mp hl
    rw [ih (List.pairwise_cons.mpr ⟨fun x hx => ha x (List.mem_cons_of_mem _ hx), (List.pairwise_cons.mp hrest).2⟩)]
    simp only [List.find?_cons, ← hab]
    by_cases h : key a = key e <;> simp [h]
  | case4 a b rest hab ih =>
    obtain ⟨ha, hrest⟩ := List.pairwise_cons.mp hl
    rw [List.mem_cons, ih hrest]
    by_cases h : key a = key e
    · have hnot : ∀ x ∈ b :: rest, key x ≠ key e := by
        intro x hx hxe
        have hbx : le b x := by
          rcases List.mem_cons.mp hx with rfl | hx
          · exact hkey x x rfl
          · exact (List.pairwise_cons.mp hrest).1 x hx
        have hba := htrans b x a hbx (hkey x a (hxe.trans h.symm))
        exact hab ((hsame a b).mpr (hanti a b (ha b List.mem_cons_self) hba))
      have hnone : (b :: rest).find? (fun x => key x = key e) = none :=
        List.find?_eq_none.mpr (fun x hx hxe => hnot x hx (of_decide_eq_true hxe))
      have hfirst : (a :: b :: rest).find? (fun x => key x = key e) = some a :=
        List.find?_cons_of_pos (decide_eq_true h)
      rw [hnone, hfirst]
      simp [eq_comm]
    · have hlater : (a :: b :: rest).find? (fun x => key x = key e) = (b :: rest).find? (fun x => key x = key e) :=
        List.find?_cons_of_neg (by simpa using h)
      rw [hlater]
      constructor
      · rintro (rfl | h')
        · exact absurd rfl h
        · exact h'
      · exact .inr

theorem mem_dedup_mergeSort (htrans : ∀ a b c, le a b → le b c → le a c) (htotal : ∀ a b, le a b || le b a)
    (hanti : ∀ a b, le a b → le b a → key a = key b) (hkey : ∀ a b, key a = key b → le a b)
    (hsame : ∀ a b, same a b = true ↔ key a = key b) (l : List α) (e : α) :
    e ∈ dedup same (l.mergeSort le) ↔ l.find? (fun x => key x = key e) = some e := by
  rw [mem_dedup_iff_find? htrans hanti hkey hsame (List.pairwise_mergeSort htrans htotal l), ← List.head?_filter,
    filter_mergeSort htrans htotal hkey, List.head?_filter]

end firsts

/-- What endpoints are sorted and compared by. -/
def Endpoint.sortKey (e : Endpoint) : ApplicationProtocol × UInt16 × String := (e.protocol, e.portType.number, e.path)

def ApplicationProtocol.rank : ApplicationProtocol → ℕ
  | .http => 0
  | .https => 1

def Endpoint.rank (e : Endpoint) : ℕ ×ₗ ℕ ×ₗ String := toLex (e.protocol.rank, toLex (e.portType.number.toNat, e.path))

theorem endpointOrder_iff (a b : Endpoint) : endpointOrder a b ↔ a.rank ≤ b.rank := by
  have hlt : a.protocol.toString < b.protocol.toString ↔ a.protocol.rank < b.protocol.rank := by
    cases a.protocol <;> cases b.protocol <;> decide
  have heq : a.protocol = b.protocol ↔ a.protocol.rank = b.protocol.rank := by
    cases a.protocol <;> cases b.protocol <;> decide
  simp only [endpointOrder, Bool.or_eq_true, Bool.and_eq_true, decide_eq_true_eq, Bool.not_eq_true',
    decide_eq_false_iff_not, not_lt]
  rw [hlt, heq, Endpoint.rank, Endpoint.rank, Prod.Lex.toLex_le_toLex, Prod.Lex.toLex_le_toLex, UInt16.lt_iff_toNat_lt,
    ← UInt16.toNat_inj]

theorem rank_inj {a b : Endpoint} : a.rank = b.rank ↔ a.sortKey = b.sortKey := by
  have heq : a.protocol.rank = b.protocol.rank ↔ a.protocol = b.protocol := by
    cases a.protocol <;> cases b.protocol <;> decide
  rw [Endpoint.rank, Endpoint.rank, toLex_inj, Prod.mk.injEq, toLex_inj, Prod.mk.injEq, heq, UInt16.toNat_inj,
    Endpoint.sortKey, Endpoint.sortKey, Prod.mk.injEq, Prod.mk.injEq]

/-- Of the endpoints that are looked for alike the first is kept. -/
theorem mem_allDiscoveryEndpoints (definitions : ServiceDefinitions) (e : Endpoint) :
    e ∈ definitions.allDiscoveryEndpoints ↔ definitions.endpoints.find? (fun x => x.sortKey = e.sortKey) = some e := by
  refine mem_dedup_mergeSort (fun a b c hab hbc => ?_) (fun a b => ?_) (fun a b hab hba => ?_) (fun a b hab => ?_)
    (fun a b => ?_) definitions.endpoints e
  · exact (endpointOrder_iff a c).mpr (((endpointOrder_iff a b).mp hab).trans ((endpointOrder_iff b c).mp hbc))
  · rw [Bool.or_eq_true, endpointOrder_iff, endpointOrder_iff]
    exact le_total _ _
  · exact rank_inj.mp (le_antisymm ((endpointOrder_iff a b).mp hab) ((endpointOrder_iff b a).mp hba))
  · exact (endpointOrder_iff a b).mpr (rank_inj.mpr hab).le
  · simp [ServiceDefinitions.sameEndpoint, Endpoint.sortKey, and_assoc]

section gathering

variable {ρ : Type} (host : HostBehaviour ρ) (definitions : ServiceDefinitions)

def scanPortsAndEndpoints (σ : Schedule) (ip : IpAddr) (isGateway : Bool) (portScanBatchSize : ℕ) (tcpPortsToCheck : List UInt16) :
    HostScan ρ :=
  let tcpPorts := scanTcpPorts host (σ.tcp 0) portScanBatchSize tcpPortsToCheck
  let openPorts := tcpPorts.map Prod.fst ++ scanUdpPorts host definitions σ.udp portScanBatchSize isGateway
  let portsToCheck := sortedPorts (tcpPorts.map Prod.fst ++ definitions.endpointOnlyPorts)
  let scan := scanEndpoints host definitions σ ip portsToCheck (useHttpsPorts tcpPorts) portScanBatchSize
  let openPorts := scan.responses.foldl
    (fun ports response => if response.1.portType ∈ ports then ports else ports ++ [response.1.portType]) openPorts
  { openPorts := sortedPorts openPorts, requests := scan.requests, responses := scan.responses }

/-- The TCP ports among those that the patterns name. -/
def ServiceDefinitions.discoveryTcpPorts : List UInt16 :=
  (definitions.allDiscoveryPorts.filter (fun p => p.protocol = .tcp)).map PortConfig.number

def gather (σ : Schedule) (ip : IpAddr) (isGateway : Bool) (fdLimit : ℕ) : HostScan ρ :=
  scanPortsAndEndpoints host definitions σ ip isGateway (getOptimalPortBatchSize fdLimit) definitions.discoveryTcpPorts

/-- The endpoint that stands for all of its port number and path. -/
def ServiceDefinitions.endpointFor (number : UInt16) (path : String) : Option Endpoint :=
  definitions.endpoints.find? (fun e => e.key = (number, path))

/-- Endpoints on the port are asked for. -/
def HostBehaviour.reaches (p : PortConfig) : Prop :=
  p ∉ definitions.ports ∨ (p.protocol = .tcp ∧ (host.tcp p.number).isSome)

/-- What the host answers to a request, https first where the port is known to want it. -/
def HostBehaviour.reply (ip : IpAddr) (number : UInt16) (path : String) : Option ρ :=
  ((⟨.http, newTcp number, path⟩ : Endpoint).urls ip
    (decide (newTcp number ∈ definitions.ports ∧ host.tcp number = some true))).findSome? host.get

variable {host definitions} {σ : Schedule} {ip : IpAddr} {isGateway : Bool} {fdLimit : ℕ}

theorem batchSize_bounds (fdLimit : ℕ) : 0 < getOptimalPortBatchSize fdLimit ∧
    0 < min (getOptimalPortBatchSize fdLimit) 10 ∧
    0 < min (getOptimalPortBatchSize fdLimit / 2) 50 := by
  unfold getOptimalPortBatchSize
  dsimp only
  split_ifs <;> omega

theorem mem_allDiscoveryPorts (p : PortConfig) : p ∈ definitions.allDiscoveryPorts ↔ p ∈ definitions.ports :=
  mem_sortedPorts _ p

theorem mem_discoveryTcpPorts (n : UInt16) : n ∈ definitions.discoveryTcpPorts ↔ newTcp n ∈ definitions.ports := by
  unfold ServiceDefinitions.discoveryTcpPorts
  simp only [List.mem_map, List.mem_filter, mem_allDiscoveryPorts, decide_eq_true_iff]
  constructor
  · rintro ⟨⟨number, protocol⟩, ⟨hp, rfl⟩, rfl⟩
    exact hp
  · exact fun h => ⟨newTcp n, ⟨h, rfl⟩, rfl⟩

theorem mem_tcpPorts (pick : ℕ → ℕ) (p : PortConfig) :
    p ∈ (scanTcpPorts host pick (getOptimalPortBatchSize fdLimit) definitions.discoveryTcpPorts).map Prod.fst ↔
      p.protocol = .tcp ∧ p ∈ definitions.ports ∧ (host.tcp p.number).isSome := by
  rw [List.mem_map]
  constructor
  · rintro ⟨⟨q, flag⟩, hq, rfl⟩
    obtain ⟨htcp, hn, hflag⟩ := (mem_scanTcpPorts pick (batchSize_bounds fdLimit).1).mp hq
    obtain ⟨number, protocol⟩ := q
    obtain rfl : protocol = .tcp := htcp
    exact ⟨rfl, (mem_discoveryTcpPorts number).mp hn, Option.isSome_iff_exists.mpr ⟨flag, hflag⟩⟩
  · rintro ⟨htcp, hp, hsome⟩
    obtain ⟨flag, hflag⟩ := Option.isSome_iff_exists.mp hsome
    obtain ⟨number, protocol⟩ := p
    obtain rfl : protocol = .tcp := htcp
    exact ⟨⟨⟨number, .tcp⟩, flag⟩, (mem_scanTcpPorts pick (batchSize_bounds fdLimit).1).mpr
      ⟨rfl, (mem_discoveryTcpPorts number).mpr hp, hflag⟩, rfl⟩

/-- The scheme that an endpoint is first asked with. -/
theorem flag_tcpPorts (pick : ℕ → ℕ) (n : UInt16) :
    ((useHttpsPorts (scanTcpPorts host pick (getOptimalPortBatchSize fdLimit) definitions.discoveryTcpPorts)).get n).getD false =
      decide (newTcp n ∈ definitions.ports ∧ host.tcp n = some true) := by
  have hbatch := (batchSize_bounds fdLimit).1
  have hmem : n ∈ (scanTcpPorts host pick (getOptimalPortBatchSize fdLimit) definitions.discoveryTcpPorts).map
      (fun entry => entry.1.number) ↔ newTcp n ∈ definitions.ports ∧ (host.tcp n).isSome := by
    rw [List.mem_map]
    constructor
    · rintro ⟨⟨q, flag⟩, hq, rfl⟩
      obtain ⟨-, hn, hflag⟩ := (mem_scanTcpPorts pick hbatch).mp hq
      exact ⟨(mem_discoveryTcpPorts q.number).mp hn, Option.isSome_iff_exists.mpr ⟨flag, hflag⟩⟩
    · rintro ⟨hn, hsome⟩
      obtain ⟨flag, hflag⟩ := Option.isSome_iff_exists.mp hsome
      exact ⟨(newTcp n, flag), (mem_scanTcpPorts pick hbatch).mpr ⟨rfl, (mem_discoveryTcpPorts n).mpr hn, hflag⟩, rfl⟩
  rw [useHttpsPorts, get_useHttpsPorts ∅ (fun entry hentry => ((mem_scanTcpPorts pick hbatch).mp hentry).2.2) n]
  split_ifs with h
  · obtain ⟨hn, -⟩ := hmem.mp h
    cases hflag : host.tcp n with
    | none => simp
    | some flag => simp [hn]
  · refine (decide_eq_false (fun hflag => h (hmem.mpr ⟨hflag.1, ?_⟩))).symm
    rw [hflag.2]
    rfl

theorem mem_endpointOnlyPorts (p : PortConfig) :
    p ∈ definitions.endpointOnlyPorts ↔ (∃ e ∈ definitions.allDiscoveryEndpoints, e.portType = p) ∧
      p ∉ definitions.ports := by
  rw [ServiceDefinitions.endpointOnlyPorts, mem_sortedPorts, List.mem_filter, List.mem_map, decide_eq_true_iff,
    mem_allDiscoveryPorts]

section http

variable (hhttp : ∀ e ∈ definitions.endpoints, e.protocol = .http)
include hhttp

theorem mem_allDiscoveryEndpoints_http (e : Endpoint) :
    e ∈ definitions.allDiscoveryEndpoints ↔ definitions.endpointFor e.portType.number e.path = some e := by
  rw [mem_allDiscoveryEndpoints, ServiceDefinitions.endpointFor]
  have hfind (h : e.protocol = .http) : definitions.endpoints.find? (fun x => x.sortKey = e.sortKey) =
      definitions.endpoints.find? (fun x => x.key = (e.portType.number, e.path)) := by
    rw [← List.head?_filter, ← List.head?_filter]
    refine congrArg List.head? (List.filter_congr (fun x hx => decide_eq_decide.mpr ?_))
    rw [Endpoint.sortKey, Endpoint.sortKey, Endpoint.key, hhttp x hx, h, Prod.mk.injEq]
    exact and_iff_right rfl
  constructor
  · exact fun h => hfind (hhttp e (List.mem_of_find?_eq_some h)) ▸ h
  · exact fun h => (hfind (hhttp e (List.mem_of_find?_eq_some h))).symm ▸ h

theorem mem_askedFor (ports : List PortConfig) (e : Endpoint) :
    e ∈ uniqueEndpoints (definitions.allDiscoveryEndpoints.filter (fun e => e.portType ∈ ports)) ↔
      definitions.endpointFor e.portType.number e.path = some e ∧ e.portType ∈ ports := by
  have hmem (x : Endpoint) : x ∈ definitions.allDiscoveryEndpoints.filter (fun e => e.portType ∈ ports) ↔
      definitions.endpointFor x.portType.number x.path = some x ∧ x.portType ∈ ports := by
    rw [List.mem_filter, mem_allDiscoveryEndpoints_http hhttp, decide_eq_true_iff]
  refine ⟨fun h => (hmem e).mp (mem_of_mem_uniqueEndpoints h), fun h => ?_⟩
  obtain ⟨u, hu, hkey⟩ := exists_mem_uniqueEndpoints ((hmem e).mpr h)
  obtain ⟨hnumber, hpath⟩ := Prod.mk.inj hkey
  have hufor := ((hmem u).mp (mem_of_mem_uniqueEndpoints hu)).1
  rw [hnumber, hpath, h.1] at hufor
  exact Option.some.inj hufor ▸ hu

/-- What is answered was named first of its port number and path, and its port was found or is of endpoints only. -/
theorem mem_gather_responses (e : Endpoint) (response : ρ) :
    (e, response) ∈ (gather host definitions σ ip isGateway fdLimit).responses ↔
      definitions.endpointFor e.portType.number e.path = some e ∧ host.reaches definitions e.portType ∧
        host.reply definitions ip e.portType.number e.path = some response := by
  change (e, response) ∈ batchScan _ _ _ _ ↔ _
  rw [mem_batchScan (batchSize_bounds fdLimit).2.2]
  have hreaches (h : definitions.endpointFor e.portType.number e.path = some e) :
      e.portType ∈ sortedPorts ((scanTcpPorts host (σ.tcp 0) (getOptimalPortBatchSize fdLimit)
        definitions.discoveryTcpPorts).map Prod.fst ++ definitions.endpointOnlyPorts) ↔
          host.reaches definitions e.portType := by
    rw [mem_sortedPorts, List.mem_append, mem_tcpPorts, mem_endpointOnlyPorts, HostBehaviour.reaches]
    have hall := (mem_allDiscoveryEndpoints_http hhttp e).mpr h
    constructor
    · rintro (⟨htcp, -, hopen⟩ | ⟨-, hout⟩)
      · exact .inr ⟨htcp, hopen⟩
      · exact .inl hout
    · rintro (hout | ⟨htcp, hopen⟩)
      · exact .inr ⟨⟨e, hall, rfl⟩, hout⟩
      · by_cases hin : e.portType ∈ definitions.ports
        · exact .inl ⟨htcp, hin, hopen⟩
        · exact .inr ⟨⟨e, hall, rfl⟩, hin⟩
  have hasked (x : Endpoint) := mem_askedFor hhttp
    (sortedPorts ((scanTcpPorts host (σ.tcp 0) (getOptimalPortBatchSize fdLimit)
    definitions.discoveryTcpPorts).map Prod.fst ++ definitions.endpointOnlyPorts)) x
  constructor
  · rintro ⟨x, hx, hsome⟩
    obtain ⟨a, ha, heq⟩ := Option.map_eq_some_iff.mp hsome
    obtain ⟨rfl, rfl⟩ := Prod.mk.inj heq
    obtain ⟨hfor, hport⟩ := (hasked x).mp ((σ.values_perm _).mem_iff.mp hx)
    beta_reduce at ha
    rw [flag_tcpPorts] at ha
    exact ⟨hfor, (hreaches hfor).mp hport, ha⟩
  · rintro ⟨hfor, hport, ha⟩
    refine ⟨e, (σ.values_perm _).mem_iff.mpr ((hasked e).mpr ⟨hfor, (hreaches hfor).mpr hport⟩), ?_⟩
    beta_reduce
    rw [flag_tcpPorts]
    exact Option.map_eq_some_iff.mpr ⟨response, ha, rfl⟩

end http

theorem mem_gather_openPorts (p : PortConfig) : p ∈ (gather host definitions σ ip isGateway fdLimit).openPorts ↔
    (p.protocol = .tcp ∧ p ∈ definitions.ports ∧ (host.tcp p.number).isSome) ∨ host.answersUdp definitions isGateway p ∨
      ∃ response ∈ (gather host definitions σ ip isGateway fdLimit).responses, response.1.portType = p := by
  change p ∈ sortedPorts (List.foldl _ _ _) ↔ _
  rw [mem_sortedPorts, mem_foldl_responses, List.mem_append, mem_tcpPorts, or_assoc]
  refine or_congr_right (or_congr_left ?_)
  exact mem_batchScan (batchSize_bounds fdLimit).2.1 _

end gathering

end VantageNet.Scanning
