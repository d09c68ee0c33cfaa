import VantageNet.Scanning.HostScan
import VantageNet.Subnets.Types

/-!
The ports of a container on a bridge and the endpoints that its answers are recorded for: `get_ports_from_container` and
`scan_container_endpoints` of `daemon/discovery/service/docker.rs`, with a token that is never cancelled.
-/

namespace VantageNet.Containers

open Interaction Inventory Scanning

inductive PortTypeEnum where
  | empty
  | tcp
  | udp
  | sctp
  deriving DecidableEq

def PortTypeEnum.protocol : PortTypeEnum → Option TransportProtocol
  | .tcp => some .tcp
  | .udp => some .udp
  | _ => none

/-- An entry of `ContainerSummary::ports`. -/
structure PortSummary where
  ip : Option String
  privatePort : UInt16
  publicPort : Option UInt16
  typ : Option PortTypeEnum
  deriving DecidableEq

abbrev IpPortHashMap := HashMap IpAddr (List PortConfig)

def IpPortHashMap.push (map : IpPortHashMap) (ip : IpAddr) (port : PortConfig) : IpPortHashMap :=
  map.insert ip ((map.get ip).getD [] ++ [port])

structure ContainerPorts where
  hostIpToHostPorts : IpPortHashMap
  containerIpsToContainerPorts : IpPortHashMap
  hostToContainerPortMap : HashMap (IpAddr × UInt16) UInt16

section ports

-- `parse::<IpAddr>()`
variable (parse : String → Option IpAddr)

def addPort (containerIps : List IpAddr) (maps : ContainerPorts) (p : PortSummary) : ContainerPorts :=
  match p.typ.bind PortTypeEnum.protocol with
  | none => maps
  | some protocol =>
    let maps := { maps with
      containerIpsToContainerPorts := containerIps.foldl (fun map ip => map.push ip ⟨p.privatePort, protocol⟩)
        maps.containerIpsToContainerPorts }
    match p.ip.bind parse, p.publicPort with
    | some ip, some publicPort =>
      { maps with
        hostIpToHostPorts := maps.hostIpToHostPorts.push ip ⟨publicPort, protocol⟩
        hostToContainerPortMap := maps.hostToContainerPortMap.insert (ip, publicPort) p.privatePort }
    | _, _ => maps

def getPortsFromContainer (ports : Option (List PortSummary))
    (containerInterfacesAndSubnets : List (Interface × Subnets.Subnet)) : ContainerPorts :=
  (ports.getD []).foldl (addPort parse (containerInterfacesAndSubnets.map (fun entry => entry.1.base.ipAddress))) ⟨∅, ∅, ∅⟩

end ports

section endpoints

variable {ρ : Type}

structure EndpointResponse (ρ : Type) where
  ip : IpAddr
  endpoint : Endpoint
  response : ρ

/-- The host endpoints of each container port, from the entries of the map in the order in which it is iterated. -/
def containerToHostPortMap (entries : List ((IpAddr × UInt16) × UInt16)) : HashMap UInt16 (List (IpAddr × UInt16)) :=
  entries.foldl (fun map entry => map.insert entry.2 ((map.get entry.2).getD [] ++ [entry.1])) ∅

/-- What is recorded when the container has answered for the endpoint. -/
def recordResponse (interface : Interface) (containerToHost : HashMap UInt16 (List (IpAddr × UInt16))) (endpoint : Endpoint)
    (response : ρ) : List (EndpointResponse ρ) :=
  ((containerToHost.get endpoint.portType.number).getD []).map (fun host =>
    ⟨host.1, { endpoint with portType := newTcp host.2 }, response⟩) ++
  [⟨interface.base.ipAddress, { endpoint with portType := newTcp endpoint.portType.number }, response⟩]

/-- `respond` is what comes of the command that is run in the container for an endpoint. -/
def scanContainerEndpoints (interface : Interface) (entries : List ((IpAddr × UInt16) × UInt16)) (allEndpoints : List Endpoint)
    (respond : Endpoint → Option ρ) : List (EndpointResponse ρ) :=
  allEndpoints.flatMap (fun endpoint =>
    match respond endpoint with
    | some response => recordResponse interface (containerToHostPortMap entries) endpoint response
    | none => [])

end endpoints

/-- A published port. -/
structure Mapping where
  protocol : TransportProtocol
  hostIp : IpAddr
  hostPort : UInt16
  containerPort : UInt16

def Mapping.host (m : Mapping) : IpAddr × UInt16 := (m.hostIp, m.hostPort)

/-- The mapping that an entry of the summary stands for. -/
def PortSummary.mapping (parse : String → Option IpAddr) (p : PortSummary) : Option Mapping := do
  return ⟨← p.typ.bind PortTypeEnum.protocol, ← p.ip.bind parse, ← p.publicPort, p.privatePort⟩

def mappings (parse : String → Option IpAddr) (ports : Option (List PortSummary)) : List Mapping :=
  (ports.getD []).filterMap (PortSummary.mapping parse)

/-- The entries of a map in an order of its iteration. -/
structure Iterates {K V : Type} [DecidableEq K] (map : HashMap K V) (entries : List (K × V)) : Prop where
  nodup : (entries.map Prod.fst).Nodup
  mem_iff : ∀ k v, (k, v) ∈ entries ↔ map.get k = some v

/-- What a container answers on one of its TCP ports is recorded for the host endpoints that lead there, apart from the
endpoint in the container itself. -/
def RecordsWhereMapped (parse : String → Option IpAddr) (ports : Option (List PortSummary)) : Prop :=
  ∀ (ρ : Type) (containerInterfacesAndSubnets : List (Interface × Subnets.Subnet)) (entries : List ((IpAddr × UInt16) × UInt16))
    (interface : Interface) (before : List Endpoint) (endpoint : Endpoint) (after : List Endpoint) (respond : Endpoint → Option ρ)
    (response : ρ),
    Iterates (getPortsFromContainer parse ports containerInterfacesAndSubnets).hostToContainerPortMap entries →
    respond endpoint = some response →
    ∃ recorded, scanContainerEndpoints interface entries (before ++ endpoint :: after) respond =
        scanContainerEndpoints interface entries before respond ++ recorded ++
          scanContainerEndpoints interface entries after respond ∧
      ∀ ip port, (ip, port) ≠ (interface.base.ipAddress, endpoint.portType.number) →
        (⟨ip, { endpoint with portType := newTcp port }, response⟩ ∈ recorded ↔
          ∃ m ∈ mappings parse ports, m.protocol = .tcp ∧ m.host = (ip, port) ∧ m.containerPort = endpoint.portType.number)

def lastMapping (mappings : List Mapping) (host : IpAddr × UInt16) : Option Mapping := mappings.reverse.find? (fun m => m.host = host)

/-- All TCP mappings of a host endpoint that is published lead to where the last of its mappings does, and there is one. -/
def Unambiguous (mappings : List Mapping) : Prop :=
  ∀ host last, lastMapping mappings host = some last → (∃ m ∈ mappings, m.protocol = .tcp ∧ m.host = host) ∧
    ∀ m ∈ mappings, m.protocol = .tcp → m.host = host → m.containerPort = last.containerPort

section iteration

variable {K V : Type} [DecidableEq K]

theorem exists_iterates (map : HashMap K V) : ∃ entries, Iterates map entries := by
  refine ⟨map.keys.toList.filterMap (fun k => (map.get k).map (fun v => (k, v))), ?_, fun k v => ?_⟩
  · rw [List.map_filterMap]
    refine (Finset.nodup_toList map.keys).filterMap (fun k j i hk hj => ?_)
    simp only [Option.map_map, Option.mem_def, Option.map_eq_some_iff, Function.comp_apply] at hk hj
    obtain ⟨-, -, rfl⟩ := hk
    obtain ⟨-, -, rfl⟩ := hj
    rfl
  · simp only [List.mem_filterMap, Option.map_eq_some_iff, Prod.mk.injEq, Finset.mem_toList, Finmap.mem_keys, mem_iff_get]
    constructor
    · rintro ⟨j, -, w, hw, rfl, rfl⟩
      exact hw
    · intro h
      exact ⟨k, ⟨v, h⟩, v, h, rfl, rfl⟩

theorem Iterates.perm {map : HashMap K V} {entries entries' : List (K × V)} (h : Iterates map entries)
    (h' : Iterates map entries') : entries.Perm entries' :=
  (List.perm_ext_iff_of_nodup h.nodup.of_map h'.nodup.of_map).mpr (fun e => (h.mem_iff e.1 e.2).trans (h'.mem_iff e.1 e.2).symm)

end iteration

section mapping

variable {parse : String → Option IpAddr}

/-- Only the published ports are put into the map, each in the place of what was there. -/
theorem hostToContainerPortMap_addPort (containerIps : List IpAddr) (maps : ContainerPorts) (p : PortSummary) :
    (addPort parse containerIps maps p).hostToContainerPortMap =
      match p.mapping parse with
      | some m => maps.hostToContainerPortMap.insert m.host m.containerPort
      | none => maps.hostToContainerPortMap := by
  rw [addPort, PortSummary.mapping]
  cases p.typ.bind PortTypeEnum.protocol with
  | none => rfl
  | some protocol =>
    cases p.ip.bind parse with
    | none => rfl
    | some ip => cases p.publicPort <;> rfl

theorem lastMapping_append (mappings : List Mapping) (m : Mapping) (host : IpAddr × UInt16) :
    lastMapping (mappings ++ [m]) host = if m.host = host then some m else lastMapping mappings host := by
  rw [lastMapping, List.reverse_append, List.reverse_singleton, List.singleton_append, List.find?_cons]
  split_ifs with hhost
  · rw [decide_eq_true hhost]
  · rw [decide_eq_false hhost, lastMapping]

theorem get_hostToContainerPortMap (ports : Option (List PortSummary))
    (containerInterfacesAndSubnets : List (Interface × Subnets.Subnet)) (host : IpAddr × UInt16) :
    HashMap.get (getPortsFromContainer parse ports containerInterfacesAndSubnets).hostToContainerPortMap host =
      (lastMapping (mappings parse ports) host).map Mapping.containerPort := by
  rw [getPortsFromContainer, mappings]
  generalize ports.getD [] = entries
  generalize containerInterfacesAndSubnets.map (fun entry => entry.1.base.ipAddress) = containerIps
  induction entries using List.reverseRecOn with
  | nil => rfl
  | append_singleton entries p ih =>
    rw [List.foldl_append, List.foldl_cons, List.foldl_nil, hostToContainerPortMap_addPort, List.filterMap_append]
    cases hp : p.mapping parse with
    | none => rw [List.filterMap_cons_none hp, List.filterMap_nil, List.append_nil, ih]
    | some m =>
      rw [List.filterMap_cons_some hp, List.filterMap_nil, lastMapping_append, get_insert, ih]
      by_cases hhost : m.host = host
      · rw [if_pos hhost, if_pos hhost.symm, Option.map_some]
      · rw [if_neg hhost, if_neg (Ne.symm hhost)]

theorem mem_containerToHostPortMap (entries : List ((IpAddr × UInt16) × UInt16)) (host : IpAddr × UInt16) (port : UInt16) :
    host ∈ (HashMap.get (containerToHostPortMap entries) port).getD [] ↔ (host, port) ∈ entries := by
  rw [containerToHostPortMap]
  induction entries using List.reverseRecOn with
  | nil => simp [HashMap.get]
  | append_singleton entries entry ih =>
    rw [List.foldl_append, List.foldl_cons, List.foldl_nil, get_insert, List.mem_append, List.mem_singleton, Prod.ext_iff]
    by_cases hport : port = entry.2
    · rw [if_pos hport, Option.getD_some, List.mem_append, List.mem_singleton, ← hport, ih, and_iff_left rfl]
    · rw [if_neg hport, ih]
      exact (or_iff_left (fun h => hport h.2)).symm

theorem recorded_iff {ρ : Type} {map : HashMap (IpAddr × UInt16) UInt16} {entries : List ((IpAddr × UInt16) × UInt16)}
    (hentries : Iterates map entries) (interface : Interface) (endpoint : Endpoint) (response : ρ) {ip : IpAddr} {port : UInt16}
    (hown : (ip, port) ≠ (interface.base.ipAddress, endpoint.portType.number)) :
    ⟨ip, { endpoint with portType := newTcp port }, response⟩ ∈
        recordResponse interface (containerToHostPortMap entries) endpoint response ↔
      map.get (ip, port) = some endpoint.portType.number := by
  rw [recordResponse, List.mem_append, List.mem_map, ← hentries.mem_iff, ← mem_containerToHostPortMap]
  constructor
  · rintro (⟨host, hhost, heq⟩ | heq)
    · simp only [EndpointResponse.mk.injEq, Endpoint.mk.injEq, newTcp, PortConfig.mk.injEq, true_and, and_true] at heq
      obtain ⟨rfl, rfl⟩ := heq
      exact hhost
    · have heq := List.mem_singleton.mp heq
      simp only [EndpointResponse.mk.injEq, Endpoint.mk.injEq, newTcp, PortConfig.mk.injEq, true_and, and_true] at heq
      exact absurd (Prod.ext heq.1 heq.2) hown
  · exact fun hmem => .inl ⟨(ip, port), hmem, rfl⟩

theorem scanContainerEndpoints_append {ρ : Type} (interface : Interface) (entries : List ((IpAddr × UInt16) × UInt16))
    (before : List Endpoint) (endpoint : Endpoint) (after : List Endpoint) {respond : Endpoint → Option ρ} {response : ρ}
    (hresponse : respond endpoint = some response) :
    scanContainerEndpoints interface entries (before ++ endpoint :: after) respond =
      scanContainerEndpoints interface entries before respond ++
        recordResponse interface (containerToHostPortMap entries) endpoint response ++
          scanContainerEndpoints interface entries after respond := by
  rw [scanContainerEndpoints, List.flatMap_append, List.flatMap_cons, hresponse, ← List.append_assoc]
  rfl

theorem mem_lastMapping {mappings : List Mapping} {host : IpAddr × UInt16} {last : Mapping}
    (h : lastMapping mappings host = some last) : last ∈ mappings ∧ last.host = host :=
  ⟨List.mem_reverse.mp (List.mem_of_find?_eq_some h),
    of_decide_eq_true (List.find?_some (p := fun m : Mapping => decide (m.host = host)) h)⟩

theorem exists_lastMapping {mappings : List Mapping} {m : Mapping} (hm : m ∈ mappings) :
    ∃ last, lastMapping mappings m.host = some last := by
  rw [← Option.isSome_iff_exists, lastMapping, List.find?_isSome]
  exact ⟨m, List.mem_reverse.mpr hm, decide_eq_true rfl⟩

/-- The last mapping decides where an answer is recorded, whatever its protocol. -/
theorem last_iff_of_unambiguous {mappings : List Mapping} (h : Unambiguous mappings) (host : IpAddr × UInt16) (port : UInt16) :
    (lastMapping mappings host).map Mapping.containerPort = some port ↔
      ∃ m ∈ mappings, m.protocol = .tcp ∧ m.host = host ∧ m.containerPort = port := by
  constructor
  · intro hport
    obtain ⟨last, hlast, rfl⟩ := Option.map_eq_some_iff.mp hport
    obtain ⟨⟨m, hm, htcp, hhost⟩, hall⟩ := h host last hlast
    exact ⟨m, hm, htcp, hhost, hall m hm htcp hhost⟩
  · rintro ⟨m, hm, htcp, rfl, rfl⟩
    obtain ⟨last, hlast⟩ := exists_lastMapping hm
    rw [hlast, Option.map_some, (h m.host last hlast).2 m hm htcp rfl]

theorem unambiguous_of_last_iff {mappings : List Mapping}
    (h : ∀ host port, (lastMapping mappings host).map Mapping.containerPort = some port ↔
      ∃ m ∈ mappings, m.protocol = .tcp ∧ m.host = host ∧ m.containerPort = port) : Unambiguous mappings := by
  intro host last hlast
  constructor
  · obtain ⟨m, hm, htcp, hhost, -⟩ := (h host last.containerPort).mp (by rw [hlast, Option.map_some])
    exact ⟨m, hm, htcp, hhost⟩
  · intro m hm htcp hhost
    have hsame := (h host m.containerPort).mpr ⟨m, hm, htcp, hhost, rfl⟩
    rw [hlast, Option.map_some] at hsame
    exact (Option.some.inj hsame).symm

end mapping

section attribution

/-- The container's interface on a bridge, at another address than the host's. -/
def bridgeInterface (hostIp : IpAddr) : Interface :=
  ⟨1, 0, 0, ⟨0, 0, 0, if hostIp = .v4 2 then .v4 3 else .v4 2, none, none, 0⟩⟩

theorem bridgeInterface_ne (hostIp : IpAddr) : hostIp ≠ (bridgeInterface hostIp).base.ipAddress := by
  unfold bridgeInterface
  split_ifs with h
  · rw [h]
    decide
  · exact h

/-- What the map holds of a host endpoint is what an answer shows of it. -/
theorem RecordsWhereMapped.last_iff {parse : String → Option IpAddr} {ports : Option (List PortSummary)}
    (h : RecordsWhereMapped parse ports) (host : IpAddr × UInt16) (port : UInt16) :
    (lastMapping (mappings parse ports) host).map Mapping.containerPort = some port ↔
      ∃ m ∈ mappings parse ports, m.protocol = .tcp ∧ m.host = host ∧ m.containerPort = port := by
  obtain ⟨entries, hentries⟩ := exists_iterates (getPortsFromContainer parse ports []).hostToContainerPortMap
  have hown : host ≠ ((bridgeInterface host.1).base.ipAddress, port) :=
    fun heq => bridgeInterface_ne host.1 (congrArg Prod.fst heq)
  obtain ⟨recorded, hscan, hrecorded⟩ := h Unit [] entries (bridgeInterface host.1) [] (.forPattern (newTcp port) "/") []
    (fun _ => some ()) () hentries rfl
  have hsame : recorded = recordResponse (bridgeInterface host.1) (containerToHostPortMap entries)
      (.forPattern (newTcp port) "/") () := by
    have hresponse : (fun _ : Endpoint => some ()) (.forPattern (newTcp port) "/") = some () := rfl
    rw [scanContainerEndpoints_append _ _ _ _ _ hresponse] at hscan
    exact (List.append_cancel_left (List.append_cancel_right hscan)).symm
  rw [← get_hostToContainerPortMap ports []]
  rw [hsame] at hrecorded
  exact (recorded_iff hentries _ (.forPattern (newTcp port) "/") () hown).symm.trans (hrecorded host.1 host.2 hown)

/-- Answers are recorded where they should be just when the last mappings are those of TCP. -/
theorem recordsWhereMapped_iff (parse : String → Option IpAddr) (ports : Option (List PortSummary)) :
    RecordsWhereMapped parse ports ↔ Unambiguous (mappings parse ports) := by
  refine ⟨fun h => unambiguous_of_last_iff h.last_iff, fun h => ?_⟩
  intro ρ containerInterfacesAndSubnets entries interface before endpoint after respond response hentries hresponse
  refine ⟨_, scanContainerEndpoints_append interface entries before endpoint after hresponse, fun ip port hown => ?_⟩
  rw [recorded_iff hentries interface endpoint response hown, get_hostToContainerPortMap]
  exact last_iff_of_unambiguous h (ip, port) _

def parseLoopback (s : String) : Option IpAddr := if s = "127.0.0.1" then some (.v4 0x7F000001) else none

/-- The host's port 8080 leads to port 80 for TCP and to port 53 for UDP. -/
def sharedPort : List PortSummary :=
  [⟨some "127.0.0.1", 80, some 8080, some .tcp⟩, ⟨some "127.0.0.1", 53, some 8080, some .udp⟩]

theorem mappings_sharedPort : mappings parseLoopback (some sharedPort) =
    [⟨.tcp, .v4 0x7F000001, 8080, 80⟩, ⟨.udp, .v4 0x7F000001, 8080, 53⟩] := rfl

/-- What the container answers on port 80 is not recorded for port 8080. -/
theorem recordsWhereMapped_sharedPort : ¬ ∀ parse ports, RecordsWhereMapped parse ports := by
  intro h
  have hrecords := (h parseLoopback (some sharedPort)).last_iff (.v4 0x7F000001, 8080) 80
  rw [mappings_sharedPort] at hrecords
  exact absurd (hrecords.mpr ⟨_, List.mem_cons_self, rfl, rfl, rfl⟩) (by decide)

end attribution

end VantageNet.Containers
