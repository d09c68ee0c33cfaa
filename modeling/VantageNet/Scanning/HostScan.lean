import VantageNet.Interaction.Collections
import VantageNet.Scanning.NetworkScan
import Mathlib.Data.List.Sort

/-!
What a scan finds out about one host: `deep_scan_host` of `daemon/discovery/service/network.rs` and
`daemon/utils/scanner.rs`, with a token that is never cancelled. What the host does is fixed; in
which order its answers come in is not.
-/

namespace VantageNet.Scanning

open Interaction Inventory

inductive ApplicationProtocol where
  | http
  | https
  deriving DecidableEq

def ApplicationProtocol.toString : ApplicationProtocol → String
  | .http => "http"
  | .https => "https"

structure Endpoint where
  protocol : ApplicationProtocol
  portType : PortConfig
  path : String
  deriving DecidableEq

/-- The entries of `unique_endpoints` are found by this. -/
def Endpoint.key (e : Endpoint) : UInt16 × String := (e.portType.number, e.path)

def Endpoint.forPattern (portType : PortConfig) (path : String) : Endpoint := ⟨.http, portType, path⟩

structure Url where
  scheme : ApplicationProtocol
  ip : IpAddr
  port : UInt16
  path : String
  deriving DecidableEq

def newTcp (number : UInt16) : PortConfig := ⟨number, .tcp⟩
def newUdp (number : UInt16) : PortConfig := ⟨number, .udp⟩

section sorting

def TransportProtocol.rank : TransportProtocol → ℕ
  | .udp => 0
  | .tcp => 1

def portOrder (a b : PortConfig) : Bool :=
  a.number < b.number || (a.number = b.number && TransportProtocol.rank a.protocol ≤ TransportProtocol.rank b.protocol)

def endpointOrder (a b : Endpoint) : Bool :=
  a.protocol.toString < b.protocol.toString || (a.protocol = b.protocol &&
    (a.portType.number < b.portType.number || (a.portType.number = b.portType.number && !decide (b.path < a.path))))

/-- `Vec::dedup`. -/
def dedup {α : Type} (same : α → α → Bool) : List α → List α
  | [] => []
  | [a] => [a]
  | a :: b :: rest => if same a b then dedup same (a :: rest) else a :: dedup same (b :: rest)

def sortedPorts (ports : List PortConfig) : List PortConfig := dedup (· = ·) (ports.mergeSort portOrder)

end sorting

/-- What the definitions of all services look for. -/
structure ServiceDefinitions where
  ports : List PortConfig
  endpoints : List Endpoint

namespace ServiceDefinitions

variable (definitions : ServiceDefinitions)

def allDiscoveryPorts : List PortConfig := sortedPorts definitions.ports

def sameEndpoint (a b : Endpoint) : Bool :=
  a.protocol = b.protocol && a.portType.number = b.portType.number && a.path = b.path

def allDiscoveryEndpoints : List Endpoint := dedup sameEndpoint (definitions.endpoints.mergeSort endpointOrder)

def endpointOnlyPorts : List PortConfig :=
  sortedPorts ((definitions.allDiscoveryEndpoints.map Endpoint.portType).filter (fun p => p ∉ definitions.allDiscoveryPorts))

end ServiceDefinitions

/-- `tcp` says whether a connection to the port comes about, and if so whether the host closes it at once;
`udp` which port the probe of the port finds; `get` what a request is answered with. -/
structure HostBehaviour (ρ : Type) where
  tcp : UInt16 → Option Bool
  udp : UInt16 → Option UInt16
  get : Url → Option ρ

/-- The orders in which a scan's answers come in, batch by batch, and that of a hash map's values. -/
structure Schedule where
  tcp : ℕ → ℕ → ℕ
  udp : ℕ → ℕ
  endpoints : ℕ → ℕ
  values : List Endpoint → List Endpoint
  values_perm : ∀ l, (values l).Perm l

section scans

variable {ρ : Type} (host : HostBehaviour ρ)

def batchScan {τ β : Type} (items : List τ) (batchSize : ℕ) (pick : ℕ → ℕ) (scanFn : τ → Option β) : List β :=
  Window.drain scanFn pick items.length (Window.start batchSize items)

/-- `is_https` knows the predefined ports only and `new_tcp` makes custom ones, so the flag is that of
the connection. -/
def scanTcpPorts (pick : ℕ → ℕ) (batchSize : ℕ) (tcpPortsToCheck : List UInt16) : List (PortConfig × Bool) :=
  batchScan tcpPortsToCheck batchSize pick (fun p => (host.tcp p).map (fun useHttps => (newTcp p, useHttps)))

def udpService (isGateway : Bool) (port : UInt16) : Option UInt16 :=
  if port = 53 ∨ port = 123 ∨ port = 161 then host.udp port
  else if port = 67 then (if isGateway then host.udp port else none)
  else none

def scanUdpPorts (definitions : ServiceDefinitions) (pick : ℕ → ℕ) (batchSize : ℕ) (isGateway : Bool) : List PortConfig :=
  let ports := (definitions.allDiscoveryPorts.filter (fun p => p.protocol = .udp)).map PortConfig.number
  batchScan ports (min batchSize 10) pick (fun p => (udpService host isGateway p).map newUdp)

/-- The first endpoint of every port number and path. -/
def uniqueEndpoints (endpoints : List Endpoint) : List Endpoint :=
  endpoints.foldl (fun unique e => if e.key ∈ unique.map Endpoint.key then unique else unique ++ [e]) []

/-- The two addresses of an endpoint in the order in which they are tried. -/
def Endpoint.urls (e : Endpoint) (ip : IpAddr) (useHttps : Bool) : List Url :=
  let httpUrl : Url := ⟨.http, ip, e.portType.number, e.path⟩
  let httpsUrl : Url := ⟨.https, ip, e.portType.number, e.path⟩
  if useHttps then [httpsUrl, httpUrl] else [httpUrl, httpsUrl]

structure EndpointScan (ρ : Type) where
  requests : List (Endpoint × List Url)
  responses : List (Endpoint × ρ)

def scanEndpoints (definitions : ServiceDefinitions) (σ : Schedule) (ip : IpAddr) (filterPorts : List PortConfig)
    (httpsPorts : HashMap UInt16 Bool) (batchSize : ℕ) : EndpointScan ρ :=
  let endpoints := σ.values (uniqueEndpoints (definitions.allDiscoveryEndpoints.filter (fun e => e.portType ∈ filterPorts)))
  let urls := fun e : Endpoint => e.urls ip ((httpsPorts.get e.portType.number).getD false)
  { requests := endpoints.map (fun e => (e, urls e))
    responses := batchScan endpoints (min (batchSize / 2) 50) σ.endpoints
      (fun e => ((urls e).findSome? host.get).map (fun response => (e, response))) }

/-- The batches of `deep_scan_host`, one after the other; `fuel` bounds their number. -/
def scanBatches (pick : ℕ → ℕ → ℕ) (batchSize : ℕ) : ℕ → List UInt16 → List (PortConfig × Bool)
  | 0, _ => []
  | fuel + 1, remaining =>
    if remaining = [] then []
    else scanTcpPorts host (pick fuel) batchSize (remaining.take batchSize) ++
      scanBatches pick batchSize fuel (remaining.drop batchSize)

/-- The https flag of every port that the deep scan found. -/
def useHttpsPorts (found : List (PortConfig × Bool)) : HashMap UInt16 Bool :=
  found.foldl (fun flags entry => flags.insert entry.1.number entry.2) ∅

structure HostScan (ρ : Type) where
  openPorts : List PortConfig
  requests : List (Endpoint × List Url)
  responses : List (Endpoint × ρ)

def deepScanHost (definitions : ServiceDefinitions) (σ : Schedule) (ip : IpAddr) (isGateway : Bool)
    (phase1Ports : List PortConfig) : HostScan ρ :=
  let remaining := remainingTcpPorts (phase1Ports.map PortConfig.number)
  let allTcpPorts := scanBatches host σ.tcp portsPerHostBatch remaining.length remaining
  let openPorts := sortedPorts (allTcpPorts.map Prod.fst ++ phase1Ports)
  let openPorts := openPorts ++ scanUdpPorts host definitions σ.udp portsPerHostBatch isGateway
  let portsToCheck := sortedPorts (openPorts ++ definitions.endpointOnlyPorts)
  let scan := scanEndpoints host definitions σ ip portsToCheck (useHttpsPorts allTcpPorts) portsPerHostBatch
  let openPorts := scan.responses.foldl
    (fun ports response => if response.1.portType ∈ ports then ports else ports ++ [response.1.portType]) openPorts
  { openPorts := sortedPorts openPorts, requests := scan.requests, responses := scan.responses }

/-- `check_host_responsive_ports`. -/
def checkHostResponsivePorts (pick : ℕ → ℕ) (portScanBatchSize : ℕ) (discoveryPorts : List UInt16) : Option (List PortConfig) :=
  let openPorts := scanTcpPorts host pick portScanBatchSize discoveryPorts
  if openPorts.isEmpty then none else some (openPorts.map Prod.fst)

end scans

end VantageNet.Scanning
