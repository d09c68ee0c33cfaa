import VantageNet.Interaction.Monitor
import VantageNet.Scanning.NetworkScan

/-!
A discovery session in the daemon: `discover` of `daemon/discovery/service/network.rs`, `docker.rs`
and `self_report.rs`, with the reports of `daemon/discovery/service/base.rs`. What the daemon asks
of its configuration, of the machine, of Docker and of the server is answered by the environment.
-/

namespace VantageNet.Scanning

open Interaction Program Inventory

structure IpCidr where
  address : IpAddr
  networkLength : ℕ
  deriving DecidableEq

def IpCidr.contains (c : IpCidr) (ip : IpAddr) : Bool :=
  match c.address, ip with
  | .v4 a, .v4 b => a >>> (32 - c.networkLength) == b >>> (32 - c.networkLength)
  | .v6 a, .v6 b => a >>> (128 - c.networkLength) == b >>> (128 - c.networkLength)
  | _, _ => false

structure Subnet where
  id : Uuid
  cidr : IpCidr
  isDockerBridge : Bool
  deriving DecidableEq

structure DiscoverySessionInfo where
  sessionId : Uuid
  networkId : Uuid
  daemonId : Uuid
  startedAt : Option Instant
  deriving DecidableEq

structure DiscoverySession where
  info : DiscoverySessionInfo
  gatewayIps : List IpAddr
  lastProgress : UInt8
  lastProgressReportTime : ℕ
  deriving DecidableEq

def DiscoverySession.new (info : DiscoverySessionInfo) (gatewayIps : List IpAddr) : DiscoverySession := ⟨info, gatewayIps, 0, 0⟩

structure DiscoverySessionUpdate where
  phase : DiscoveryPhase
  progress : UInt8
  error : Option String
  finishedAt : Option Instant

def DiscoverySessionUpdate.scanning (progress : UInt8) : DiscoverySessionUpdate := ⟨.scanning, min progress 100, none, none⟩

def fromStateAndUpdate (discoveryType : DiscoveryType) (info : DiscoverySessionInfo) (update : DiscoverySessionUpdate) :
    DiscoveryUpdatePayload :=
  ⟨info.sessionId, info.daemonId, info.networkId, update.phase, discoveryType, update.progress, update.error,
    info.startedAt, update.finishedAt⟩

section runner

/-- What is asked in a session. `scanHosts` is `scan_and_process_hosts` after it has read the session: what
it reports, and its result. -/
inductive RunnerOp where
  | getId
  | getNetworkId
  | getBindAddress
  | getPort
  | getConcurrentScans
  | utcNow
  | getOwnInterfaces (discoveryType : DiscoveryType) (daemonId networkId : Uuid)
  | getOwnIpAddress
  | getOwnRoutingTableGatewayIps
  | newLocalDockerClient
  | getSubnetsFromDockerNetworks (daemonId networkId : Uuid) (discoveryType : DiscoveryType)
  | listNetworks
  | listContainers
  | inspectContainer (id : String)
  | getSubnets
  | createSubnet (subnet : Subnet)
  | createHost (hostId networkId : Uuid) (interfaces : List Interface)
  | updateCapabilities (daemonId : Uuid) (hasDockerSocket : Bool) (interfacedSubnetIds : List Uuid)
  | scanHosts (subnets : List Subnet)
  | processSingleContainer (id : String)
  | setDockerClient
  | getDockerClient
  | getSession
  | setSession (session : DiscoverySession)
  | clearSession (sessionId : Uuid)
  | storeProgress (now : ℕ) (percent : UInt8)
  | postUpdate (payload : DiscoveryUpdatePayload)
  | isCancelled
  | cancel

@[reducible]
def RunnerOp.Reply : RunnerOp → Type
  | .getId => Except String Uuid
  | .getNetworkId => Except String (Option Uuid)
  | .getBindAddress => Except String String
  | .getPort => Except String UInt16
  | .getConcurrentScans => Except String ℕ
  | .utcNow => Instant
  | .getOwnInterfaces _ _ _ => Except String (List Interface × List Subnet)
  | .getOwnIpAddress => Except String IpAddr
  | .getOwnRoutingTableGatewayIps => Except String (List IpAddr)
  | .newLocalDockerClient => Except String Unit
  | .getSubnetsFromDockerNetworks _ _ _ => Except String (List Subnet)
  | .listNetworks => Except String (List IpAddr)
  | .listContainers => Except String (List (Option String))
  | .inspectContainer _ => Except String String
  | .getSubnets => Except String (List Subnet)
  | .createSubnet _ => Except String Subnet
  | .createHost _ _ _ => Except String (List Uuid)
  | .updateCapabilities _ _ _ => Except String Unit
  | .scanHosts _ => Progress × Except String Unit
  | .processSingleContainer _ => Unit
  | .setDockerClient | .getDockerClient => Bool
  | .getSession => Option DiscoverySession
  | .setSession _ | .clearSession _ | .storeProgress _ _ | .postUpdate _ | .cancel => Unit
  | .isCancelled => Bool

abbrev runnerSig : Signature := ⟨RunnerOp, RunnerOp.Reply⟩

/-- `current_session` of the service, `docker_client` of the runner, the token, and the updates that were
sent to the server. -/
structure RunnerState where
  currentSession : Option DiscoverySession
  dockerClient : Bool
  cancelled : Bool
  updates : List DiscoveryUpdatePayload

namespace RunnerState

/-- A session is handed to the daemon: a new runner and a new token. -/
def initiated (currentSession : Option DiscoverySession) : RunnerState := ⟨currentSession, false, false, []⟩

def scanned (t : RunnerState) (discoveryType : DiscoveryType) (p : Progress) : RunnerState :=
  match t.currentSession with
  | none => t
  | some session => { t with
      currentSession := some { session with
        lastProgress := UInt8.ofNat p.lastProgress
        lastProgressReportTime := p.lastProgressReportTime }
      updates := t.updates ++ p.sent.map (fun percent =>
        fromStateAndUpdate discoveryType session.info (.scanning (UInt8.ofNat percent))) }

end RunnerState

def runnerStep (discoveryType : DiscoveryType) : Handler runnerSig RunnerState
  | .scanHosts _, r, t => (r, t.scanned discoveryType r.1)
  | .setDockerClient, _, t => (!t.dockerClient, { t with dockerClient := true })
  | .getDockerClient, _, t => (t.dockerClient, t)
  | .getSession, _, t => (t.currentSession, t)
  | .setSession session, _, t => ((), { t with currentSession := some session })
  | .clearSession sessionId, _, t =>
    ((), { t with currentSession := t.currentSession.filter (fun session => session.info.sessionId ≠ sessionId) })
  | .storeProgress now percent, _, t => ((), { t with
      currentSession := t.currentSession.map (fun session =>
        { session with lastProgress := percent, lastProgressReportTime := now }) })
  -- A request that fails is only logged.
  | .postUpdate payload, _, t => ((), { t with updates := t.updates ++ [payload] })
  | .isCancelled, r, t => (t.cancelled || r, { t with cancelled := t.cancelled || r })
  | .cancel, _, t => ((), { t with cancelled := true })
  | _, r, t => (r, t)

abbrev Runner := Program runnerSig String

end runner

section base

def networkId (unset : String) : Runner Uuid := .op .getNetworkId (fun r => orFail (r.bind (fun id => id.elim (.error unset) .ok)))

def getSession : Runner DiscoverySession :=
  .op .getSession (fun session => session.elim (.fail "No active discovery session") .ret)

def reportDiscoveryUpdate (discoveryType : DiscoveryType) (update : DiscoverySessionUpdate) : Runner Unit := do
  let session ← getSession
  .op (.postUpdate (fromStateAndUpdate discoveryType session.info update)) .ret

def asSecs (now : Instant) : ℕ := (now / 1000000000).toNat

/-- In the scans that call it, nothing else stores the time of the last report between the load and the
exchange. -/
def reportScanningProgress (discoveryType : DiscoveryType) (percent : UInt8) : Runner Unit := do
  let session ← getSession
  if percent ≤ session.lastProgress ∧ percent < 100 then return
  let now ← .op .utcNow .ret
  if percent < 100 ∧ asSecs now < session.lastProgressReportTime + 10 then return
  .op (.storeProgress (asSecs now) percent) .ret
  reportDiscoveryUpdate discoveryType (.scanning percent)

def initializeDiscoverySession (getGatewayIps : Runner (List IpAddr)) (request : DaemonDiscoveryRequest) (daemonId : Uuid) :
    Runner Unit := do
  let gatewayIps ← getGatewayIps
  let networkId ← networkId "Network ID not set, aborting discovery session"
  let now ← .op .utcNow .ret
  .op (.setSession (.new ⟨request.sessionId, networkId, daemonId, some now⟩ gatewayIps)) .ret

def startDiscovery (getGatewayIps : Runner (List IpAddr)) (discoveryType : DiscoveryType) (request : DaemonDiscoveryRequest) :
    Runner Unit := do
  let daemonId ← .op .getId orFail
  initializeDiscoverySession getGatewayIps request daemonId
  reportDiscoveryUpdate discoveryType ⟨.started, 0, none, none⟩
  let _ ← getSession

def resourceExhaustion : List String :=
  ["too many open files", "file descriptor limit", "cannot allocate memory", "out of memory", "os error 24", "emfile"]

/-- `DiscoveryCriticalError::from_error_string`, shown, or the error itself. -/
def criticalError (error : String) : String :=
  if resourceExhaustion.any (fun text => error.toLower.contains text) then
    "Resource exhaustion during scan: too many open files - CONCURRENT_SCANS is likely too high for this system. " ++
      "Check README.md for troubleshooting."
  else "Critical error: " ++ error

/-- The terminal update of a session. -/
def reportResult (discoveryType : DiscoveryType) (session : DiscoverySession) : Except String Unit → Runner Unit
  | .ok _ => do
    let now ← .op .utcNow .ret
    reportDiscoveryUpdate discoveryType ⟨.complete, 100, none, some now⟩
  | .error e => do
    let cancelled ← .op .isCancelled .ret
    let now ← .op .utcNow .ret
    if cancelled then reportDiscoveryUpdate discoveryType ⟨.cancelled, session.lastProgress, none, some now⟩
    else
      reportDiscoveryUpdate discoveryType ⟨.failed, session.lastProgress, some (criticalError e), some now⟩
      .op .cancel .ret

def finishDiscovery (discoveryType : DiscoveryType) (discoveryResult : Except String Unit) : Runner Unit := do
  let session ← getSession
  reportResult discoveryType session discoveryResult
  .op (.clearSession session.info.sessionId) .ret

end base

section network

def dockerClient : Runner Unit := .op .getDockerClient (fun set => if set then .ret () else .fail "Docker client unavailable")

def createSubnet (subnet : Subnet) : Runner Subnet := .op (.createSubnet subnet) orFail

/-- `discover_create_subnets` of a network scan. -/
def targetSubnets (discoveryType : DiscoveryType) (subnetIds : Option (List Uuid)) : Runner (List Subnet) := do
  let daemonId ← .op .getId orFail
  let networkId ← networkId "Network ID not set"
  match subnetIds with
  | some subnetIds =>
    let allSubnets ← .op .getSubnets orFail
    return allSubnets.filter (fun s => subnetIds.contains s.id)
  | none =>
    let own ← .op (.getOwnInterfaces discoveryType daemonId networkId) orFail
    collect createSubnet (own.2.filter (fun s => !(s.cidr.networkLength < 10) && !s.isDockerBridge))

def scanAndProcessHosts (subnets : List Subnet) : Runner Unit := do
  let _ ← getSession
  .op (.scanHosts subnets) (fun r => orFail r.2)

def discoverNetwork (subnetIds : Option (List Uuid)) (discoveryType : DiscoveryType) (request : DaemonDiscoveryRequest) :
    Runner Unit := do
  let subnets ← targetSubnets discoveryType subnetIds
  startDiscovery (.op .getOwnRoutingTableGatewayIps orFail) discoveryType request
  let discoveryResult ← (scanAndProcessHosts subnets).attempt
  finishDiscovery discoveryType discoveryResult

end network

section docker

def dockerGatewayIps : Runner (List IpAddr) := do
  dockerClient
  .op .listNetworks orFail

def getContainersToScan : Runner (List (Option String)) := do
  dockerClient
  .op .listContainers orFail

/-- `discover_create_subnets` of a Docker scan. -/
def dockerSubnets (discoveryType : DiscoveryType) : Runner (List Subnet) := do
  let daemonId ← .op .getId orFail
  let networkId ← networkId "Network ID not set"
  let own ← .op (.getOwnInterfaces discoveryType daemonId networkId) orFail
  dockerClient
  let dockerSubnets ← .op (.getSubnetsFromDockerNetworks daemonId networkId discoveryType) orFail
  let hostCidrs := own.2.map Subnet.cidr
  collect createSubnet (own.2 ++ dockerSubnets.filter (fun s => !hostCidrs.contains s.cidr))

def createDockerDaemonService (hostId : Uuid) (hostInterfaces : List Interface) : Runner (List Uuid) := do
  let _ ← .op .getId orFail
  let networkId ← networkId "Network ID not set"
  .op (.createHost hostId networkId hostInterfaces) orFail

def first (services : List Uuid) : Runner Uuid :=
  services.head?.elim (.fail "Docker daemon service was not created, aborting") .ret

def getContainersAndSummaries : Runner (List String) := do
  dockerClient
  let containerSummaries ← getContainersToScan
  collect (fun id => .op (.inspectContainer id) orFail) (containerSummaries.filterMap id)

/-- The containers in the order in which they come to their ends. What one comes to is only logged. -/
def scanAndProcessContainers (discoveryType : DiscoveryType) (containers : List String) : Runner Unit := do
  reportScanningProgress discoveryType 0
  let _ ← .op .getConcurrentScans orFail
  reportDiscoveryUpdate discoveryType (.scanning 0)
  forEach (fun (container, done) => do
      .op (.processSingleContainer container) .ret
      let _ ← (reportScanningProgress discoveryType (UInt8.ofNat (done * 100 / max containers.length 1))).attempt
      let cancelled ← .op .isCancelled .ret
      if cancelled then .fail "Docker discovery session was cancelled" else .ret ())
    (containers.zipIdx 1)

def withSubnet (subnets : List Subnet) (i : Interface) : Option Interface :=
  (subnets.find? (fun s => s.cidr.contains i.base.ipAddress)).map
    (fun s => { i with base := { i.base with subnetId := s.id } })

def discoverDocker (hostId : Uuid) (discoveryType : DiscoveryType) (request : DaemonDiscoveryRequest) : Runner Unit := do
  let daemonId ← .op .getId orFail
  let networkId ← networkId "Network ID not set"
  .op .newLocalDockerClient orFail
  .op .setDockerClient (fun fresh => if fresh then .ret () else .fail "Failed to set docker client")
  let _ ← getContainersToScan
  startDiscovery dockerGatewayIps discoveryType request
  let subnets ← dockerSubnets discoveryType
  let own ← .op (.getOwnInterfaces discoveryType daemonId networkId) orFail
  let hostInterfaces := own.1.map (fun i => (withSubnet subnets i).getD i)
  let services ← createDockerDaemonService hostId hostInterfaces
  let _ ← first services
  let containers ← getContainersAndSummaries
  let scanned ← (scanAndProcessContainers discoveryType containers).attempt
  finishDiscovery discoveryType (scanned.mapError (fun _ => ""))

end docker

section self_report

def parseOctet (s : String) : Option ℕ :=
  if s.all Char.isDigit ∧ (s.length = 1 ∨ s.front ≠ '0') then s.toNat?.filter (fun n => n < 256) else none

/-- `parse::<Ipv4Addr>()`. -/
def parseIpv4 (s : String) : Except String IpAddr :=
  match (s.splitOn ".").mapM parseOctet with
  | some [a, b, c, d] => .ok (.v4 (BitVec.ofNat 32 (((a * 256 + b) * 256 + c) * 256 + d)))
  | _ => .error "invalid IPv4 address syntax"

/-- The networks of Docker, and whether there is a Docker. -/
def dockerCidrs (daemonId networkId : Uuid) (discoveryType : DiscoveryType) : Runner (List IpCidr × Bool) :=
  .op .newLocalDockerClient (fun
    | .ok _ => do
      let dockerSubnets ← .op (.getSubnetsFromDockerNetworks daemonId networkId discoveryType) orFail
      return (dockerSubnets.map Subnet.cidr, true)
    | .error _ => .ret ([], false))

def updateCapabilities (hasDockerSocket : Bool) (interfacedSubnetIds : List Uuid) : Runner Unit := do
  let daemonId ← .op .getId orFail
  .op (.updateCapabilities daemonId hasDockerSocket interfacedSubnetIds) orFail

def discoverSelfReport (hostId : Uuid) (discoveryType : DiscoveryType) (request : DaemonDiscoveryRequest) : Runner Unit := do
  let daemonId ← .op .getId orFail
  let sessionNetworkId ← networkId "Network ID not set, aborting discovery session"
  let started ← .op .utcNow .ret
  .op (.setSession (.new ⟨request.sessionId, sessionNetworkId, daemonId, some started⟩ [])) .ret
  let networkId ← networkId "Network ID not set"
  let bindingAddress ← .op .getBindAddress orFail
  let _ ← orFail (parseIpv4 bindingAddress)
  let own ← .op (.getOwnInterfaces discoveryType daemonId networkId) orFail
  let docker ← dockerCidrs daemonId networkId discoveryType
  let createdSubnets ← collect createSubnet (own.2.filter (fun s => !s.isDockerBridge && !docker.1.contains s.cidr))
  updateCapabilities docker.2 (createdSubnets.map Subnet.id)
  let interfaces := own.1.filterMap (withSubnet createdSubnets)
  let _ ← .op .getPort orFail
  let _ ← .op .getOwnIpAddress orFail
  let _ ← .op (.createHost hostId networkId interfaces) orFail
  let now ← .op .utcNow .ret
  reportDiscoveryUpdate discoveryType ⟨.complete, 100, none, some now⟩

end self_report

def discover (request : DaemonDiscoveryRequest) : Runner Unit :=
  match request.discoveryType with
  | .selfReport hostId => discoverSelfReport hostId request.discoveryType request
  | .docker hostId _ => discoverDocker hostId request.discoveryType request
  | .network subnetIds _ => discoverNetwork subnetIds request.discoveryType request

/-- The task of `initiate_session`: what `discover` returns is only logged. -/
def runSession (request : DaemonDiscoveryRequest) : Runner Unit := do
  let _ ← (discover request).attempt

end VantageNet.Scanning
