import VantageNet.Scanning.Paths
import VantageNet.Subnets.Types

/-!
What services are recognised by: `services/impl/patterns.rs` and `services/impl/endpoints.rs`. Lower case, the vendors of MAC
addresses and how addresses are written are libraries'.
-/

namespace VantageNet.Services

open Inventory
open Scanning (Endpoint IpCidr sortedPorts)
open Subnets (SubnetType)

/-- Two are compared by their `config` alone. -/
structure PortType where
  config : PortConfig
  isCustom : Bool

structure StatusRange where
  start : UInt16
  stop : UInt16

def StatusRange.contains (range : StatusRange) (status : UInt16) : Bool := range.start ≤ status && status < range.stop

def StatusRange.toString (range : StatusRange) : String := s!"{range.start}..{range.stop}"

inductive MatchReason where
  | reason (text : String)
  | container (name : String) (reasons : List MatchReason)

def MatchReason.toString : MatchReason → String
  | .reason _ => "Reason"
  | .container _ _ => "Container"

structure MatchDetails where
  reason : MatchReason
  confidence : MatchConfidence

structure MatchResult where
  ports : List PortConfig
  endpoint : Option Endpoint
  macVendor : Option String
  details : MatchDetails

structure EndpointResponse where
  endpoint : Endpoint
  body : String
  headers : List (String × String)
  status : UInt16
  deriving DecidableEq

structure ServiceMatchBaselineParams where
  subnet : Subnets.Subnet
  interface : Interface
  allPorts : List PortConfig
  endpointResponses : List EndpointResponse
  virtualization : Option DockerVirtualization

structure ServiceMatchServiceParams where
  serviceDefinition : ServiceDefinition
  matchedServices : List Inventory.Service
  unboundPorts : List PortConfig

structure DiscoverySession where
  hostId : Uuid
  networkId : Uuid
  daemonId : Uuid
  discoveryType : DiscoveryType
  gatewayIps : List IpAddr

structure DiscoverySessionServiceMatchParams where
  session : DiscoverySession
  baselineParams : ServiceMatchBaselineParams
  serviceParams : ServiceMatchServiceParams

inductive Pattern where
  | anyOf (patterns : List Pattern)
  | allOf (patterns : List Pattern)
  | not (pattern : Pattern)
  | port (portBase : PortType)
  | endpoint (portBase : PortType) (path matchString : String) (range : Option StatusRange)
  | header (portBase : Option PortType) (header value : String) (range : Option StatusRange)
  | subnetIsType (subnetType : SubnetType)
  | isGateway
  | macVendor (vendor : String)
  | custom (constraintFunction : DiscoverySessionServiceMatchParams → Bool)
      (portFunction : DiscoverySessionServiceMatchParams → List PortConfig) (reason noMatchReason : String)
      (confidence : MatchConfidence)
  | dockerContainer
  | none

mutual

def Pattern.ports : Pattern → List PortConfig
  | .port portBase => [portBase.config]
  | .anyOf patterns | .allOf patterns => portsOf patterns
  | _ => []

def portsOf : List Pattern → List PortConfig
  | [] => []
  | p :: rest => p.ports ++ portsOf rest

end

def http : PortConfig := Scanning.newTcp 80

mutual

def Pattern.endpoints : Pattern → List Endpoint
  | .endpoint portBase path _ Option.none => [.forPattern portBase.config path]
  | .header (some portBase) _ _ _ => [.forPattern portBase.config "/"]
  | .header Option.none _ _ _ => [.forPattern http "/"]
  | .anyOf patterns | .allOf patterns => endpointsOf patterns
  | _ => []

def endpointsOf : List Pattern → List Endpoint
  | [] => []
  | p :: rest => p.endpoints ++ endpointsOf rest

end

structure RegisteredDefinition where
  definition : ServiceDefinition
  discoveryPattern : Pattern

structure ServiceDefinitionRegistry where
  allServiceDefinitions : List RegisteredDefinition
  hasLogo : ServiceDefinition → Bool

/-- What `all_discovery_ports` and `all_discovery_endpoints` collect. -/
def ServiceDefinitionRegistry.definitions (registry : ServiceDefinitionRegistry) : Scanning.ServiceDefinitions :=
  ⟨registry.allServiceDefinitions.flatMap (fun s => s.discoveryPattern.ports),
    registry.allServiceDefinitions.flatMap (fun s => s.discoveryPattern.endpoints)⟩

/-- `ouiDb` is none where the table of vendors cannot be loaded. -/
structure Library where
  toLowercase : String → String
  normalize : String → String
  ouiDb : Option (MacAddress → Option String)
  showMac : MacAddress → String
  showIp : IpAddr → String
  showCidr : IpCidr → String
  showUuid : Uuid → String
  writeReason : MatchReason → String

section matching

def showProtocol : TransportProtocol → String
  | .udp => "udp"
  | .tcp => "tcp"

def showPort (p : PortConfig) : String := s!"{p.number}/{showProtocol p.protocol}"

def SubnetType.name : SubnetType → String
  | .internet => "Internet"
  | .remote => "Remote"
  | .gateway => "Gateway"
  | .vpnTunnel => "VPN"
  | .dmz => "DMZ"
  | .lan => "LAN"
  | .ioT => "IoT"
  | .guest => "Guest"
  | .wiFi => "WiFi"
  | .management => "Management"
  | .dockerBridge => "Docker Bridge"
  | .storage => "Storage"
  | .unknown => "Unknown"
  | .none => "No Subnet"

def successful : StatusRange := ⟨200, 400⟩

def withoutPorts (reason : String) (confidence : MatchConfidence) : MatchResult :=
  ⟨[], none, none, ⟨.reason reason, confidence⟩⟩

def fromResponse (response : EndpointResponse) (reason : String) : MatchResult :=
  ⟨[response.endpoint.portType], some response.endpoint, none, ⟨.reason reason, .high⟩⟩

variable (library : Library) (registry : ServiceDefinitionRegistry) (params : DiscoverySessionServiceMatchParams)

/-- `text.to_lowercase().contains(&part.to_lowercase())`. -/
def containsIgnoringCase (text part : String) : Bool :=
  decide ((library.toLowercase part).toList <:+: (library.toLowercase text).toList)

def matchesPort (portBase : PortType) : Except String MatchResult :=
  match params.serviceParams.unboundPorts.find? (fun p => p = portBase.config) with
  | none => .error s!"Port {showPort portBase.config} is not open"
  | some matchedPort =>
    let allOtherServicesPorts := sortedPorts ((registry.allServiceDefinitions.filter (fun s =>
      s.definition.id ≠ params.serviceParams.serviceDefinition.id)).flatMap (fun s => s.discoveryPattern.ports))
    let details : MatchDetails :=
      if portBase.isCustom && portBase.config ∉ allOtherServicesPorts then
        ⟨.reason s!"Port {showPort portBase.config} is open and is not used in other service match patterns", .medium⟩
      else ⟨.reason s!"Port {showPort portBase.config} is open", .low⟩
    .ok ⟨[matchedPort], none, none, details⟩

def answersHeader (portBase : Option PortType) (expectedHeader expectedValue : String) (range : Option StatusRange)
    (actual : EndpointResponse) : Bool :=
  portBase.all (fun p => actual.endpoint.portType = p.config) && (range.getD successful).contains actual.status &&
    actual.headers.any (fun entry => library.toLowercase entry.1 = library.toLowercase expectedHeader &&
      containsIgnoringCase library entry.2 expectedValue)

def matchesHeader (portBase : Option PortType) (expectedHeader expectedValue : String) (range : Option StatusRange) :
    Except String MatchResult :=
  match params.baselineParams.endpointResponses.find? (answersHeader library portBase expectedHeader expectedValue range) with
  | none => .error s!"Could not find an header response on port {((portBase.map PortType.config).getD http).number}"
  | some response =>
    let matchReason := s!"header {expectedHeader} contained \"{expectedValue}\"" ++
      (range.map (fun r => s!" and status code {response.status} was in range {r.toString}")).getD ""
    .ok (fromResponse response (match portBase with
      | some p => s!"Response from {p.config.number} {matchReason}"
      | none => s!"Response {matchReason}"))

def answersEndpoint (portBase : PortType) (path matchString : String) (range : Option StatusRange) (actual : EndpointResponse) :
    Bool :=
  let endpoint : Endpoint := .forPattern portBase.config path
  actual.endpoint.protocol = endpoint.protocol && actual.endpoint.portType.number = endpoint.portType.number &&
    actual.endpoint.portType.protocol = endpoint.portType.protocol && actual.endpoint.path = endpoint.path &&
    (range.getD successful).contains actual.status && containsIgnoringCase library actual.body matchString

def matchesEndpoint (portBase : PortType) (path matchString : String) (range : Option StatusRange) : Except String MatchResult :=
  match params.baselineParams.endpointResponses.find? (answersEndpoint library portBase path matchString range) with
  | none => .error s!"Could not find an endpoint response containing {matchString}"
  | some response =>
    let matchReason := s!"contained \"{matchString}\" in body" ++
      (range.map (fun r => s!" and status code was {response.status} was in range {r.toString}")).getD ""
    let ip := library.showIp params.baselineParams.interface.base.ipAddress
    .ok (fromResponse response s!"Response for {ip}:{portBase.config.number}{path} {matchReason}")

def matchesMacVendor (vendor : String) : Except String MatchResult :=
  match params.baselineParams.interface.base.macAddress with
  | none => .error s!"Interface {library.showIp params.baselineParams.interface.base.ipAddress} does not have a mac address"
  | some mac =>
    match library.ouiDb with
    | none => .error "Could not load Oui database"
    | some lookupByMac =>
      match lookupByMac mac with
      | none => .error s!"Could find vendor for mac address {library.showMac mac} in Oui database"
      | some companyName =>
        if library.normalize vendor = library.normalize companyName then
          .ok ⟨[], none, some companyName, ⟨.reason s!"Mac address is from vendor {companyName}", .medium⟩⟩
        else .error s!"Mac address is not from vendor {library.normalize vendor}"

def isLast1Or254 : IpAddr → Bool
  | .v4 bits => bits.toNat % 256 = 1 || bits.toNat % 256 = 254
  | .v6 bits => bits.toNat % 65536 = 1 || bits.toNat % 65536 = 254

def matchesGateway : Except String MatchResult :=
  let subnet := params.baselineParams.subnet
  let ip := params.baselineParams.interface.base.ipAddress
  let gatewayIpsInSubnet := params.session.gatewayIps.filter subnet.base.cidr.contains
  if ip ∈ gatewayIpsInSubnet then
    .ok (withoutPorts s!"Host IP address is in routing table of daemon {library.showUuid params.session.daemonId}" .high)
  else if isLast1Or254 ip && gatewayIpsInSubnet.isEmpty then
    .ok (withoutPorts s!"No other gateways in subnet {library.showCidr subnet.base.cidr} and IP address ends in 1 or 254" .high)
  else
    .error "IP address is not in routing table, and does not end in 1 or 254 with no other gateways identified in subnet"

def matchesSubnetType (subnetType : SubnetType) : Except String MatchResult :=
  let subnet := params.baselineParams.subnet
  if subnet.base.subnetType = subnetType then
    .ok (withoutPorts s!"Subnet {library.showCidr subnet.base.cidr} is type {SubnetType.name subnetType}" .low)
  else .error s!"Subnet {library.showCidr subnet.base.cidr} is not type {SubnetType.name subnetType}"

def matchesDockerContainer : Except String MatchResult :=
  if params.baselineParams.virtualization.isSome then .ok (withoutPorts "Service is running in docker container" .low)
  else .error "Service is not running in a docker container"

def matchesNot : Except String MatchResult → Except String MatchResult
  | .ok result => .error result.details.reason.toString
  | .error e => .ok (withoutPorts e .low)

/-- The matches among the results of a list of patterns. -/
def matched (results : List (Except String MatchResult)) : List MatchResult := results.filterMap Except.toOption

def noMatchErrors (results : List (Except String MatchResult)) : String :=
  results.foldl (fun text result => match result with
    | .ok _ => text
    | .error e => text ++ ", " ++ e) ""

/-- The ports of all matches, each once. -/
def collected (name : String) (results : List MatchResult) (confidence : MatchConfidence) : MatchResult :=
  ⟨sortedPorts (results.flatMap MatchResult.ports), none, none,
    ⟨.container name (results.map (fun result => result.details.reason)), confidence⟩⟩

def matchesAnyOf (results : List (Except String MatchResult)) : Except String MatchResult :=
  if (matched results).isEmpty then .error (noMatchErrors results)
  else .ok (collected "Any of" (matched results) ((matched results).foldl (fun confidence result =>
    if confidence.rank < result.details.confidence.rank then result.details.confidence else confidence) .low))

def boosted : MatchConfidence → MatchConfidence
  | .low => .medium
  | .medium => .high
  | confidence => confidence

def matchesAllOf (results : List (Except String MatchResult)) : Except String MatchResult :=
  if results.all (fun result => result.toOption.isSome) then
    let matchedConfidences := ((matched results).map (fun result => result.details.confidence)).mergeSort (fun a b => a.rank ≤ b.rank)
    let maxConfidence := matchedConfidences.getLast?.getD .low
    .ok (collected "All of" (matched results)
      (if matchedConfidences.length > 3 then boosted maxConfidence else maxConfidence))
  else .error (noMatchErrors results)

mutual

def Pattern.matches : Pattern → Except String MatchResult
  | .anyOf patterns => matchesAnyOf (matchesOf patterns)
  | .allOf patterns => matchesAllOf (matchesOf patterns)
  | .not pattern => matchesNot pattern.matches
  | .port portBase => matchesPort registry params portBase
  | .endpoint portBase path matchString range => matchesEndpoint library params portBase path matchString range
  | .header portBase header value range => matchesHeader library params portBase header value range
  | .subnetIsType subnetType => matchesSubnetType library params subnetType
  | .isGateway => matchesGateway library params
  | .macVendor vendor => matchesMacVendor library params vendor
  | .custom constraintFunction portFunction reason noMatchReason confidence =>
    if constraintFunction params then .ok ⟨portFunction params, Option.none, Option.none, ⟨.reason reason, confidence⟩⟩
    else .error noMatchReason
  | .dockerContainer => matchesDockerContainer params
  | .none => .error "No match pattern provided"

def matchesOf : List Pattern → List (Except String MatchResult)
  | [] => []
  | p :: rest => p.matches :: matchesOf rest

end

end matching

end VantageNet.Services
