import VantageNet.Scanning.Gathering
import VantageNet.Services.Patterns

/-!
What is looked for on a host is taken from the leaves of the registered patterns that stand outside every `Not`.
-/

namespace VantageNet.Services

open Interaction Inventory
open Scanning (Endpoint HostBehaviour gather)

mutual

def Pattern.leaves : Pattern → List Pattern
  | .anyOf patterns | .allOf patterns => leavesOf patterns
  | .not pattern => pattern.leaves
  | leaf => [leaf]

def leavesOf : List Pattern → List Pattern
  | [] => []
  | p :: rest => p.leaves ++ leavesOf rest

end

mutual

/-- The leaves outside every `Not`. -/
def Pattern.plainLeaves : Pattern → List Pattern
  | .anyOf patterns | .allOf patterns => plainLeavesOf patterns
  | .not _ => []
  | leaf => [leaf]

def plainLeavesOf : List Pattern → List Pattern
  | [] => []
  | p :: rest => p.plainLeaves ++ plainLeavesOf rest

end

/-- The port and path that a leaf has a request sent to. -/
def Pattern.request : Pattern → Option (PortConfig × String)
  | .endpoint portBase path _ Option.none => some (portBase.config, path)
  | .header (some portBase) _ _ _ => some (portBase.config, "/")
  | .header Option.none _ _ _ => some (http, "/")
  | _ => Option.none

def Pattern.namedPort : Pattern → Option PortConfig
  | .port portBase => some portBase.config
  | _ => Option.none

mutual

theorem ports_eq_plainLeaves : (p : Pattern) → p.ports = p.plainLeaves.filterMap Pattern.namedPort
  | .anyOf patterns | .allOf patterns => portsOf_eq_plainLeaves patterns
  | .not _ | .port _ | .endpoint .. | .header .. | .subnetIsType _ | .isGateway | .macVendor _ | .custom .. | .dockerContainer
  | .none => rfl

theorem portsOf_eq_plainLeaves : (patterns : List Pattern) →
    portsOf patterns = (plainLeavesOf patterns).filterMap Pattern.namedPort
  | [] => rfl
  | p :: rest => by
    rw [portsOf, plainLeavesOf, List.filterMap_append, ports_eq_plainLeaves p, portsOf_eq_plainLeaves rest]

end

mutual

theorem endpoints_eq_plainLeaves : (p : Pattern) →
    p.endpoints = (p.plainLeaves.filterMap Pattern.request).map (fun request => .forPattern request.1 request.2)
  | .anyOf patterns | .allOf patterns => endpointsOf_eq_plainLeaves patterns
  | .not _ => rfl
  | .endpoint _ _ _ Option.none | .endpoint _ _ _ (some _) | .header Option.none .. | .header (some _) .. => rfl
  | .port _ | .subnetIsType _ | .isGateway | .macVendor _ | .custom .. | .dockerContainer | .none => rfl

theorem endpointsOf_eq_plainLeaves : (patterns : List Pattern) → endpointsOf patterns =
    ((plainLeavesOf patterns).filterMap Pattern.request).map (fun request => .forPattern request.1 request.2)
  | [] => rfl
  | p :: rest => by
    rw [endpointsOf, plainLeavesOf, List.filterMap_append, List.map_append, endpoints_eq_plainLeaves p,
      endpointsOf_eq_plainLeaves rest]

end

namespace ServiceDefinitionRegistry

variable (registry : ServiceDefinitionRegistry)

def plainLeaves : List Pattern := registry.allServiceDefinitions.flatMap (fun s => s.discoveryPattern.plainLeaves)

/-- The port is that of a `Port` leaf outside every `Not`. -/
def Names (p : PortConfig) : Prop := ∃ portBase, .port portBase ∈ registry.plainLeaves ∧ portBase.config = p

/-- The port of the first leaf that has a request sent to the port number and path. -/
def requested (number : UInt16) (path : String) : Option PortConfig :=
  ((registry.plainLeaves.filterMap Pattern.request).find? (fun request => request.1.number = number ∧ request.2 = path)).map Prod.fst

variable {registry}

theorem mem_definitions_ports (p : PortConfig) : p ∈ registry.definitions.ports ↔ registry.Names p := by
  have hports : registry.definitions.ports = registry.plainLeaves.filterMap Pattern.namedPort := by
    rw [definitions, plainLeaves, List.filterMap_flatMap]
    exact congrArg (fun f => registry.allServiceDefinitions.flatMap f)
      (funext (fun s => ports_eq_plainLeaves s.discoveryPattern))
  rw [hports, List.mem_filterMap]
  constructor
  · rintro ⟨leaf, hleaf, hsome⟩
    unfold Pattern.namedPort at hsome
    split at hsome
    · exact ⟨_, hleaf, Option.some.inj hsome⟩
    · exact absurd hsome nofun
  · rintro ⟨portBase, hleaf, rfl⟩
    exact ⟨_, hleaf, rfl⟩

theorem definitions_endpoints : registry.definitions.endpoints =
    (registry.plainLeaves.filterMap Pattern.request).map (fun request => .forPattern request.1 request.2) := by
  rw [definitions, plainLeaves, List.filterMap_flatMap, List.map_flatMap]
  exact congrArg (fun f => registry.allServiceDefinitions.flatMap f)
    (funext (fun s => endpoints_eq_plainLeaves s.discoveryPattern))

theorem http_definitions (e : Endpoint) (he : e ∈ registry.definitions.endpoints) : e.protocol = .http := by
  rw [definitions_endpoints] at he
  obtain ⟨request, -, rfl⟩ := List.mem_map.mp he
  rfl

theorem requested_eq_some_iff (p : PortConfig) (path : String) :
    registry.requested p.number path = some p ↔ registry.definitions.endpointFor p.number path = some
      (.forPattern p path) := by
  rw [requested, Scanning.ServiceDefinitions.endpointFor, definitions_endpoints, List.find?_map, Option.map_eq_some_iff,
    Option.map_eq_some_iff]
  have hkey : ((fun e : Endpoint => decide (e.key = (p.number, path))) ∘
      fun request : PortConfig × String => Endpoint.forPattern request.1 request.2) =
      fun request => decide (request.1.number = p.number ∧ request.2 = path) := by
    funext request
    refine decide_eq_decide.mpr ?_
    rw [Endpoint.key, Prod.mk.injEq]
    rfl
  rw [hkey]
  constructor
  · rintro ⟨request, hfind, rfl⟩
    have hsome := List.find?_some hfind
    rw [decide_eq_true_iff] at hsome
    exact ⟨request, hfind, by rw [hsome.2]⟩
  · rintro ⟨request, hfind, heq⟩
    exact ⟨request, hfind, congrArg Endpoint.portType heq⟩

end ServiceDefinitionRegistry

section gathering

variable (library : Library) (registry : ServiceDefinitionRegistry) (params : DiscoverySessionServiceMatchParams)

/-- A page as a host serves it. -/
structure Answer where
  body : String
  headers : List (String × String)
  status : UInt16
  deriving DecidableEq

def responseOf (entry : Endpoint × Answer) : EndpointResponse := ⟨entry.1, entry.2.body, entry.2.headers, entry.2.status⟩

def DiscoverySessionServiceMatchParams.observing (ports : List PortConfig) (responses : List EndpointResponse) :
    DiscoverySessionServiceMatchParams :=
  { params with
    baselineParams := { params.baselineParams with allPorts := ports, endpointResponses := responses }
    serviceParams := { params.serviceParams with unboundPorts := ports } }

/-- What a leaf finds, and how sure it is. -/
def verdict (leaf : Pattern) (ports : List PortConfig) (responses : List EndpointResponse) :
    Option (List PortConfig × MatchConfidence) :=
  (Pattern.matches library registry (params.observing ports responses) leaf).toOption.map
    (fun result => (result.ports, result.details.confidence))

theorem verdict_port (portBase : PortType) : ∃ confidence, ∀ ports responses,
    verdict library registry params (.port portBase) ports responses =
      if portBase.config ∈ ports then some ([portBase.config], confidence) else none := by
  refine ⟨if portBase.isCustom && portBase.config ∉ Scanning.sortedPorts ((registry.allServiceDefinitions.filter (fun s =>
    s.definition.id ≠ params.serviceParams.serviceDefinition.id)).flatMap (fun s => s.discoveryPattern.ports))
    then .medium else .low, fun ports responses => ?_⟩
  rw [verdict, Pattern.matches, matchesPort]
  dsimp only
  split
  · rename_i hnone
    change ports.find? _ = none at hnone
    have hnot : portBase.config ∉ ports := fun hmem => List.find?_eq_none.mp hnone _ hmem (decide_eq_true rfl)
    rw [if_neg hnot]
    rfl
  · rename_i q hsome
    change ports.find? _ = some q at hsome
    obtain rfl : q = portBase.config := of_decide_eq_true (List.find?_some hsome :)
    rw [if_pos (List.mem_of_find?_eq_some hsome)]
    exact congrArg some (Prod.ext rfl (apply_ite MatchDetails.confidence _ _ _))

variable {library} in
theorem answersEndpoint_iff {portBase : PortType} {path matchString : String} {range : Option StatusRange}
    {response : EndpointResponse} : answersEndpoint library portBase path matchString range response ↔
      response.endpoint = .forPattern portBase.config path ∧ (range.getD successful).contains response.status ∧
        containsIgnoringCase library response.body matchString := by
  obtain ⟨⟨protocol, ⟨number, transport⟩, path'⟩, body, headers, status⟩ := response
  simp only [answersEndpoint, Endpoint.forPattern, Bool.and_eq_true, Endpoint.mk.injEq]
  constructor
  · rintro ⟨⟨⟨⟨⟨hprotocol, hnumber⟩, htransport⟩, hpath⟩, hstatus⟩, hbody⟩
    obtain rfl := of_decide_eq_true hnumber
    obtain rfl := of_decide_eq_true htransport
    exact ⟨⟨of_decide_eq_true hprotocol, rfl, of_decide_eq_true hpath⟩, hstatus, hbody⟩
  · rintro ⟨⟨rfl, hport, rfl⟩, hstatus, hbody⟩
    rw [← hport]
    exact ⟨⟨⟨⟨⟨decide_eq_true rfl, decide_eq_true rfl⟩, decide_eq_true rfl⟩, decide_eq_true rfl⟩, hstatus⟩, hbody⟩

variable {library} in
theorem answersHeader_iff {portBase : PortType} {header value : String} {range : Option StatusRange}
    {response : EndpointResponse} : answersHeader library (some portBase) header value range response ↔
      response.endpoint.portType = portBase.config ∧ answersHeader library none header value range response := by
  simp only [answersHeader, Option.all_some, Option.all_none, Bool.and_eq_true, decide_eq_true_eq,
    Bool.true_and, and_assoc]

theorem verdict_endpoint (portBase : PortType) (path matchString : String) (range : Option StatusRange)
    (ports : List PortConfig)
    (responses : List EndpointResponse) :
    verdict library registry params (.endpoint portBase path matchString range) ports responses =
      if ∃ response ∈ responses, answersEndpoint library portBase path matchString range response
      then some ([portBase.config], .high) else none := by
  rw [verdict, Pattern.matches, matchesEndpoint]
  dsimp only
  split
  · rename_i hnone
    change responses.find? _ = none at hnone
    rw [if_neg (by rintro ⟨response, hmem, h⟩; exact List.find?_eq_none.mp hnone response hmem h)]
    rfl
  · rename_i response hsome
    change responses.find? _ = some response at hsome
    have hanswers := List.find?_some hsome
    rw [if_pos ⟨response, List.mem_of_find?_eq_some hsome, hanswers⟩]
    have hport : response.endpoint.portType = portBase.config := by
      rw [(answersEndpoint_iff.mp hanswers).1]
      rfl
    exact congrArg (fun p => some ([p], MatchConfidence.high)) hport

theorem verdict_header (portBase : PortType) (header value : String) (range : Option StatusRange)
    (ports : List PortConfig)
    (responses : List EndpointResponse) :
    verdict library registry params (.header (some portBase) header value range) ports responses =
      if ∃ response ∈ responses, answersHeader library (some portBase) header value range response
      then some ([portBase.config], .high) else none := by
  rw [verdict, Pattern.matches, matchesHeader]
  dsimp only
  split
  · rename_i hnone
    change responses.find? _ = none at hnone
    rw [if_neg (by rintro ⟨response, hmem, h⟩; exact List.find?_eq_none.mp hnone response hmem h)]
    rfl
  · rename_i response hsome
    change responses.find? _ = some response at hsome
    have hanswers := List.find?_some hsome
    rw [if_pos ⟨response, List.mem_of_find?_eq_some hsome, hanswers⟩]
    exact congrArg (fun p => some ([p], MatchConfidence.high)) (answersHeader_iff.mp hanswers).1

end gathering

end VantageNet.Services
