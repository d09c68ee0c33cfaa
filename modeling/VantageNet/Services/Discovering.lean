import VantageNet.Interaction.Program
import VantageNet.Services.Patterns

/-!
The services of one host: `from_discovery` of `services/impl/base.rs` and `discover_services` of
`daemon/discovery/service/base.rs`.
-/

namespace VantageNet.Services

open Interaction Inventory
open Scanning (sortedPorts)

section discovering

/-- `fresh` gives the ids that are drawn, one after the other. -/
structure Drawing where
  fresh : ℕ → Uuid
  now : Instant

variable (library : Library) (registry : ServiceDefinitionRegistry) (drawing : Drawing) (session : DiscoverySession)

def newHostless (id : Uuid) (portType : PortConfig) : Port :=
  ⟨id, drawing.now, drawing.now, ⟨Uuid.nil, Uuid.nil, portType⟩⟩

def newServiceless (id : Uuid) (bindingType : BindingType) : Binding :=
  ⟨id, drawing.now, drawing.now, ⟨Uuid.nil, Uuid.nil, bindingType⟩⟩

/-- The ports of a match, with the ids drawn from `drawn` on. -/
def discoveredPorts (drawn : ℕ) (ports : List PortConfig) : List Port :=
  ports.mapIdx (fun i p => newHostless drawing (drawing.fresh (drawn + i)) p)

def discoveredBindings (drawn : ℕ) (interfaceId : Uuid) (ports : List Port) : List Binding :=
  if ports.isEmpty then [newServiceless drawing (drawing.fresh drawn) (.interface interfaceId)]
  else ports.mapIdx (fun i port => newServiceless drawing (drawing.fresh (drawn + i)) (.port port.id (some interfaceId)))

def discoveredDetails (definition : ServiceDefinition) (details : MatchDetails) : MatchDetails :=
  if definition.isGeneric then ⟨.container "Generic service" [details.reason], .notApplicable⟩ else details

def discoveredName (definition : ServiceDefinition) (virtualization : Option DockerVirtualization) : String :=
  if definition.isGeneric then (virtualization.bind DockerVirtualization.containerName).getD definition.id else definition.id

/-- The service, its ports, the endpoint that matched, and how many ids have been drawn then. -/
def fromDiscovery (drawn : ℕ) (definition : RegisteredDefinition) (params : DiscoverySessionServiceMatchParams) :
    Option (Inventory.Service × List Port × Option Scanning.Endpoint × ℕ) :=
  match Pattern.matches library registry params definition.discoveryPattern with
  | .error _ => none
  | .ok result =>
    let { interface, virtualization, .. } := params.baselineParams
    let details := discoveredDetails definition.definition result.details
    let ports := discoveredPorts drawing drawn result.ports
    let bindings := discoveredBindings drawing (drawn + ports.length) interface.id ports
    let drawn := drawn + ports.length + bindings.length
    some (⟨drawing.fresh drawn, drawing.now, drawing.now,
      { hostId := params.session.hostId
        networkId := params.session.networkId
        serviceDefinition := definition.definition
        name := discoveredName definition.definition virtualization
        bindings
        virtualization
        source := .discoveryWithMatch [⟨params.session.discoveryType, params.session.daemonId, drawing.now⟩]
          ⟨library.writeReason details.reason, details.confidence⟩
        tags := []
        position := 0 }⟩, ports, result.endpoint, drawn + 1)

structure Discovering where
  services : List Inventory.Service
  hostPorts : List Port
  unboundPorts : List PortConfig
  containerMatched : Bool
  drawn : ℕ
  deriving DecidableEq

variable (baselineParams : ServiceMatchBaselineParams)

def Discovering.params (state : Discovering) (definition : RegisteredDefinition) : DiscoverySessionServiceMatchParams :=
  ⟨session, baselineParams, ⟨definition.definition, state.services, state.unboundPorts⟩⟩

/-- The turn of one definition. -/
def Discovering.turn (state : Discovering) (definition : RegisteredDefinition) : Discovering :=
  match fromDiscovery library registry drawing state.drawn definition (state.params session baselineParams definition) with
  | none => state
  | some (service, ports, _, drawn) =>
    if state.containerMatched then { state with drawn }
    else
      { services := state.services ++ [service]
        hostPorts := state.hostPorts ++ ports
        unboundPorts := state.unboundPorts.filter (fun p => p ∉ ports.map (fun port => port.base.portType))
        containerMatched := (service.base.virtualization.bind DockerVirtualization.containerId).isSome
        drawn }

def matchPriority (definition : ServiceDefinition) : ℕ :=
  if !definition.isGeneric then 0
  else if definition.id = openPorts.id then 3
  else if definition.id = "Docker Container" ∨ definition.id = "Gateway" then 2
  else 1

def sortedServiceDefinitions : List RegisteredDefinition :=
  registry.allServiceDefinitions.mergeSort (fun a b => matchPriority a.definition ≤ matchPriority b.definition)

def serviceRank (service : Inventory.Service) : ℕ :=
  match service.base.source with
  | .discoveryWithMatch _ details => details.confidence.rank + if registry.hasLogo service.base.serviceDefinition then 1 else 0
  | _ => MatchConfidence.notApplicable.rank

def Discovering.start : Discovering := ⟨[], [], baselineParams.allPorts, false, 0⟩

/-- What is known when every definition has had its turn. -/
def Discovering.last : Discovering :=
  (sortedServiceDefinitions registry).foldl (Discovering.turn library registry drawing session baselineParams)
    (.start baselineParams)

def discoverServices : List Inventory.Service × List Port :=
  let last := Discovering.last library registry drawing session baselineParams
  (last.services.mergeSort (fun a b => serviceRank registry b ≤ serviceRank registry a),
    last.hostPorts ++ discoveredPorts drawing last.drawn last.unboundPorts)

end discovering

end VantageNet.Services
