import VantageNet.Containers.Ports
import VantageNet.Services.Accounting

/-!
What becomes of the host of a container on a bridge between `process_host` and `create_host`: `process_bridge_mode_container`
of `daemon/discovery/service/docker.rs`.
-/

namespace VantageNet.Containers

open Interaction Inventory Services

abbrev InterfacesAndSubnets := List (Interface × Subnets.Subnet)

/-- The children of the host, and how many ids have been drawn. -/
structure Payload where
  interfaces : List Interface
  ports : List Port
  services : List Inventory.Service
  drawn : ℕ

/-- What the passes over a service change. -/
structure Bound where
  bindings : List Binding
  ports : List Port
  drawn : ℕ

def allInterfacesIp : IpAddr := .v4 0

/-- `interfaces.contains` compares by `Interface::eq`. -/
def mergeInterfaces (interface : Interface) (containerInterfacesAndSubnets : InterfacesAndSubnets) : List Interface :=
  containerInterfacesAndSubnets.foldl (fun interfaces e =>
    if interfaces.any (fun i => i.eq e.1) then interfaces else interfaces ++ [e.1]) [interface]

def dockerBridgeSubnetIds (containerInterfacesAndSubnets : InterfacesAndSubnets) : List Uuid :=
  (containerInterfacesAndSubnets.filter (fun e => e.2.base.subnetType.isDockerBridge)).map (fun e => e.2.id)

section passes

variable (drawing : Drawing)

/-- The pass over the container ports that were not matched. -/
def bindContainerPort (interface : Interface) (t : Bound) (containerPort : PortConfig) : Bound :=
  match t.ports.find? (fun p => p.base.portType = containerPort) with
  | some unmatched =>
    if unmatched.id ∈ t.bindings.filterMap (fun b => b.base.bindingType.portId) then t
    else { t with
      bindings := t.bindings ++ [newServiceless drawing (drawing.fresh t.drawn) (.port unmatched.id (some interface.id))]
      drawn := t.drawn + 1 }
  | none => t

def existingNonDockerBindings (interfaces : List Interface) (bridges : List Uuid) (bindings : List Binding) (portId : Uuid) :
    List Uuid :=
  bindings.filterMap (fun b =>
    if b.base.bindingType.portId = some portId then
      match b.base.bindingType.interfaceId.bind (fun id => interfaces.find? (fun i => i.id = id)) with
      | some i => if i.base.subnetId ∈ bridges then none else some b.id
      | none => none
    else none)

/-- The port that is there, or a new one. -/
def portFor (t : Bound) (pb : PortConfig) : Port × ℕ :=
  match t.ports.find? (fun p => p.base.portType = pb) with
  | some existing => (existing, t.drawn)
  | none => (newHostless drawing (drawing.fresh t.drawn) pb, t.drawn + 1)

/-- The bindings of a port on all interfaces off the bridges. -/
def bindEverywhere (interfaces : List Interface) (containerInterfacesAndSubnets : InterfacesAndSubnets) (port : Port) (t : Bound) :
    Bound :=
  containerInterfacesAndSubnets.foldl (fun t e =>
    if e.2.base.subnetType.isDockerBridge then t
    else match interfaces.find? (fun i => i.eq e.1) with
      | some matched => { t with
          bindings := t.bindings ++ [newServiceless drawing (drawing.fresh t.drawn) (.port port.id (some matched.id))]
          drawn := t.drawn + 1 }
      | none => t) t

/-- The pass over the ports of a host IP. -/
def bindHostPort (interfaces : List Interface) (containerInterfacesAndSubnets : InterfacesAndSubnets) (t : Bound)
    (hostPort : IpAddr × PortConfig) : Bound :=
  let existing := match t.ports.find? (fun p => p.base.portType = hostPort.2) with
    | some existing => existingNonDockerBindings interfaces (dockerBridgeSubnetIds containerInterfacesAndSubnets) t.bindings existing.id
    | none => []
  let (port, drawn) := portFor drawing t hostPort.2
  match interfaces.find? (fun i => i.base.ipAddress = hostPort.1) with
  | some hostInterface =>
    { bindings := t.bindings ++ [newServiceless drawing (drawing.fresh drawn) (.port port.id (some hostInterface.id))]
      ports := t.ports ++ [port]
      drawn := drawn + 1 }
  | none =>
    if hostPort.1 = allInterfacesIp then
      let t' := bindEverywhere drawing interfaces containerInterfacesAndSubnets port
        { t with bindings := t.bindings.filter (fun b => b.id ∉ existing), drawn }
      { t' with ports := t'.ports ++ [port] }
    else { t with drawn }

/-- An interface binding is implicit in a port binding. -/
def dropSuperseded (bindings : List Binding) : List Binding :=
  let interfaceIdsWithPortBinding := bindings.filterMap (fun b =>
    match b.base.bindingType with
    | .port _ interfaceId => interfaceId
    | .interface _ => none)
  bindings.filter (fun b =>
    match b.base.bindingType with
    | .port _ _ => true
    | .interface interfaceId => interfaceId ∉ interfaceIdsWithPortBinding)

/-- The host IPs and their ports, in an order of the map's iteration. -/
def hostPairs (entries : List (IpAddr × List PortConfig)) : List (IpAddr × PortConfig) :=
  entries.flatMap (fun e => e.2.map (fun pb => (e.1, pb)))

/-- The turn of a service. -/
def bindService (interface : Interface) (containerInterfacesAndSubnets : InterfacesAndSubnets) (containerPorts : List PortConfig)
    (entries : List (IpAddr × List PortConfig)) (interfaces : List Interface) (t : Bound) : Bound :=
  let t := containerPorts.foldl (bindContainerPort drawing interface) t
  let t := (hostPairs entries).foldl (bindHostPort drawing interfaces containerInterfacesAndSubnets) t
  { t with bindings := dropSuperseded t.bindings }

def bindServices (interface : Interface) (containerInterfacesAndSubnets : InterfacesAndSubnets) (containerPorts : List PortConfig)
    (entries : List (IpAddr × List PortConfig)) (payload : Payload) : Payload :=
  payload.services.foldl (fun payload s =>
    let t := bindService drawing interface containerInterfacesAndSubnets containerPorts entries payload.interfaces
      ⟨s.base.bindings, payload.ports, payload.drawn⟩
    { payload with
      ports := t.ports
      services := payload.services ++ [{ s with base := { s.base with bindings := t.bindings } }]
      drawn := t.drawn }) { payload with services := [] }

end passes

/-- A container on a bridge, and the interface of it whose turn it is. -/
structure BridgeContainer where
  ports : Option (List PortSummary)
  containerInterfacesAndSubnets : InterfacesAndSubnets
  interface : Interface
  subnet : Subnets.Subnet
  endpointResponses : List Services.EndpointResponse
  containerName : Option String
  containerId : String
  dockerServiceId : Uuid

namespace BridgeContainer

variable (library : Library) (registry : ServiceDefinitionRegistry) (drawing : Drawing) (session : DiscoverySession)
variable (parse : String → Option IpAddr) (container : BridgeContainer)

def portMaps : ContainerPorts := getPortsFromContainer parse container.ports container.containerInterfacesAndSubnets

def containerPortsOnInterface : List PortConfig :=
  (HashMap.get (container.portMaps parse).containerIpsToContainerPorts container.interface.base.ipAddress).getD []

def baselineParams : ServiceMatchBaselineParams where
  subnet := container.subnet
  interface := container.interface
  allPorts := container.containerPortsOnInterface parse
  endpointResponses := container.endpointResponses
  virtualization := some ⟨container.containerName, some container.containerId, container.dockerServiceId⟩

/-- The services and ports of `process_host`. -/
def found : List Inventory.Service × List Port := discoverServices library registry drawing session (container.baselineParams parse)

def interfaces : List Interface := mergeInterfaces container.interface container.containerInterfacesAndSubnets

/-- What `create_host` is called with. -/
def payload (entries : List (IpAddr × List PortConfig)) : Payload :=
  let last := Discovering.last library registry drawing session (container.baselineParams parse)
  let found := container.found library registry drawing session parse
  bindServices drawing container.interface container.containerInterfacesAndSubnets (container.containerPortsOnInterface parse) entries
    ⟨container.interfaces, found.2, found.1, last.drawn + last.unboundPorts.length⟩

end BridgeContainer

end VantageNet.Containers
