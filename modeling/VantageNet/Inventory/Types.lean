import VantageNet.Discovery.Types

/-!
Hosts and what they are made of: `hosts/impl/base.rs`, `interfaces/impl/base.rs`,
`ports/impl/base.rs`, `services/impl/base.rs`, `bindings/impl/base.rs`, `groups/impl/base.rs`,
`group_bindings/impl/base.rs` and `shared/types/entities.rs`. A `PortType` is compared, hashed
and looked up by its `config()` alone and stands for it here.
-/

namespace VantageNet.Inventory

structure Entity (β : Type) where
  id : Uuid
  createdAt : Instant
  updatedAt : Instant
  base : β
  deriving DecidableEq

inductive IpAddr where
  | v4 (bits : BitVec 32)
  | v6 (bits : BitVec 128)
  deriving DecidableEq

abbrev MacAddress := BitVec 48

structure DiscoveryMetadata where
  discoveryType : DiscoveryType
  daemonId : Uuid
  date : Instant
  deriving DecidableEq

inductive MatchConfidence where
  | notApplicable
  | low
  | medium
  | high
  | certain
  deriving DecidableEq

def MatchConfidence.rank : MatchConfidence → ℕ
  | .notApplicable => 0
  | .low => 1
  | .medium => 2
  | .high => 3
  | .certain => 4

structure MatchDetails where
  reason : String
  confidence : MatchConfidence
  deriving DecidableEq

inductive EntitySource where
  | manual
  | system
  | discovery (metadata : List DiscoveryMetadata)
  | discoveryWithMatch (metadata : List DiscoveryMetadata) (details : MatchDetails)
  | unknown
  deriving DecidableEq

def EntitySource.isFromDiscovery : EntitySource → Bool
  | .discovery _ | .discoveryWithMatch _ _ => true
  | _ => false

def EntitySource.isDiscovery : EntitySource → Bool
  | .discovery _ => true
  | _ => false

inductive HostVirtualization where
  | proxmox (vmName vmId : Option String) (serviceId : Uuid)
  deriving DecidableEq

structure HostBase where
  name : String
  networkId : Uuid
  hostname : Option String
  description : Option String
  source : EntitySource
  virtualization : Option HostVirtualization
  hidden : Bool
  tags : List Uuid
  deriving DecidableEq

abbrev Host := Entity HostBase

structure InterfaceBase where
  networkId : Uuid
  hostId : Uuid
  subnetId : Uuid
  ipAddress : IpAddr
  macAddress : Option MacAddress
  name : Option String
  position : ℤ
  deriving DecidableEq

abbrev Interface := Entity InterfaceBase

/-- `impl PartialEq for Interface`. -/
def Interface.eq (a b : Interface) : Bool :=
  (a.base.ipAddress = b.base.ipAddress && a.base.subnetId = b.base.subnetId) ||
    (a.base.macAddress = b.base.macAddress && a.base.macAddress.isSome && b.base.macAddress.isSome) ||
    a.id = b.id

inductive TransportProtocol where
  | udp
  | tcp
  deriving DecidableEq

structure PortConfig where
  number : UInt16
  protocol : TransportProtocol
  deriving DecidableEq

structure PortBase where
  hostId : Uuid
  networkId : Uuid
  portType : PortConfig
  deriving DecidableEq

abbrev Port := Entity PortBase

def Port.withHost (port : Port) (hostId networkId : Uuid) : Port :=
  { port with base := { port.base with hostId, networkId } }

inductive BindingType where
  | interface (interfaceId : Uuid)
  | port (portId : Uuid) (interfaceId : Option Uuid)
  deriving DecidableEq

def BindingType.interfaceId : BindingType → Option Uuid
  | .interface interfaceId => some interfaceId
  | .port _ interfaceId => interfaceId

def BindingType.portId : BindingType → Option Uuid
  | .interface _ => none
  | .port portId _ => some portId

structure BindingBase where
  serviceId : Uuid
  networkId : Uuid
  bindingType : BindingType
  deriving DecidableEq

abbrev Binding := Entity BindingBase

def Binding.withService (binding : Binding) (serviceId networkId : Uuid) : Binding :=
  { binding with base := { binding.base with serviceId, networkId } }

structure ServiceDefinition where
  id : String
  isGeneric : Bool
  isGateway : Bool
  isOpenPorts : Bool
  deriving DecidableEq

def openPorts : ServiceDefinition := ⟨"Unclaimed Open Ports", true, false, true⟩

structure DockerVirtualization where
  containerName : Option String
  containerId : Option String
  serviceId : Uuid
  deriving DecidableEq

structure ServiceBase where
  hostId : Uuid
  networkId : Uuid
  serviceDefinition : ServiceDefinition
  name : String
  bindings : List Binding
  virtualization : Option DockerVirtualization
  source : EntitySource
  tags : List Uuid
  position : ℤ
  deriving DecidableEq

abbrev Service := Entity ServiceBase

/-- The row of `services`, which has no column for the bindings. -/
def Service.row (service : Service) : Service := { service with base := { service.base with bindings := [] } }

def Service.portIds (service : Service) : List Uuid :=
  service.base.bindings.filterMap (fun b => b.base.bindingType.portId)

def Service.sharesPorts (a b : Service) : Bool := a.portIds.any (fun p => b.portIds.contains p)

/-- The last part of `impl PartialEq for Service`, for two generic services of one host. -/
def Service.eqGeneric (a b : Service) : Bool :=
  match a.base.virtualization, b.base.virtualization with
  | some v, some w =>
    match v.containerId, w.containerId with
    | some c, some d => c = d
    | none, none =>
      match v.containerName, w.containerName with
      | some c, some d => c = d
      | _, _ => a.sharesPorts b
    | _, _ => false
  | _, _ => a.sharesPorts b

/-- `impl PartialEq for Service` for two services with different ids. -/
def Service.resembles (a b : Service) : Bool :=
  if a.base.hostId ≠ b.base.hostId || a.base.networkId ≠ b.base.networkId then false
  else if a.base.serviceDefinition.id ≠ b.base.serviceDefinition.id then false
  else if !a.base.serviceDefinition.isGeneric then true
  else if a.base.serviceDefinition.isGateway || a.base.serviceDefinition.isOpenPorts then true
  else a.eqGeneric b

/-- `impl PartialEq for Service`. -/
def Service.eq (a b : Service) : Bool := if a.id = b.id then true else a.resembles b

structure GroupBase where
  name : String
  networkId : Uuid
  bindingIds : List Uuid
  deriving DecidableEq

abbrev Group := Entity GroupBase

/-- The row of `groups`, whose bindings are in `group_bindings`. -/
def Group.row (group : Group) : Group := { group with base := { group.base with bindingIds := [] } }

structure GroupBindingBase where
  groupId : Uuid
  bindingId : Uuid
  position : ℤ
  deriving DecidableEq

abbrev GroupBinding := Entity GroupBindingBase

end VantageNet.Inventory
