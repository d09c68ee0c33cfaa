import VantageNet.Interfaces.Handlers

/-!
The format in which old daemons report a host: `hosts/impl/legacy.rs`.
-/

namespace VantageNet.Interfaces

open Interaction Interaction.Program
open Inventory (Host HostBase Interface InterfaceBase Port PortConfig TransportProtocol Binding BindingBase BindingType
  ServiceBase ServiceDefinition IpAddr MacAddress HostResponse)

structure LegacyInterface where
  id : Uuid
  createdAt : Option Instant
  updatedAt : Option Instant
  subnetId : Uuid
  ipAddress : IpAddr
  macAddress : Option MacAddress
  name : Option String
  deriving DecidableEq

structure LegacyPort where
  id : Uuid
  createdAt : Option Instant
  updatedAt : Option Instant
  number : UInt16
  protocol : Option String
  deriving DecidableEq

structure LegacyBinding where
  id : Uuid
  createdAt : Option Instant
  updatedAt : Option Instant
  bindingType : BindingType
  deriving DecidableEq

structure LegacyService where
  id : Uuid
  createdAt : Option Instant
  updatedAt : Option Instant
  hostId : Uuid
  networkId : Uuid
  serviceDefinition : String
  name : String
  bindings : List LegacyBinding
  tags : List Uuid
  deriving DecidableEq

structure LegacyHost where
  id : Uuid
  createdAt : Instant
  updatedAt : Instant
  name : String
  networkId : Uuid
  hostname : Option String
  description : Option String
  hidden : Bool
  tags : List Uuid
  interfaces : List LegacyInterface
  ports : List LegacyPort
  deriving DecidableEq

structure LegacyHostWithServicesRequest where
  host : LegacyHost
  services : List LegacyService
  deriving DecidableEq

structure DiscoveryHostRequest where
  host : Host
  interfaces : List Interface
  ports : List Port
  services : List Inventory.Service

structure LegacyHostResponse where
  id : Uuid
  createdAt : Instant
  updatedAt : Instant
  name : String
  networkId : Uuid
  hostname : Option String
  description : Option String
  hidden : Bool
  tags : List Uuid
  interfaces : List Interface
  ports : List Port
  services : List Uuid
  targetType : String

structure LegacyHostWithServicesResponse where
  host : LegacyHostResponse
  services : List Inventory.Service

/-- `unwrap_or_else(Utc::now)`. -/
def orNow : Option Instant → Task Instant
  | some instant => ret instant
  | none => utcNow

def LegacyInterface.intoInterface (i : LegacyInterface) (networkId hostId : Uuid) : Task Interface := do
  let createdAt ← orNow i.createdAt
  let updatedAt ← orNow i.updatedAt
  ret ⟨i.id, createdAt, updatedAt, ⟨networkId, hostId, i.subnetId, i.ipAddress, i.macAddress, i.name, 0⟩⟩

def LegacyPort.intoPort (p : LegacyPort) (networkId hostId : Uuid) : Task Port := do
  let protocol : TransportProtocol := if (p.protocol.getD "Tcp").toLower = "udp" then .udp else .tcp
  let createdAt ← orNow p.createdAt
  let updatedAt ← orNow p.updatedAt
  ret ⟨p.id, createdAt, updatedAt, ⟨hostId, networkId, ⟨p.number, protocol⟩⟩⟩

def LegacyBinding.intoBinding (b : LegacyBinding) (serviceId networkId : Uuid) : Task Binding := do
  let createdAt ← orNow b.createdAt
  let updatedAt ← orNow b.updatedAt
  ret ⟨b.id, createdAt, updatedAt, ⟨serviceId, networkId, b.bindingType⟩⟩

def LegacyService.intoService (L : Libraries) (s : LegacyService) : Task Inventory.Service := do
  let bindings ← collect (fun b : LegacyBinding => b.intoBinding s.id s.networkId) s.bindings
  let serviceDefinition := (L.findById s.serviceDefinition).getD L.defaultDefinition
  let createdAt ← orNow s.createdAt
  let updatedAt ← orNow s.updatedAt
  ret ⟨s.id, createdAt, updatedAt, ⟨s.hostId, s.networkId, serviceDefinition, s.name, bindings, none, .discovery [],
    s.tags, 0⟩⟩

def LegacyHost.intoHost (h : LegacyHost) : Host :=
  ⟨h.id, h.createdAt, h.updatedAt,
    ⟨h.name, h.networkId, h.hostname, h.description, .discovery [], none, h.hidden, h.tags⟩⟩

def LegacyHostWithServicesRequest.intoDiscoveryRequest (L : Libraries) (request : LegacyHostWithServicesRequest) :
    Task DiscoveryHostRequest := do
  let host := request.host
  let interfaces ← collect (fun i : LegacyInterface => i.intoInterface host.networkId host.id) host.interfaces
  let ports ← collect (fun p : LegacyPort => p.intoPort host.networkId host.id) host.ports
  let services ← collect (LegacyService.intoService L) request.services
  ret ⟨host.intoHost, interfaces, ports, services⟩

def LegacyHostWithServicesResponse.fromHostResponse (response : HostResponse) : LegacyHostWithServicesResponse :=
  let host := response.host
  ⟨⟨host.id, host.createdAt, host.updatedAt, host.base.name, host.base.networkId, host.base.hostname,
      host.base.description, host.base.hidden, host.base.tags, response.interfaces, response.ports,
      response.services.map Inventory.Entity.id, "None"⟩, response.services⟩

end VantageNet.Interfaces
