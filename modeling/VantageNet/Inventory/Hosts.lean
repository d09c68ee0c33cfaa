import VantageNet.Inventory.Services

/-!
`HostService` (`hosts/service.rs`): creation of a host with its children, by discovery or by
request.
-/

namespace VantageNet.Inventory

open Interaction Interaction.Program

inductive ConflictBehavior where
  | error
  | upsert
  deriving DecidableEq

structure HostResponse where
  host : Host
  interfaces : List Interface
  ports : List Port
  services : List Service
  deriving DecidableEq

/-- What the loop of `create_with_children` over the services carries along. -/
structure Batch where
  claimed : List Claim
  orphaned : List Binding
  created : List Service

namespace HostService

/-- The merged source of `upsert_host`, with whether it counts as an update. -/
def upsertSource : EntitySource → EntitySource → EntitySource × Bool
  | .discovery existingMetadata, .discovery newMetadata => (.discovery (newMetadata ++ existingMetadata), true)
  | _, .discovery newMetadata => (.discovery newMetadata, true)
  | existing, _ => (existing, false)

def upsertHost (existing new : Host) : Query Host :=
  let setsHostname := existing.base.hostname.isNone && new.base.hostname.isSome
  let (source, merged) := upsertSource existing.base.source new.base.source
  let upserted : Host := { existing with base := { existing.base with
    hostname := existing.base.hostname.or new.base.hostname
    source } }
  if setsHostname || merged then Storage.update .host upserted else ret upserted

def getForNetwork (networkId : Uuid) : Query (List Host) :=
  Storage.getAll .host (fun h : Host => h.base.networkId = networkId)

def insertHost (host : Host) : Query Host := do
  match ← Storage.getById .host host.id with
  | some _ => fail (.networkMismatch host.id)
  | none =>
    let _ ← Storage.create .host host
    return host

def store (allHosts : List Host) (host : Host) : Query Host :=
  match allHosts.find? (fun h => host.id = h.id) with
  | some existing => upsertHost existing host
  | none => insertHost host

def create (host : Host) : Query Host := do
  let host ← if host.id = Uuid.nil then newEntity host.base else ret host
  acquire (.host host.id)
  let allHosts ← getForNetwork host.base.networkId
  let stored ← store allHosts host
  release (.host host.id)
  return stored

def matching (incoming interfaces : List Interface) (host : Host) : Bool :=
  incoming.any (fun i => (interfaces.filter (fun e => e.base.hostId = host.id)).any (fun e => Interface.eq i e))

def findMatchingHostByInterfaces (networkId : Uuid) (incoming : List Interface) : Query (Option Host) :=
  if incoming.isEmpty then ret none
  else do
    let allHosts ← getForNetwork networkId
    if allHosts.isEmpty then return none
    else
      let interfaces ← Storage.getAllOrdered .interface
        (fun i : Interface => (allHosts.map Entity.id).contains i.base.hostId)
        (fun i : Interface => i.base.position)
      return allHosts.find? (matching incoming interfaces)

/-- The look at what is stored already that `ConflictBehavior::Upsert` takes before an interface. -/
def existingInterface (interface : Interface) : Query (Option Interface) := do
  match ← Storage.getById .interface interface.id with
  | some existing => return some existing
  | none =>
    let existingByKey ← Storage.getAll .interface (fun i : Interface =>
      i.base.hostId = interface.base.hostId && i.base.subnetId = interface.base.subnetId)
    return existingByKey.find? (fun i => i.base.ipAddress = interface.base.ipAddress)

def createInterface (behavior : ConflictBehavior) (hostId : Uuid) (interface : Interface) : Query Interface := do
  let interface : Interface := { interface with base := { interface.base with hostId } }
  let existing ← match behavior with
    | .upsert => existingInterface interface
    | .error => ret none
  match existing with
  | some existing => return existing
  | none => Crud.create .interface interface

def existingPort (hostId : Uuid) (port : Port) : Query (Option Port) := do
  match ← Storage.getById .port port.id with
  | some existing => return some existing
  | none =>
    let existingPorts ← ServiceService.portsForHost hostId
    return existingPorts.find? (fun p => p.base.portType = port.base.portType)

def createPort (behavior : ConflictBehavior) (host : Host) (port : Port) : Query Port := do
  let port := Port.withHost port host.id host.base.networkId
  let existing ← match behavior with
    | .upsert => existingPort host.id port
    | .error => ret none
  match existing with
  | some existing => return existing
  | none => Crud.create .port port

section services

variable (originalInterfaces : List Interface) (originalPorts : List Port) (host : Host)
  (interfaces : List Interface) (ports : List Port)

def createService (batch : Batch) (service : Service) : Query Batch := do
  let reassigned ← ServiceService.reassignServiceInterfaceBindings service originalInterfaces originalPorts host
    interfaces ports
  let (valid, conflicting) ← ServiceService.partitionConflictingBindings host.id reassigned.id
    reassigned.base.bindings batch.claimed
  if !conflicting.isEmpty then return { batch with orphaned := batch.orphaned ++ valid }
  else
    let created ← ServiceService.create reassigned
    return { batch with
      claimed := batch.claimed ++ claims reassigned.base.bindings
      created := batch.created ++ [created] }

def openPortsBase (bindings : List Binding) : ServiceBase :=
  ⟨host.id, host.base.networkId, openPorts, "Unclaimed Open Ports", bindings, none, .discovery [], [], 0⟩

def createOpenPorts (batch : Batch) : Query (List Service) :=
  if batch.orphaned.isEmpty then ret batch.created
  else do
    let service ← newEntity (openPortsBase host batch.orphaned)
    let created ← ServiceService.create service
    return batch.created ++ [created]

def createServices (services : List Service) : Query (List Service) := do
  let batch ← accumulate (createService originalInterfaces originalPorts host interfaces ports) ⟨[], [], []⟩ services
  createOpenPorts host batch

end services

/-- The incoming host, under the id of the stored host it is recognised as. -/
def alignHost (behavior : ConflictBehavior) (host : Host) (interfaces : List Interface) : Query Host := do
  match ← findMatchingHostByInterfaces host.base.networkId interfaces with
  | none => return host
  | some existing =>
    match behavior with
    | .error => fail (.matchingHostExists existing.id)
    | .upsert => return { host with id := existing.id }

/-- The part of `create_with_children` before its services. -/
def createParts (behavior : ConflictBehavior) (host : Host) (interfaces : List Interface) (ports : List Port) :
    Query (Host × List Interface × List Port) := do
  let aligned ← alignHost behavior host interfaces
  let createdHost ← create aligned
  let createdInterfaces ← collect (createInterface behavior createdHost.id) interfaces
  let createdPorts ← collect (createPort behavior createdHost) ports
  return (createdHost, createdInterfaces, createdPorts)

def createWithChildren (behavior : ConflictBehavior) (host : Host) (interfaces : List Interface)
    (ports : List Port) (services : List Service) : Query HostResponse := do
  let (createdHost, createdInterfaces, createdPorts) ← createParts behavior host interfaces ports
  let createdServices ← createServices interfaces ports createdHost createdInterfaces createdPorts services
  return ⟨createdHost, createdInterfaces, createdPorts, createdServices⟩

def discoverHost (host : Host) (interfaces : List Interface) (ports : List Port) (services : List Service) :
    Query HostResponse := createWithChildren .upsert host interfaces ports services

end HostService

end VantageNet.Inventory
