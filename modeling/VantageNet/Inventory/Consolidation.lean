import VantageNet.Inventory.Requests

/-!
`consolidate_hosts` and `delete_host` (`hosts/service.rs`). What the daemon service knows of
a host is the parameter `daemon`: none of the calls here writes a daemon.
-/

namespace VantageNet.Inventory

open Interaction Interaction.Program

/-- An id on the other host with its id on the destination, as `interface_id_map` and `port_id_map` hold it. -/
abbrev IdMap := List (Uuid × Uuid)

def IdMap.get (map : IdMap) (id : Uuid) : Option Uuid := (map.find? (fun e => e.1 = id)).map Prod.snd

section remap

variable (interfaceIdMap portIdMap : IdMap)

def remapType : BindingType → BindingType
  | .interface interfaceId => .interface ((interfaceIdMap.get interfaceId).getD interfaceId)
  | .port portId interfaceId =>
    .port ((portIdMap.get portId).getD portId) (interfaceId.bind (fun id => interfaceIdMap.get id))

def remapBinding (binding : Binding) : Binding :=
  { binding with base := { binding.base with bindingType := remapType interfaceIdMap portIdMap binding.base.bindingType } }

def remapService (host : Host) (service : Service) : Service :=
  { service with base := { service.base with
    hostId := host.id
    networkId := host.base.networkId
    bindings := service.base.bindings.map (remapBinding interfaceIdMap portIdMap) } }

end remap

namespace HostService

def sameInterface (destInterface otherInterface : Interface) : Bool :=
  (destInterface.base.subnetId = otherInterface.base.subnetId &&
    destInterface.base.ipAddress = otherInterface.base.ipAddress) ||
  (destInterface.base.macAddress.isSome && destInterface.base.macAddress = otherInterface.base.macAddress)

def transferInterface (destination : Host) (destInterfaces : List Interface) (otherInterface : Interface) :
    Query (Uuid × Uuid) :=
  match destInterfaces.find? (fun i => sameInterface i otherInterface) with
  | some destInterface => ret (otherInterface.id, destInterface.id)
  | none => do
    let _ ← Crud.update .interface
      ({ otherInterface with base := { otherInterface.base with hostId := destination.id } } : Interface)
    return (otherInterface.id, otherInterface.id)

def transferPort (destination : Host) (destPorts : List Port) (otherPort : Port) : Query (Uuid × Uuid) :=
  match destPorts.find? (fun p => p.base.portType = otherPort.base.portType) with
  | some destPort => ret (otherPort.id, destPort.id)
  | none => do
    let _ ← Crud.update .port (Port.withHost otherPort destination.id destination.base.networkId)
    return (otherPort.id, otherPort.id)

def isDuplicate (destinationServices : List Service) (service : Service) : Bool :=
  destinationServices.any (fun s => s.base.name = service.base.name &&
    s.base.serviceDefinition.id = service.base.serviceDefinition.id)

def transferService (host : Host) (interfaceIdMap portIdMap : IdMap) (destinationServices : List Service)
    (service : Service) : Query Unit :=
  if isDuplicate destinationServices service then ret ()
  else do
    match ← (ServiceService.update (remapService interfaceIdMap portIdMap host service)).attempt with
    | .ok _ => return ()
    | .error e => fail (.serviceUpdate service.base.name e)

section daemons

variable (daemon : Uuid → Except Error Bool)

def refuseDaemon (hostId : Uuid) : Query Unit :=
  match daemon hostId with
  | .error e => fail e
  | .ok true => fail (.daemonOnHost hostId)
  | .ok false => ret ()

def deleteHost (id : Uuid) : Query Unit := do
  refuseDaemon daemon id
  match ← Storage.getById .host id with
  | none => fail (.notFound .host id)
  | some _ =>
    acquire (.host id)
    Storage.deleteWhere .host (fun h : Host => h.id = id)
    release (.host id)

/-- What `consolidate_hosts` has moved before it turns to the services: the merged host and the two id maps. -/
def transferParts (destination other : Host) : Query (Host × IdMap × IdMap) := do
  let destInterfaces ← ServiceService.interfacesForHost destination.id
  let otherInterfaces ← ServiceService.interfacesForHost other.id
  let destPorts ← ServiceService.portsForHost destination.id
  let otherPorts ← ServiceService.portsForHost other.id
  let interfaceIdMap ← collect (transferInterface destination destInterfaces) otherInterfaces
  let portIdMap ← collect (transferPort destination destPorts) otherPorts
  let updated ← upsertHost destination other
  return (updated, interfaceIdMap, portIdMap)

def transferServices (destination other updated : Host) (interfaceIdMap portIdMap : IdMap) : Query Unit := do
  let destinationServices ← ServiceService.getForHost destination.id
  let otherServices ← ServiceService.getForHost other.id
  forEach (transferService updated interfaceIdMap portIdMap destinationServices) otherServices

def consolidateHosts (destination other : Host) : Query HostResponse :=
  if destination.id = other.id then fail .sameHost
  else do
    refuseDaemon daemon other.id
    acquire (.host destination.id)
    let (updated, interfaceIdMap, portIdMap) ← transferParts destination other
    transferServices destination other updated interfaceIdMap portIdMap
    deleteHost daemon other.id
    let (interfaces, ports, services) ← loadChildrenForHost updated.id
    release (.host destination.id)
    return ⟨updated, interfaces, ports, services⟩

end daemons

end HostService

end VantageNet.Inventory
