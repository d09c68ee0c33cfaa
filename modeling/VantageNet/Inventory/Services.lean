import VantageNet.Inventory.Bindings

/-!
The defaults of `CrudService` and `ChildCrudService` (`shared/services/traits.rs`),
`GroupService` (`groups/service.rs`, `group_bindings/impl/storage.rs`) and `ServiceService`
(`services/service.rs`). `publish_entity` always answers `Ok` and is left out.
-/

namespace VantageNet.Inventory

open Interaction Interaction.Program

def newEntity {β : Type} (base : β) : Query (Entity β) := do
  let now ← utcNow
  let id ← newV4
  return ⟨id, now, now, base⟩

namespace Crud

def create (k : Kind) (entity : Row k) : Query (Row k) := do
  let entity ← if entity.id = Uuid.nil then newEntity entity.base else ret entity
  Storage.create k entity

def update (k : Kind) (entity : Row k) : Query (Row k) := do
  match ← Storage.getById k entity.id with
  | none => fail (.notFound k entity.id)
  | some _ => Storage.update k entity

def delete (k : Kind) (id : Uuid) : Query Unit := do
  match ← Storage.getById k id with
  | none => fail (.notFound k id)
  | some _ => Storage.deleteWhere k (fun r => r.id = id)

def deleteMany (k : Kind) (ids : List Uuid) : Query Unit :=
  if ids.isEmpty then ret ()
  else do
    forEach (fun id => (Storage.getById k id).bind (fun _ => ret ())) ids
    Storage.deleteWhere k (fun r => ids.contains r.id)

end Crud

namespace BindingService

def getForParent (serviceId : Uuid) : Query (List Binding) :=
  Storage.getAll .binding (fun b : Binding => b.base.serviceId = serviceId)

def saveChild (existing : List Binding) (child : Binding) : Query Binding :=
  if child.id = Uuid.nil then do
    let id ← newV4
    Crud.create .binding { child with id }
  else
    match existing.find? (fun e => e.id = child.id) with
    | some e => Crud.update .binding { child with createdAt := e.createdAt }
    | none => Crud.create .binding child

def idsToDelete (existing children : List Binding) : List Uuid :=
  let newIds := (children.map Entity.id).filter (fun id => id ≠ Uuid.nil)
  (existing.map Entity.id).filter (fun id => !newIds.contains id)

def saveForParent (serviceId : Uuid) (children : List Binding) : Query (List Binding) := do
  let existing ← getForParent serviceId
  when (!(idsToDelete existing children).isEmpty) (Crud.deleteMany .binding (idsToDelete existing children))
  collect (saveChild existing) children

end BindingService

namespace GroupService

def withBindings (members : List GroupBinding) (group : Group) : Group :=
  { group with base := { group.base with
    bindingIds := (members.filter (fun m => m.base.groupId = group.id)).map (fun m => m.base.bindingId) } }

def getById (id : Uuid) : Query (Option Group) := do
  match ← Storage.getById .group id with
  | none => return none
  | some group =>
    let members ← Storage.getAllOrdered .groupBinding (fun m : GroupBinding => m.base.groupId = id)
      (fun m : GroupBinding => m.base.position)
    return some (withBindings members group)

def getAll (filter : Group → Bool) : Query (List Group) := do
  let groups ← Storage.getAll .group filter
  if groups.isEmpty then return groups
  else
    let members ← Storage.getAllOrdered .groupBinding
      (fun m : GroupBinding => (groups.map Entity.id).contains m.base.groupId)
      (fun m : GroupBinding => m.base.position)
    return groups.map (withBindings members)

def saveForGroup (groupId : Uuid) (bindingIds : List Uuid) : Query Unit := do
  Storage.deleteWhere .groupBinding (fun m : GroupBinding => m.base.groupId = groupId)
  forEach (fun (bindingId, position) => do
    let member ← newEntity (⟨groupId, bindingId, position⟩ : GroupBindingBase)
    let _ ← Storage.create .groupBinding member) (bindingIds.zipIdx.map (fun e => (e.1, (e.2 : ℤ))))

def update (group : Group) : Query Group := do
  match ← getById group.id with
  | none => fail (.notFound .group group.id)
  | some _ =>
    let updated ← Storage.update .group group
    saveForGroup updated.id group.base.bindingIds
    return updated

end GroupService

namespace ServiceService

def withBindings (bindings : List Binding) (service : Service) : Service :=
  { service with base := { service.base with bindings } }

def getById (id : Uuid) : Query (Option Service) := do
  match ← Storage.getById .service id with
  | none => return none
  | some service => return some (withBindings (← BindingService.getForParent id) service)

def getAll (filter : Service → Bool) : Query (List Service) := do
  let services ← Storage.getAll .service filter
  if services.isEmpty then return services
  else
    let bindings ← Storage.getAll .binding
      (fun b : Binding => (services.map Entity.id).contains b.base.serviceId)
    return services.map (fun s => withBindings (bindings.filter (fun b => b.base.serviceId = s.id)) s)

def getForHost (hostId : Uuid) : Query (List Service) := getAll (fun s => s.base.hostId = hostId)

def portsForHost (hostId : Uuid) : Query (List Port) :=
  Storage.getAll .port (fun p : Port => p.base.hostId = hostId)

def interfacesForHost (hostId : Uuid) : Query (List Interface) :=
  Storage.getAllOrdered .interface (fun i : Interface => i.base.hostId = hostId)
    (fun i : Interface => i.base.position)

def belongsToHost (portIds interfaceIds : List Uuid) : BindingType → Except Error Unit
  | .interface interfaceId =>
    if interfaceIds.contains interfaceId then .ok () else .error (.interfaceNotOnHost interfaceId)
  | .port portId interfaceId =>
    if portIds.contains portId then
      match interfaceId with
      | none => .ok ()
      | some i => if interfaceIds.contains i then .ok () else .error (.interfaceNotOnHost i)
    else .error (.portNotOnHost portId)

def validateBindingsBelongToHost (hostId : Uuid) (bindings : List Binding) : Query Unit :=
  if bindings.isEmpty then ret ()
  else do
    let ports ← portsForHost hostId
    let interfaces ← interfacesForHost hostId
    forEach (fun b : Binding => orFail (belongsToHost (ports.map Entity.id) (interfaces.map Entity.id)
      b.base.bindingType)) bindings

/-- The first binding that another service claims already, with the name of that service. -/
def firstClaimed (others : List Service) : List Binding → Option (Claim × String)
  | [] => none
  | binding :: rest =>
    match binding.base.bindingType.claim with
    | none => firstClaimed others rest
    | some claim =>
      match others.find? (fun s => (claims s.base.bindings).any (overlaps claim)) with
      | none => firstClaimed others rest
      | some owner => some (claim, owner.base.name)

def validateBindingsAvailable (hostId serviceId : Uuid) (bindings : List Binding) : Query Unit :=
  if bindings.isEmpty then ret ()
  else do
    let others := (← getForHost hostId).filter (fun s => s.id ≠ serviceId)
    match firstClaimed others bindings with
    | none => return ()
    | some (claim, owner) =>
      let _ ← portsForHost hostId
      fail (.portClaimed claim.1 owner)

def saveBindings (service : Service) : Query Service := do
  let saved ← BindingService.saveForParent service.id
    (service.base.bindings.map (fun b => Binding.withService b service.id service.base.networkId))
  return withBindings saved service

def upsertService (existing new : Service) : Query Service := do
  let updated ← Storage.update .service (upsertedService existing new)
  saveBindings updated

def insertService (service : Service) : Query Service := do
  orFail (validateBindingsNoConflicts service.base.bindings)
  validateBindingsBelongToHost service.base.hostId service.base.bindings
  when (!service.base.source.isFromDiscovery)
    (validateBindingsAvailable service.base.hostId service.id service.base.bindings)
  let created ← Storage.create .service service
  saveBindings created

def isUpsert (existing service : Service) : Bool :=
  (service.base.source.isFromDiscovery && existing.base.source.isFromDiscovery) || service.id = existing.id

def store (existingServices : List Service) (service : Service) : Query Service :=
  let positioned : Service :=
    { service with base := { service.base with position := existingServices.length } }
  match existingServices.find? (fun existing => Service.eq existing service) with
  | some existing => if isUpsert existing service then upsertService existing service else insertService positioned
  | none => insertService positioned

def create (service : Service) : Query Service := do
  let service ← if service.id = Uuid.nil then newEntity service.base else ret service
  let service := withBindings (deduplicateBindings service.base.bindings) service
  acquire (.service service.id)
  let existingServices ← getForHost service.base.hostId
  let stored ← store existingServices service
  release (.service service.id)
  return stored

def keptInGroup (current updated : List Uuid) (bindingId : Uuid) : Bool :=
  !current.contains bindingId || updated.contains bindingId

def updateGroupServiceBindings (current : Service) (updates : List Binding) : Query Unit := do
  let groups ← GroupService.getAll (fun g => g.base.networkId = current.base.networkId)
  acquire .groupUpdate
  let kept := fun g : Group => g.base.bindingIds.filter
    (keptInGroup (current.base.bindings.map Entity.id) (updates.map Entity.id))
  let groupsToUpdate := (groups.filter (fun g => (kept g).length ≠ g.base.bindingIds.length)).map
    (fun g => { g with base := { g.base with bindingIds := kept g } })
  forEach (fun g => (GroupService.update g).bind (fun _ => ret ())) groupsToUpdate
  release .groupUpdate

def update (service : Service) : Query Service := do
  acquire (.service service.id)
  match ← getById service.id with
  | none => fail (.notFound .service service.id)
  | some current =>
    let service := withBindings (deduplicateBindings service.base.bindings) service
    orFail (validateBindingsNoConflicts service.base.bindings)
    validateBindingsBelongToHost service.base.hostId service.base.bindings
    validateBindingsAvailable service.base.hostId service.id service.base.bindings
    updateGroupServiceBindings current service.base.bindings
    let updated ← Storage.update .service service
    let saved ← saveBindings updated
    release (.service service.id)
    return saved

def delete (id : Uuid) : Query Unit := do
  acquire (.service id)
  match ← getById id with
  | none => fail (.notFound .service id)
  | some service =>
    updateGroupServiceBindings service []
    Storage.deleteWhere .service (fun s : Service => s.id = id)
    release (.service id)

def deleteMany (ids : List Uuid) : Query Unit :=
  if ids.isEmpty then ret ()
  else do
    forEach (fun id => (getById id).bind (fun _ => ret ())) ids
    Storage.deleteWhere .service (fun s : Service => ids.contains s.id)

def partitionConflictingBindings (hostId serviceId : Uuid) (bindings : List Binding) (batchClaimed : List Claim) :
    Query (List Binding × List Binding) :=
  if bindings.isEmpty then ret ([], [])
  else do
    let others := (← getForHost hostId).filter (fun s => s.id ≠ serviceId)
    let allClaimed := (others.map (fun s => claims s.base.bindings)).flatten ++ batchClaimed
    return (bindings.filter (fun b => !claimed allClaimed b), bindings.filter (claimed allClaimed))

def reassignServiceInterfaceBindings (service : Service) (originalInterfaces : List Interface)
    (originalPorts : List Port) (updatedHost : Host) (updatedInterfaces : List Interface)
    (updatedPorts : List Port) : Query Service := do
  acquire (.service service.id)
  release (.service service.id)
  return reassignedService originalInterfaces updatedInterfaces originalPorts updatedPorts updatedHost service

end ServiceService

end VantageNet.Inventory
