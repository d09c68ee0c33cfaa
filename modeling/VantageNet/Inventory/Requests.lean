import VantageNet.Inventory.Hosts
import VantageNet.Interaction.Words

/-!
Requests of users: the update of a host with its children (`hosts/service.rs`,
`hosts/impl/api.rs`, `shared/position.rs`) and the endpoints for single bindings
(`bindings/handlers.rs`, `shared/handlers/traits.rs`).
-/

namespace VantageNet.Inventory

open Interaction Interaction.Program

section positions

def firstDuplicate : List ℤ → Option ℤ
  | a :: b :: rest => if a = b then some a else firstDuplicate (b :: rest)
  | _ => none

def firstGap (positions : List ℤ) : Option (ℕ × ℤ) :=
  (positions.zipIdx.find? (fun e => e.1 ≠ asI32 e.2)).map (fun e => (e.2, e.1))

def validateSequentialPositions (positions : List ℤ) (entity : String) : Except Error Unit :=
  let sorted := positions.insertionSort (· ≤ ·)
  match firstDuplicate sorted with
  | some position => .error (.positionDuplicate entity position)
  | none =>
    match firstGap sorted with
    | some (expected, actual) => .error (.positionNotSequential entity expected actual)
    | none => .ok ()

variable {ι : Type} (id : ι → Uuid) (position : ι → Option ℤ) (setPosition : ι → ℤ → ι)

/-- What `existing_by_id` has for an id. Of several entities the last one counts. -/
def existingById (existing : List (Uuid × ℤ)) (key : Uuid) : Option (Uuid × ℤ) := existing.reverse.find? (fun e => e.1 = key)

def assignPositions (existing : List (Uuid × ℤ)) : ℤ → List ι → List ι
  | _, [] => []
  | next, input :: rest =>
    match existingById existing (id input) with
    | some e => setPosition input e.2 :: assignPositions existing next rest
    | none => setPosition input next :: assignPositions existing (asI32 (next + 1)) rest

def resolveAndValidateInputPositions (inputs : List ι) (existing : List (Uuid × ℤ)) (entity : String) :
    Except Error (List ι) :=
  let specified := (inputs.filter (fun i => (position i).isSome)).length
  if inputs.isEmpty then .ok inputs
  else if 0 < specified ∧ specified < inputs.length then
    .error (.positionsMixed entity specified (inputs.length - specified))
  else if specified = inputs.length then
    (validateSequentialPositions (inputs.filterMap position) entity).map (fun _ => inputs)
  else .ok (assignPositions id setPosition existing (asI32 existing.length) inputs)

end positions

structure InterfaceInput where
  id : Uuid
  subnetId : Uuid
  ipAddress : IpAddr
  macAddress : Option MacAddress
  name : Option String
  position : Option ℤ
  deriving DecidableEq

def InterfaceInput.intoInterface (input : InterfaceInput) (hostId networkId : Uuid) : Query Interface := do
  let now ← utcNow
  return ⟨input.id, now, now,
    ⟨networkId, hostId, input.subnetId, input.ipAddress, input.macAddress, input.name, input.position.getD 0⟩⟩

structure PortInput where
  id : Uuid
  number : UInt16
  protocol : TransportProtocol
  deriving DecidableEq

def PortInput.intoPort (input : PortInput) (hostId networkId : Uuid) : Query Port := do
  let now ← utcNow
  return ⟨input.id, now, now, ⟨hostId, networkId, ⟨input.number, input.protocol⟩⟩⟩

structure BindingInput where
  id : Uuid
  bindingType : BindingType
  deriving DecidableEq

def BindingInput.intoBinding (input : BindingInput) (serviceId networkId : Uuid) : Query Binding := do
  let createdAt ← utcNow
  let updatedAt ← utcNow
  return ⟨input.id, createdAt, updatedAt, ⟨serviceId, networkId, input.bindingType⟩⟩

structure ServiceInput where
  id : Uuid
  serviceDefinition : ServiceDefinition
  name : String
  bindings : List BindingInput
  virtualization : Option DockerVirtualization
  tags : List Uuid
  position : Option ℤ
  deriving DecidableEq

def ServiceInput.intoService (input : ServiceInput) (hostId networkId : Uuid) (source : EntitySource) :
    Query Service := do
  let now ← utcNow
  let bindings ← collect (fun b : BindingInput => b.intoBinding input.id networkId) input.bindings
  return ⟨input.id, now, now, ⟨hostId, networkId, input.serviceDefinition, input.name, bindings,
    input.virtualization, source, input.tags, input.position.getD 0⟩⟩

structure CreateHostRequest where
  name : String
  networkId : Uuid
  hostname : Option String
  description : Option String
  virtualization : Option HostVirtualization
  hidden : Bool
  tags : List Uuid
  interfaces : List InterfaceInput
  ports : List PortInput
  services : List ServiceInput
  deriving DecidableEq

structure UpdateHostRequest where
  id : Uuid
  name : String
  hostname : Option String
  description : Option String
  virtualization : Option HostVirtualization
  hidden : Bool
  tags : List Uuid
  expectedUpdatedAt : Option Instant
  interfaces : List InterfaceInput
  ports : List PortInput
  services : List ServiceInput
  deriving DecidableEq

namespace HostService

/-- The host of a request with its children, as they are handed to `create_with_children`. -/
def intoEntities (request : CreateHostRequest) (interfaceInputs : List InterfaceInput)
    (serviceInputs : List ServiceInput) : Query (Host × List Interface × List Port × List Service) := do
  let host ← newEntity (⟨request.name, request.networkId, request.hostname, request.description, .manual,
    request.virtualization, request.hidden, request.tags⟩ : HostBase)
  let interfaces ← collect (fun i : InterfaceInput => i.intoInterface host.id request.networkId) interfaceInputs
  let ports ← collect (fun p : PortInput => p.intoPort host.id request.networkId) request.ports
  let services ← collect (fun s : ServiceInput => s.intoService host.id request.networkId .manual) serviceInputs
  return (host, interfaces, ports, services)

def createFromRequest (request : CreateHostRequest) : Query HostResponse := do
  let interfaceInputs ← orFail (resolveAndValidateInputPositions InterfaceInput.id InterfaceInput.position
    (fun i p => { i with position := some p }) request.interfaces [] "interface")
  let serviceInputs ← orFail (resolveAndValidateInputPositions ServiceInput.id ServiceInput.position
    (fun s p => { s with position := some p }) request.services [] "service")
  let (host, interfaces, ports, services) ← intoEntities request interfaceInputs serviceInputs
  createWithChildren .error host interfaces ports services

def update (updates : Host) : Query Host := do
  acquire (.host updates.id)
  match ← Storage.getById .host updates.id with
  | none => fail (.notFound .host updates.id)
  | some _ =>
    let updated ← Storage.update .host updates
    release (.host updates.id)
    return updated

def syncInterface (existing : List Interface) (hostId networkId : Uuid) (input : InterfaceInput) : Query Unit := do
  let interface ← input.intoInterface hostId networkId
  match existing.find? (fun i => i.id = input.id) with
  | some found =>
    let _ ← Crud.update .interface { interface with createdAt := found.createdAt }
    return ()
  | none =>
    let _ ← Crud.create .interface interface
    return ()

def syncInterfaces (hostId networkId : Uuid) (inputs : List InterfaceInput) : Query Unit := do
  let existing ← ServiceService.interfacesForHost hostId
  let inputs ← orFail (resolveAndValidateInputPositions InterfaceInput.id InterfaceInput.position
    (fun i p => { i with position := some p }) inputs (existing.map (fun i => (i.id, i.base.position))) "interface")
  Crud.deleteMany .interface ((existing.map Entity.id).filter
    (fun id => !(inputs.map InterfaceInput.id).contains id))
  forEach (syncInterface existing hostId networkId) inputs

def syncPort (existing : List Port) (hostId networkId : Uuid) (input : PortInput) : Query Unit := do
  let port ← input.intoPort hostId networkId
  match existing.find? (fun p => p.id = input.id) with
  | some found =>
    let _ ← Crud.update .port { port with createdAt := found.createdAt }
    return ()
  | none =>
    let _ ← Crud.create .port port
    return ()

def syncPorts (hostId networkId : Uuid) (inputs : List PortInput) : Query Unit := do
  let existing ← ServiceService.portsForHost hostId
  Crud.deleteMany .port ((existing.map Entity.id).filter (fun id => !(inputs.map PortInput.id).contains id))
  forEach (syncPort existing hostId networkId) inputs

def losesPorts (existing : List Service) (input : ServiceInput) : Bool :=
  match existing.find? (fun s => s.id = input.id) with
  | none => false
  | some found => (claims found.base.bindings).any
      (fun claim => !(input.bindings.filterMap (fun b => b.bindingType.claim)).contains claim)

def syncService (existing : List Service) (hostId networkId : Uuid) (input : ServiceInput) : Query Unit := do
  let service ← input.intoService hostId networkId .manual
  match existing.find? (fun s => s.id = input.id) with
  | some found =>
    let _ ← ServiceService.update { service with base := { service.base with source := found.base.source } }
    return ()
  | none =>
    let _ ← ServiceService.create service
    return ()

def syncServices (hostId networkId : Uuid) (inputs : List ServiceInput) : Query Unit := do
  let existing ← ServiceService.getForHost hostId
  let inputs ← orFail (resolveAndValidateInputPositions ServiceInput.id ServiceInput.position
    (fun s p => { s with position := some p }) inputs (existing.map (fun s => (s.id, s.base.position))) "service")
  ServiceService.deleteMany ((existing.map Entity.id).filter
    (fun id => !(inputs.map ServiceInput.id).contains id))
  forEach (syncService existing hostId networkId)
    (inputs.filter (losesPorts existing) ++ inputs.filter (fun i => !losesPorts existing i))

def loadChildrenForHost (hostId : Uuid) : Query (List Interface × List Port × List Service) := do
  let interfaces ← ServiceService.interfacesForHost hostId
  let ports ← ServiceService.portsForHost hostId
  let services ← Storage.getAllOrdered .service (fun s : Service => s.base.hostId = hostId)
    (fun s : Service => s.base.position)
  if services.isEmpty then return (interfaces, ports, services)
  else
    let bindings ← Storage.getAll .binding
      (fun b : Binding => (services.map Entity.id).contains b.base.serviceId)
    return (interfaces, ports, services.map
      (fun s => ServiceService.withBindings (bindings.filter (fun b => b.base.serviceId = s.id)) s))

/-- `timestamp_micros` of two instants differ. -/
def modifiedSince (expected : Option Instant) (updatedAt : Instant) : Bool :=
  match expected with
  | none => false
  | some expected => updatedAt / 1000 ≠ expected / 1000

def requestedHost (request : UpdateHostRequest) (existing : Host) : Host :=
  ⟨request.id, existing.createdAt, existing.updatedAt, ⟨request.name, existing.base.networkId, request.hostname,
    request.description, existing.base.source, request.virtualization, request.hidden, request.tags⟩⟩

def syncChildren (hostId networkId : Uuid) (request : UpdateHostRequest) :
    Query (List Interface × List Port × List Service) := do
  syncInterfaces hostId networkId request.interfaces
  syncPorts hostId networkId request.ports
  syncServices hostId networkId request.services
  loadChildrenForHost hostId

def updateFromRequest (request : UpdateHostRequest) : Query HostResponse := do
  match ← Storage.getById .host request.id with
  | none => fail (.notFound .host request.id)
  | some existing =>
    if modifiedSince request.expectedUpdatedAt existing.updatedAt then fail (.hostModified request.id)
    else
      let updated ← update (requestedHost request existing)
      let (interfaces, ports, services) ← syncChildren updated.id existing.base.networkId request
      return ⟨updated, interfaces, ports, services⟩

end HostService

namespace BindingHandlers

def validateNoBindingTypeConflict (binding : Binding) (excludeId : Option Uuid) : Query Unit := do
  let existing ← Storage.getAll .binding (fun b : Binding => b.base.serviceId = binding.base.serviceId)
  match validateBindingNoConflict binding.base.bindingType
      (existing.filter (fun b => excludeId ≠ some b.id)) with
  | some message => fail (.bindingConflict message)
  | none => return ()

def removeSuperseded (binding : Binding) : Query Unit :=
  match binding.base.bindingType with
  | .port portId none => do
    let existing ← Storage.getAll .binding (fun b : Binding => b.base.serviceId = binding.base.serviceId)
    forEach (fun b : Binding => Crud.delete .binding b.id) (existing.filter (fun b =>
      match b.base.bindingType with
      | .port existingPort (some _) => existingPort = portId
      | _ => false))
  | _ => ret ()

def validateAccess (networkIds : List Uuid) (networkId : Uuid) : Except Error Unit :=
  if networkIds.contains networkId then .ok () else .error (.forbidden networkId)

def createBinding (networkIds : List Uuid) (binding : Binding) : Query Binding := do
  validateNoBindingTypeConflict binding none
  removeSuperseded binding
  orFail (validateAccess networkIds binding.base.networkId)
  Crud.create .binding binding

def updateBinding (networkIds : List Uuid) (id : Uuid) (binding : Binding) : Query Binding := do
  validateNoBindingTypeConflict binding (some id)
  match ← Storage.getById .binding id with
  | none => fail (.notFound .binding id)
  | some existing =>
    let entity : Binding := { binding with id := existing.id, createdAt := existing.createdAt }
    orFail (validateAccess networkIds existing.base.networkId)
    orFail (validateAccess networkIds entity.base.networkId)
    Crud.update .binding entity

def deleteBinding (networkIds : List Uuid) (id : Uuid) : Query Unit := do
  match ← Storage.getById .binding id with
  | none => fail (.notFound .binding id)
  | some existing =>
    orFail (validateAccess networkIds (existing : Binding).base.networkId)
    Crud.delete .binding id

def bulkDeleteBindings (networkIds : List Uuid) (ids : List Uuid) : Query Unit :=
  if ids.isEmpty then fail .noIds
  else do
    let entities ← Storage.getAll .binding (fun b : Binding => ids.contains b.id)
    forEach (fun b : Binding => orFail (validateAccess networkIds b.base.networkId)) entities
    Crud.deleteMany .binding (entities.map Entity.id)

end BindingHandlers

end VantageNet.Inventory
