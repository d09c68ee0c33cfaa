import VantageNet.Inventory.Database

/-!
The functions of `services/service.rs` and `bindings/handlers.rs` that look at nothing but
lists of bindings.
-/

namespace VantageNet.Inventory

def isBindingCoveredByExisting (new : Binding) (existing : List Binding) : Bool :=
  match new.base.bindingType with
  | .port portId (some _) => existing.any (fun e => e.base.bindingType = .port portId none)
  | _ => false

def interfaceBindingMessage : String :=
  "Cannot add interface binding: service already has a port binding on this interface (or on all interfaces)."

def portBindingMessage : String :=
  "Cannot add port binding: service already has an interface binding on this interface."

def allInterfacesBindingMessage : String :=
  "Cannot add port binding on all interfaces: service already has interface bindings."

def validateBindingNoConflict (new : BindingType) (existing : List Binding) : Option String :=
  match new with
  | .interface interfaceId =>
    if existing.any (fun e => match e.base.bindingType with
      | .port _ existingInterface => existingInterface = some interfaceId || existingInterface.isNone
      | .interface _ => false) then some interfaceBindingMessage
    else none
  | .port _ (some interfaceId) =>
    if existing.any (fun e => e.base.bindingType = .interface interfaceId) then some portBindingMessage
    else none
  | .port _ none =>
    if existing.any (fun e => match e.base.bindingType with
      | .interface _ => true
      | .port _ _ => false) then some allInterfacesBindingMessage
    else none

def allInterfacePortIds (bindings : List Binding) : List Uuid :=
  bindings.filterMap (fun b => match b.base.bindingType with
    | .port portId none => some portId
    | _ => none)

def superseded (allInterfaces : List Uuid) : BindingType → Bool
  | .port portId (some _) => allInterfaces.contains portId
  | _ => false

def deduplicateFrom (allInterfaces : List Uuid) (seen : List BindingType) : List Binding → List Binding
  | [] => []
  | binding :: rest =>
    if superseded allInterfaces binding.base.bindingType || seen.contains binding.base.bindingType then
      deduplicateFrom allInterfaces seen rest
    else binding :: deduplicateFrom allInterfaces (binding.base.bindingType :: seen) rest

def deduplicateBindings (bindings : List Binding) : List Binding :=
  deduplicateFrom (allInterfacePortIds bindings) [] bindings

def validateFrom (preceding : List Binding) : List Binding → Except Error Unit
  | [] => .ok ()
  | binding :: rest =>
    match validateBindingNoConflict binding.base.bindingType preceding with
    | some message => .error (.bindingConflict message)
    | none => validateFrom (preceding ++ [binding]) rest

def validateBindingsNoConflicts (bindings : List Binding) : Except Error Unit := validateFrom [] bindings

abbrev Claim := Uuid × Option Uuid

def BindingType.claim : BindingType → Option Claim
  | .interface _ => none
  | .port portId interfaceId => some (portId, interfaceId)

def claims (bindings : List Binding) : List Claim := bindings.filterMap (fun b => b.base.bindingType.claim)

def overlaps (a b : Claim) : Bool := a.1 = b.1 && (a.2.isNone || b.2.isNone || a.2 = b.2)

def claimed (taken : List Claim) (binding : Binding) : Bool :=
  match binding.base.bindingType.claim with
  | none => false
  | some claim => taken.any (overlaps claim)

/-- The `retain` of `upsert_service`: what a new all-interfaces binding leaves of the existing ones. -/
def retainOthers (existing : List Binding) : BindingType → List Binding
  | .port portId none => existing.filter (fun e => match e.base.bindingType with
    | .port existingPort existingInterface => !(existingInterface.isSome && existingPort = portId)
    | .interface _ => true)
  | _ => existing

/-- The body of the loop of `upsert_service` over the bindings of the new service. -/
def upsertBinding (existing : List Binding) (new : Binding) : List Binding :=
  if isBindingCoveredByExisting new existing then existing
  else
    match validateBindingNoConflict new.base.bindingType existing with
    | some _ => existing
    | none =>
      let kept := retainOthers existing new.base.bindingType
      if kept.any (fun e => e.base.bindingType = new.base.bindingType) then kept else kept ++ [new]

def upsertBindings (existing new : List Binding) : List Binding := new.foldl upsertBinding existing

def upsertSource : EntitySource → EntitySource → EntitySource
  | .discoveryWithMatch existingMetadata existingDetails, .discoveryWithMatch newMetadata newDetails =>
    if existingDetails.confidence.rank < newDetails.confidence.rank then
      .discoveryWithMatch (newMetadata ++ existingMetadata) newDetails
    else .discoveryWithMatch (newMetadata ++ existingMetadata) existingDetails
  | _, .discoveryWithMatch newMetadata newDetails => .discoveryWithMatch newMetadata newDetails
  | existing, _ => existing

def upsertedService (existing new : Service) : Service :=
  { existing with base := { existing.base with
    bindings := upsertBindings existing.base.bindings new.base.bindings
    virtualization := new.base.virtualization.or existing.base.virtualization
    source := upsertSource existing.base.source new.base.source } }

section reassign

variable (originalInterfaces updatedInterfaces : List Interface) (originalPorts updatedPorts : List Port)

def newInterface (original : Interface) : Option Interface :=
  updatedInterfaces.find? (fun i => Interface.eq i original)

def newPort (portId : Uuid) : Option Port :=
  (originalPorts.find? (fun p => p.id = portId)).bind
    (fun original => updatedPorts.find? (fun p => p.base.portType = original.base.portType))

def originalInterface (binding : BindingType) : Option Interface :=
  binding.interfaceId.bind (fun id => originalInterfaces.find? (fun i => i.id = id))

def reassignType (binding : BindingType) : Option BindingType :=
  match binding with
  | .interface _ =>
    ((originalInterface originalInterfaces binding).bind (newInterface updatedInterfaces)).map
      (fun i => .interface i.id)
  | .port portId _ =>
    (newPort originalPorts updatedPorts portId).map (fun port => .port port.id
      (((originalInterface originalInterfaces binding).bind (newInterface updatedInterfaces)).map (fun i => i.id)))

def reassignBinding (binding : Binding) : Option Binding :=
  (reassignType originalInterfaces updatedInterfaces originalPorts updatedPorts binding.base.bindingType).map
    (fun bindingType => { binding with base := { binding.base with bindingType } })

def reassignedService (updatedHost : Host) (service : Service) : Service :=
  { service with base := { service.base with
    bindings := service.base.bindings.filterMap
      (reassignBinding originalInterfaces updatedInterfaces originalPorts updatedPorts)
    hostId := updatedHost.id
    networkId := updatedHost.base.networkId } }

end reassign

end VantageNet.Inventory
