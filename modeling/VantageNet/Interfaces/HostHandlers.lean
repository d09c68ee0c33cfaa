import VantageNet.Interfaces.Legacy

/-!
The endpoints for hosts: `hosts/handlers.rs`, and the requests that a server answers one after another.
-/

namespace VantageNet.Interfaces

open Interaction Interaction.Program
open Events (AuthenticatedEntity)
open Handlers (validateNetworkAccess validateReadAccess)
open Inventory (Host Interface InterfaceInput HostResponse CreateHostRequest UpdateHostRequest)
open Subnets (Subnet)

inductive HostCreateRequestBody where
  | new (request : CreateHostRequest)
  | legacy (request : LegacyHostWithServicesRequest)
  deriving DecidableEq

inductive HostCreateResponse where
  | new (response : HostResponse)
  | legacy (response : LegacyHostWithServicesResponse)

section creation

variable (L : Libraries) (auth : AuthenticatedEntity)

/-- The lengths that requests for a host check. -/
def hostLengthErrors (name : String) (description : Option String) : List LengthError :=
  exceeding "name" (some "Name must be 100 characters or less") 100 (some name) ++
    exceeding "description" (some "Description must be 500 characters or less") 500 description

def subnetOnNetwork (networkId : Uuid) : Option Subnet → Except Handlers.Failure Unit
  | some subnet =>
    if subnet.base.networkId ≠ networkId then
      .error (.badRequest ("Host is on network " ++ L.uuid networkId ++ ", cannot have an interface with a subnet \"" ++
        subnet.base.name ++ "\" which is on network " ++ L.uuid subnet.base.networkId ++ "."))
    else .ok ()
  | none => .ok ()

def validateInterfaceSubnet (networkId : Uuid) (interface : InterfaceInput) : Task Unit := do
  let subnet ← getSubnet interface.subnetId
  checked (subnetOnNetwork L networkId subnet)

/-- Tags are for users: the ones that others send are taken as they are. -/
def validateHostTags (tags : List Uuid) : Task (List Uuid) :=
  match auth with
  | .user _ organizationId _ _ _ => validateAndDedupeTags L tags organizationId
  | _ => ret tags

def createNewHost (request : CreateHostRequest) : Task HostResponse := do
  checked (validateRequest L (hostLengthErrors request.name request.description))
  checked (validateNetworkAccess (some request.networkId) auth.networkIds "create")
  match ← getNetwork request.networkId with
  | none => refuse (.badRequest ("Network " ++ L.uuid request.networkId ++ " not found"))
  | some _ => do
    forEach (validateInterfaceSubnet L request.networkId) request.interfaces
    let tags ← validateHostTags L auth request.tags
    inventory (Inventory.HostService.createFromRequest { request with tags })

def createLegacyHost (request : LegacyHostWithServicesRequest) : Task LegacyHostWithServicesResponse := do
  let discovery ← request.intoDiscoveryRequest L
  checked (validateNetworkAccess (some discovery.host.base.networkId) auth.networkIds "create")
  let response ← inventory
    (Inventory.HostService.discoverHost discovery.host discovery.interfaces discovery.ports discovery.services)
  ret (.fromHostResponse response)

def createHost (request : HostCreateRequestBody) : Task HostCreateResponse := do
  authorizedOrDaemon auth
  match request, auth with
  | .new request, _ => do
    let response ← createNewHost L auth request
    ret (.new response)
  | .legacy request, .daemon _ _ _ => do
    let response ← createLegacyHost L auth request
    ret (.legacy response)
  | .legacy _, _ => refuse (.badRequest "Invalid request format. Please use the CreateHostRequest format.")

end creation

section change

variable (L : Libraries) (auth : AuthenticatedEntity)

def updateHost (id : Uuid) (request : UpdateHostRequest) : Task HostResponse := do
  authorized auth
  let organizationId ← organizationContext auth
  checked (validateRequest L (hostLengthErrors request.name request.description))
  match ← getHost id with
  | none => fail (.notFound ("Host " ++ L.uuid id ++ " not found"))
  | some existing => do
    checked (validateReadAccess (some existing.base.networkId) none auth.networkIds organizationId)
    let tags ← validateAndDedupeTags L request.tags organizationId
    inventory (Inventory.HostService.updateFromRequest { request with id, tags })

variable (daemon : Uuid → Except Inventory.Error Bool)

def sameNetwork (destination other : Host) : Except Handlers.Failure Unit :=
  if destination.base.networkId ≠ other.base.networkId then
    .error (.badRequest ("Destination Host is on network " ++ L.uuid destination.base.networkId ++ ", other host \"" ++
      other.base.name ++ "\" can't be on a different network (" ++ L.uuid other.base.networkId ++ ")."))
  else .ok ()

def consolidateHosts (destinationHostId otherHostId : Uuid) : Task HostResponse := do
  authorized auth
  let organizationId ← organizationContext auth
  match ← getHost destinationHostId with
  | none => fail (.notFound ("Could not find destination host " ++ L.uuid destinationHostId))
  | some destination =>
    match ← getHost otherHostId with
    | none => fail (.notFound ("Could not find host to consolidate " ++ L.uuid otherHostId))
    | some other => do
      checked (validateReadAccess (some destination.base.networkId) none auth.networkIds organizationId)
      checked (validateReadAccess (some other.base.networkId) none auth.networkIds organizationId)
      checked (sameNetwork L destination other)
      inventory (Inventory.HostService.consolidateHosts daemon destination other)

end change

inductive Request where
  | createInterface (interface : Interface)
  | updateInterface (id : Uuid) (interface : Interface)
  | updateSubnet (id : Uuid) (subnet : Subnet)
  | createHost (request : HostCreateRequestBody)
  | updateHost (id : Uuid) (request : UpdateHostRequest)
  | consolidateHosts (destinationHostId otherHostId : Uuid)
  deriving DecidableEq

/-- A request with its caller, and what the environment and the daemon service answer while it is served. -/
structure Exchange where
  auth : AuthenticatedEntity
  request : Request
  answers : Oracle worldSig
  daemon : Uuid → Except Inventory.Error Bool

section serving

variable (L : Libraries)

/-- The task of a request, without what is shown of its result. -/
def serve (auth : AuthenticatedEntity) (daemon : Uuid → Except Inventory.Error Bool) : Request → Task Unit
  | .createInterface interface => (createInterface L auth interface).bind (fun _ => ret ())
  | .updateInterface id interface => (updateInterface L auth id interface).bind (fun _ => ret ())
  | .updateSubnet id subnet => (updateSubnet L auth id subnet).bind (fun _ => ret ())
  | .createHost request => (createHost L auth request).bind (fun _ => ret ())
  | .updateHost id request => (updateHost L auth id request).bind (fun _ => ret ())
  | .consolidateHosts destinationHostId otherHostId =>
    (consolidateHosts L auth daemon destinationHostId otherHostId).bind (fun _ => ret ())

def World.step (w : World) (x : Exchange) : World := (run worldStep x.answers 0 (serve L x.auth x.daemon x.request) w).state

end serving

end VantageNet.Interfaces
