import VantageNet.Interaction.Embedding
import VantageNet.Inventory.Consolidation
import VantageNet.Shares.Handlers
import VantageNet.Subnets.Types

/-!
The endpoints that write interfaces or the subnets under them: `interfaces/handlers.rs`, the update
of a subnet in `subnets/handlers.rs`, the creation, the update and the consolidation of hosts in
`hosts/handlers.rs` with `hosts/impl/legacy.rs`, and what they use of `shared/handlers/traits.rs`
and `shared/validation.rs`. Texts of values, the report of the `validator` library and the registry
of service definitions are those of libraries.
-/

namespace VantageNet.Interfaces

open Interaction Interaction.Program
open Events (AuthenticatedEntity)
open Handlers (validateNetworkAccess validateReadAccess)
open Shares (validateCreateAccess validateUpdateAccess)
open Inventory (Entity Host HostBase Interface InterfaceBase InterfaceInput Port PortConfig Binding BindingType IpAddr
  MacAddress ServiceDefinition DbOp HostResponse CreateHostRequest UpdateHostRequest)
open Scanning (IpCidr)
open Subnets (Subnet)

/-- A text that is longer than the `validator` library is told to accept. -/
structure LengthError where
  field : String
  message : Option String
  max : ℕ
  value : String
  deriving DecidableEq

def exceeding (field : String) (message : Option String) (max : ℕ) : Option String → List LengthError
  | some value => if max < value.length then [⟨field, message, max, value⟩] else []
  | none => []

structure Libraries where
  uuid : Uuid → String
  ip : IpAddr → String
  cidr : IpCidr → String
  describe : List LengthError → String
  findById : String → Option ServiceDefinition
  defaultDefinition : ServiceDefinition

structure Tag where
  id : Uuid
  organizationId : Uuid
  deriving DecidableEq

inductive Failure where
  | api (cause : Handlers.Failure)
  | notFound (message : String)
  | couldNotFind (entityName : String) (id : Uuid)
  | inventory (cause : Inventory.Error)
  | internal (context : String) (cause : Failure)

/-- The tables behind the endpoints, where every interface refers to a subnet. -/
structure World where
  inventory : Inventory.Db
  subnets : Table Subnet (fun a b => a.id ≠ b.id)
  networks : List Uuid
  tags : List Tag
  located : ∀ i ∈ inventory.interfaces.rows, ∃ s ∈ subnets.rows, s.id = i.base.subnetId

inductive WorldOp where
  | inventory (o : DbOp)
  | utcNow
  | getSubnet (id : Uuid)
  | updateSubnet (row : Subnet)
  | getNetwork (id : Uuid)
  | getTag (id : Uuid)
  | iterate (ids : List Uuid)

@[reducible]
def WorldOp.Reply : WorldOp → Type
  | .inventory o => o.Reply
  | .utcNow => Instant
  | .getSubnet _ => Except Failure (Option Subnet)
  | .updateSubnet _ => Except Failure Unit
  | .getNetwork _ => Except Failure (Option Uuid)
  | .getTag _ => Except Failure (Option Tag)
  | .iterate _ => List Uuid

abbrev worldSig : Signature := ⟨WorldOp, WorldOp.Reply⟩

namespace World

def subnet (w : World) (id : Uuid) : Option Subnet := w.subnets.rows.find? (fun s => s.id = id)

/-- The row in the place of the one with its id. -/
def putSubnet (w : World) (row : Subnet) : World :=
  { w with
    subnets := ⟨w.subnets.rows.map (fun s => if s.id = row.id then row else s),
      List.pairwise_map.mpr (w.subnets.pairwise.imp (fun {a b} h => by split_ifs <;> simp_all))⟩
    located := fun i hi => by
      obtain ⟨s, hs, hid⟩ := w.located i hi
      refine ⟨_, List.mem_map_of_mem hs, ?_⟩
      split_ifs with h
      · exact h ▸ hid
      · exact hid }

/-- How the database answers to a row without a subnet. -/
def refused : (o : DbOp) → o.Reply → o.Reply
  | .create _ _, _ => .error .foreignKey
  | .update _ _, _ => .error .foreignKey
  | _, a => a

def dbStep (o : DbOp) (a : o.Reply) (w : World) : o.Reply × World :=
  if h : ∀ i ∈ (Inventory.dbStep o a w.inventory).2.interfaces.rows, ∃ s ∈ w.subnets.rows, s.id = i.base.subnetId then
    ((Inventory.dbStep o a w.inventory).1, { w with inventory := (Inventory.dbStep o a w.inventory).2, located := h })
  else (refused o a, w)

end World

/-- The answers to `iterate` are the ids without the doubles, in whatever order a hash set has them. -/
def worldStep : Handler worldSig World
  | .inventory o, a, w => w.dbStep o a
  | .getSubnet id, (a : Except Failure (Option Subnet)), w => (a.map (fun _ => w.subnet id), w)
  | .updateSubnet _, .error e, w => (.error e, w)
  | .updateSubnet row, .ok _, w => (.ok (), w.putSubnet row)
  | .getNetwork id, (a : Except Failure (Option Uuid)), w => (a.map (fun _ => w.networks.find? (fun n => n = id)), w)
  | .getTag id, (a : Except Failure (Option Tag)), w => (a.map (fun _ => w.tags.find? (fun t => t.id = id)), w)
  | .iterate ids, proposed, w => (arrange (fun _ => 0) ids.dedup proposed, w)
  | _, a, w => (a, w)

abbrev Task := Program worldSig Failure

def asInventory : Embedding Inventory.dbSig worldSig := ⟨WorldOp.inventory, fun _ r => r⟩

def inventory {α : Type} (p : Inventory.Query α) : Task α := p.embed asInventory .inventory

def utcNow : Task Instant := .op WorldOp.utcNow .ret
def getSubnet (id : Uuid) : Task (Option Subnet) := .op (WorldOp.getSubnet id) orFail
def getNetwork (id : Uuid) : Task (Option Uuid) := .op (WorldOp.getNetwork id) orFail
def getTag (id : Uuid) : Task (Option Tag) := .op (WorldOp.getTag id) orFail

def getHost (id : Uuid) : Task (Option Host) := inventory (Inventory.Storage.getById .host id)

def refuse {α : Type} (cause : Handlers.Failure) : Task α := fail (.api cause)

def checked (r : Except Handlers.Failure Unit) : Task Unit := orFail (r.mapError .api)

/-- `map_err` to an internal error. -/
def orInternal {α : Type} (context : String) (p : Task α) : Task α :=
  p.attempt.bind (fun r => orFail (r.mapError (Failure.internal context)))

section permissions

variable (auth : AuthenticatedEntity)

def memberRequired : String := Events.UserOrgPermissions.member.asStr ++ " permission required"

/-- `Authorized<Member>`. -/
def authorized : Task Unit := if auth.atLeast .member then ret () else refuse (.forbidden memberRequired)

/-- `Authorized<Or<Member, IsDaemon>>`. -/
def authorizedOrDaemon : Task Unit :=
  match auth with
  | .daemon _ _ _ => ret ()
  | _ =>
    if auth.atLeast .member then ret ()
    else refuse (.forbidden (memberRequired ++ " or " ++ "Daemon authentication required"))

def organizationContext : Task Uuid :=
  match auth.organizationId with
  | some organizationId => ret organizationId
  | none => refuse (.forbidden "Organization context required")

end permissions

section validation

variable (L : Libraries)

def validateTag (organizationId tagId : Uuid) : Task Unit := do
  match ← (getTag tagId).attempt with
  | .ok (some tag) =>
    if tag.organizationId ≠ organizationId then
      refuse (.badRequest ("Tag " ++ L.uuid tagId ++ " does not belong to this organization"))
    else ret ()
  | .ok none => refuse (.badRequest ("Tag " ++ L.uuid tagId ++ " not found"))
  | .error e => fail (.internal ("Failed to validate tag " ++ L.uuid tagId) e)

def validateAndDedupeTags (tags : List Uuid) (organizationId : Uuid) : Task (List Uuid) := do
  let uniqueTags ← .op (WorldOp.iterate tags) ret
  if uniqueTags.isEmpty then ret uniqueTags
  else do
    forEach (validateTag L organizationId) uniqueTags
    ret uniqueTags

def validateEntity (errors : List LengthError) (entityName : String) : Except Handlers.Failure Unit :=
  if errors.isEmpty then .ok () else .error (.badRequest (entityName ++ " validation failed: " ++ L.describe errors))

/-- `request.validate()`. -/
def validateRequest (errors : List LengthError) : Except Handlers.Failure Unit :=
  if errors.isEmpty then .ok () else .error (.badRequest (L.describe errors))

end validation

/-- What the generic endpoints know of an entity that belongs to a network. -/
structure CrudHandlers (T : Type) where
  entityName : String
  getById : Uuid → Task (Option T)
  update : T → Task T
  networkId : T → Uuid
  lengthErrors : T → List LengthError
  preserveImmutableFields : T → T → T
  tags : T → Option (List Uuid)
  setTags : T → List Uuid → T

def updateHandler {T : Type} (L : Libraries) (C : CrudHandlers T) (auth : AuthenticatedEntity) (id : Uuid) (entity : T) :
    Task T := do
  let organizationId ← organizationContext auth
  match ← orInternal "" (C.getById id) with
  | none => refuse (.notFound C.entityName id)
  | some existing =>
    let entity := C.preserveImmutableFields entity existing
    checked (validateEntity L (C.lengthErrors entity) C.entityName)
    checked (validateUpdateAccess (some (C.networkId existing)) none (some (C.networkId entity)) none auth.networkIds
      organizationId)
    match C.tags entity with
    | none => C.update entity
    | some tags => do
      let validated ← validateAndDedupeTags L tags organizationId
      C.update (C.setTags entity validated)

section interfaces

variable (L : Libraries) (auth : AuthenticatedEntity)

def interfaces : CrudHandlers Interface where
  entityName := "interfaces"
  getById id := inventory (Inventory.Storage.getById .interface id)
  update i := inventory (Inventory.Crud.update .interface i)
  networkId i := i.base.networkId
  lengthErrors _ := []
  preserveImmutableFields i existing := { i with id := existing.id, createdAt := existing.createdAt }
  tags _ := none
  setTags i _ := i

def hostConsistency (interface : Interface) : Option Host → Except Handlers.Failure Unit
  | some host =>
    if host.base.networkId ≠ interface.base.networkId then
      .error (.badRequest ("Host is on network " ++ L.uuid host.base.networkId ++
        ", interface can't be on a different network (" ++ L.uuid interface.base.networkId ++ ")"))
    else .ok ()
  | none => .ok ()

def subnetConsistency (interface : Interface) : Option Subnet → Except Handlers.Failure Unit
  | some subnet =>
    if subnet.base.networkId ≠ interface.base.networkId then
      .error (.badRequest ("Subnet \"" ++ subnet.base.name ++ "\" is on network " ++ L.uuid subnet.base.networkId ++
        ", interface can't be on a different network (" ++ L.uuid interface.base.networkId ++ ")"))
    else if !subnet.base.cidr.contains interface.base.ipAddress then
      .error (.badRequest ("IP address " ++ L.ip interface.base.ipAddress ++ " is not within subnet \"" ++
        subnet.base.name ++ "\" CIDR range (" ++ L.cidr subnet.base.cidr ++ ")"))
    else .ok ()
  | none => .ok ()

def validateInterfaceConsistency (interface : Interface) : Task Unit := do
  let host ← getHost interface.base.hostId
  checked (hostConsistency L interface host)
  let subnet ← getSubnet interface.base.subnetId
  checked (subnetConsistency L interface subnet)

def getForHost (hostId : Uuid) : Task (List Interface) := inventory (Inventory.ServiceService.interfacesForHost hostId)

def getNextPositionForHost (hostId : Uuid) : Task ℤ := do
  let existing ← getForHost hostId
  ret existing.length

def positionForUpdate (interfaceId : Uuid) (allInterfaces : List Interface) (newPosition : ℤ) : Except Handlers.Failure Unit :=
  let maxPosition : ℤ := allInterfaces.length - 1
  if newPosition < 0 ∨ maxPosition < newPosition then
    .error (.badRequest ("Interface position " ++ toString newPosition ++ " is out of range. Valid positions are 0 to " ++
      toString maxPosition ++ "."))
  else if allInterfaces.any (fun i => i.id ≠ interfaceId && i.base.position = newPosition) then
    .error (.badRequest ("Interface position " ++ toString newPosition ++ " is already used by another interface."))
  else .ok ()

def validatePositionForUpdate (interfaceId hostId : Uuid) (newPosition : ℤ) : Task Unit := do
  let allInterfaces ← getForHost hostId
  checked (positionForUpdate interfaceId allInterfaces newPosition)

/-- `create_handler` for an interface, of which nothing has a length to check and which has no tags. -/
def createHandler (interface : Interface) : Task Interface := do
  let organizationId ← organizationContext auth
  checked (validateCreateAccess (some interface.base.networkId) none auth.networkIds organizationId)
  inventory (Inventory.Crud.create .interface interface)

def createInterface (interface : Interface) : Task Interface := do
  authorized auth
  validateInterfaceConsistency L interface
  let position ← orInternal "" (getNextPositionForHost interface.base.hostId)
  createHandler auth { interface with base := { interface.base with position } }

def updateInterface (id : Uuid) (interface : Interface) : Task Interface := do
  authorized auth
  validateInterfaceConsistency L interface
  validatePositionForUpdate id interface.base.hostId interface.base.position
  updateHandler L interfaces auth id interface

end interfaces

section subnets

variable (L : Libraries) (auth : AuthenticatedEntity)

/-- `CrudService::update`. -/
def storeSubnet (subnet : Subnet) : Task Subnet := do
  match ← getSubnet subnet.id with
  | none => fail (.couldNotFind "subnets" subnet.id)
  | some _ =>
    let now ← utcNow
    let updated := { subnet with updatedAt := now }
    .op (WorldOp.updateSubnet updated) (fun r => (orFail r : Task Unit).bind (fun _ => ret updated))

def subnets : CrudHandlers Subnet where
  entityName := "subnets"
  getById := getSubnet
  update := storeSubnet
  networkId s := s.base.networkId
  lengthErrors s := exceeding "name" none 100 (some s.base.name) ++ exceeding "description" none 500 s.base.description
  preserveImmutableFields s existing :=
    { s with id := existing.id, createdAt := existing.createdAt, base := { s.base with source := existing.base.source } }
  tags s := some s.base.tags
  setTags s tags := { s with base := { s.base with tags } }

def withinNewRange (subnet : Subnet) (interface : Interface) : Except Handlers.Failure Unit :=
  if !subnet.base.cidr.contains interface.base.ipAddress then
    .error (.badRequest ("Cannot change CIDR to " ++ L.cidr subnet.base.cidr ++ ": interface \"" ++
      interface.base.name.getD "unnamed" ++ "\" has IP " ++ L.ip interface.base.ipAddress ++
      " which would be outside the new range"))
  else .ok ()

def validateNewRange (id : Uuid) (subnet : Subnet) : Task Unit := do
  let interfaces ← orInternal "" (inventory (Inventory.Storage.getAll .interface (fun i : Interface => i.base.subnetId = id)))
  forEach (fun i => checked (withinNewRange L subnet i)) interfaces

def updateSubnet (id : Uuid) (subnet : Subnet) : Task Subnet := do
  authorized auth
  match ← orInternal "" (getSubnet id) with
  | none => fail (.notFound ("Subnet " ++ L.uuid id ++ " not found"))
  | some current => do
    when (current.base.cidr ≠ subnet.base.cidr) (validateNewRange L id subnet)
    updateHandler L subnets auth id subnet

end subnets

end VantageNet.Interfaces
