import VantageNet.Accounts.Permissions
import VantageNet.Handlers.Queries
import VantageNet.Interaction.Program
import VantageNet.Interaction.Table

/-!
The generic endpoints for listing entities, reading one and deleting many:
`shared/handlers/traits.rs` over `GenericPostgresStorage`, with the checks of `shared/validation.rs`.
-/

namespace VantageNet.Handlers

open Interaction Interaction.Program
open Events (AuthenticatedEntity UserOrgPermissions)
open Storage hiding params

/-- The entity types that one of the endpoints is made for. -/
inductive EntityType where
  | network
  | user
  | service
  | discovery
  | interface
  | daemon
  | daemonApiKey
  | host
  | subnet
  | topology
  | binding
  | port
  | share
  | userApiKey
  | group
  | tag
  deriving DecidableEq

/-- A row with the network or the organization that it is of, and its further columns. -/
structure Entity where
  id : Uuid
  createdAt : Instant
  owner : Uuid
  columns : List (String × Datum)
  deriving DecidableEq

def Entity.default : Entity := ⟨Uuid.nil, 0, Uuid.nil, []⟩

namespace EntityType

def tableName : EntityType → String
  | network => "networks"
  | user => "users"
  | service => "services"
  | discovery => "discovery"
  | interface => "interfaces"
  | daemon => "daemons"
  | daemonApiKey => "api_keys"
  | host => "hosts"
  | subnet => "subnets"
  | topology => "topologies"
  | binding => "bindings"
  | port => "ports"
  | share => "shares"
  | userApiKey => "user_api_keys"
  | group => "groups"
  | tag => "tags"

/-- `StorableEntity::network_id`. -/
def networkId : EntityType → Entity → Option Uuid
  | network, _ | user, _ | userApiKey, _ | tag, _ => none
  | _, e => some e.owner

/-- `StorableEntity::organization_id`. -/
def organizationId : EntityType → Entity → Option Uuid
  | network, e | user, e | userApiKey, e | tag, e => some e.owner
  | _, _ => none

def isNetworkKeyed (T : EntityType) : Bool := (T.networkId .default).isSome

/-- `get_network_id` of the service. -/
def getNetworkId : EntityType → Entity → Option Uuid
  | network, _ | user, _ | userApiKey, _ | tag, _ => none
  | _, e => some e.owner

/-- `get_organization_id` of the service, which the one for tags leaves out. -/
def getOrganizationId : EntityType → Entity → Option Uuid
  | network, e | user, e | userApiKey, e => some e.owner
  | _, _ => none

def FilterQuery : EntityType → Type
  | network | user | userApiKey | tag => NoFilterQuery
  | service | daemon | port => HostChildQuery
  | discovery => DiscoveryQuery
  | interface => InterfaceQuery
  | binding => BindingQuery
  | share => SharesQuery
  | daemonApiKey | host | subnet | topology | group => NetworkFilterQuery

instance : (T : EntityType) → FilterQueryExtractor T.FilterQuery
  | network | user | userApiKey | tag => inferInstanceAs (FilterQueryExtractor NoFilterQuery)
  | service | daemon | port => inferInstanceAs (FilterQueryExtractor HostChildQuery)
  | discovery => inferInstanceAs (FilterQueryExtractor DiscoveryQuery)
  | interface => inferInstanceAs (FilterQueryExtractor InterfaceQuery)
  | binding => inferInstanceAs (FilterQueryExtractor BindingQuery)
  | share => inferInstanceAs (FilterQueryExtractor SharesQuery)
  | daemonApiKey | host | subnet | topology | group => inferInstanceAs (FilterQueryExtractor NetworkFilterQuery)

def ownerColumn (T : EntityType) : String := if T.isNetworkKeyed then "network_id" else "organization_id"

/-- The columns of a row of the table. -/
def row (T : EntityType) (e : Entity) : Columns := fun column =>
  if column = "id" then some (.uuid e.id)
  else if column = T.ownerColumn then some (.uuid e.owner)
  else if column = "created_at" then some (.timestamptz e.createdAt)
  else e.columns.lookup column

end EntityType

inductive Failure where
  | storage
  | forbidden (message : String)
  | unauthorized (message : String)
  | badRequest (message : String)
  | notFound (entityName : String) (id : Uuid)
  | internal (cause : Failure)
  deriving DecidableEq

section validation

def validateNetworkAccess (networkId : Option Uuid) (userNetworkIds : List Uuid) (action : String) : Except Failure Unit :=
  match networkId with
  | some networkId =>
    if userNetworkIds.contains networkId then .ok ()
    else .error (.unauthorized ("You aren't allowed to " ++ action ++ " entities on this network"))
  | none => .ok ()

def validateOrganizationAccess (entityOrganizationId : Option Uuid) (userOrganizationId : Uuid) (action : String) :
    Except Failure Unit :=
  match entityOrganizationId with
  | some organizationId =>
    if organizationId = userOrganizationId then .ok ()
    else .error (.unauthorized ("You aren't allowed to " ++ action ++ " entities for this organization"))
  | none => .ok ()

def validateReadAccess (networkId organizationId : Option Uuid) (userNetworkIds : List Uuid) (userOrganizationId : Uuid) :
    Except Failure Unit := do
  validateNetworkAccess networkId userNetworkIds "access"
  validateOrganizationAccess organizationId userOrganizationId "access"

def validateBulkDeleteAccess (networkId organizationId : Option Uuid) (userNetworkIds : List Uuid)
    (userOrganizationId : Uuid) : Except Failure Unit :=
  let refused := Failure.unauthorized "You don't have access to delete one or more of these entities"
  if networkId.any (fun id => !userNetworkIds.contains id) then .error refused
  else if organizationId.any (fun id => id ≠ userOrganizationId) then .error refused
  else .ok ()

end validation

/-- The tables, where no two rows have one id. -/
abbrev Db := EntityType → Table Entity (fun a b => a.id ≠ b.id)

/-- The rows for which the clause of the filter is true, if it can be read as a clause. -/
def selected (s : Db) (T : EntityType) (f : EntityFilter) : Except Failure (List Entity) :=
  match Sql.clause (Sql.lex f.toWhereClause) with
  | none => .error .storage
  | some conditions => .ok ((s T).rows.filter (fun e =>
      Sql.evalAll postgres (f.values.map SqlValue.bindValue) (T.row e) conditions = some true))

inductive CrudOp where
  | getAll (T : EntityType) (f : EntityFilter)
  | getOne (T : EntityType) (f : EntityFilter)
  | deleteMany (T : EntityType) (ids : List Uuid)
  | publishDeleted (T : EntityType) (entityId : Uuid) (networkId organizationId : Option Uuid) (auth : AuthenticatedEntity)

@[reducible]
def CrudOp.Reply : CrudOp → Type
  | .getAll _ _ => Except Failure (List Entity)
  | .getOne _ _ => Except Failure (Option Entity)
  | .deleteMany _ _ => Except Failure ℕ
  | .publishDeleted _ _ _ _ _ => Except Failure Unit

abbrev crudSig : Signature := ⟨CrudOp, CrudOp.Reply⟩

def Db.without (s : Db) (T : EntityType) (ids : List Uuid) : Db :=
  Function.update s T ((s T).filter (fun e => e.id ∉ ids))

/-- The rows of other tables that go with a deleted one are not rows that these endpoints answer with. -/
def crudStep : Handler crudSig Db
  | .getAll T f, (a : Except Failure (List Entity)), s =>
    (a.bind (fun proposed => (selected s T f).map (fun rows => arrange Entity.createdAt rows proposed)), s)
  | .getOne T f, (a : Except Failure (Option Entity)), s => (a.bind (fun _ => (selected s T f).map List.head?), s)
  | .deleteMany _ _, (.error e : Except Failure ℕ), s => (.error e, s)
  | .deleteMany T ids, (.ok _ : Except Failure ℕ), s =>
    (.ok ((s T).rows.countP (fun e => e.id ∈ ids)), s.without T ids)
  | .publishDeleted _ _ _ _ _, a, s => (a, s)

abbrev Task := Program crudSig Failure

namespace CrudService

def getAll (T : EntityType) (f : EntityFilter) : Task (List Entity) := .op (CrudOp.getAll T f) orFail

def getById (T : EntityType) (id : Uuid) : Task (Option Entity) :=
  .op (CrudOp.getOne T (EntityFilter.unfiltered.entityId id)) orFail

def deleteMany (T : EntityType) (ids : List Uuid) (auth : AuthenticatedEntity) : Task ℕ :=
  if ids.isEmpty then ret 0
  else do
    forEach (fun id => do
      match ← getById T id with
      | none => ret ()
      | some e => .op (CrudOp.publishDeleted T id (T.getNetworkId e) (T.getOrganizationId e) auth) orFail) ids
    .op (CrudOp.deleteMany T ids) orFail

end CrudService

/-- `map_err` to an internal error. -/
def orInternal {α : Type} (p : Task α) : Task α := p.attempt.bind (fun r => orFail (r.mapError Failure.internal))

structure BulkDeleteResponse where
  deletedCount : ℕ
  requestedCount : ℕ
  deriving DecidableEq

section handlers

variable (T : EntityType) (auth : AuthenticatedEntity)

/-- `Authorized<P>`. -/
def authorized (level : UserOrgPermissions) : Task Unit :=
  if auth.atLeast level then ret () else fail (.forbidden (level.asStr ++ " permission required"))

def organizationContext : Task Uuid :=
  match auth.organizationId with
  | some organizationId => ret organizationId
  | none => fail (.forbidden "Organization context required")

/-- The condition that a list starts from. -/
def baseFilter (networkIds : List Uuid) (organizationId : Uuid) : EntityFilter :=
  if T.isNetworkKeyed then EntityFilter.unfiltered.networkIds networkIds
  else if T.tableName = "networks" then EntityFilter.unfiltered.entityIds networkIds
  else EntityFilter.unfiltered.organizationId organizationId

def getAllHandler (query : T.FilterQuery) : Task (List Entity) := do
  authorized auth .viewer
  let organizationId ← organizationContext auth
  let filter := applyToFilter query (baseFilter T auth.networkIds organizationId) auth.networkIds organizationId
  orInternal (CrudService.getAll T filter)

def getByIdHandler (id : Uuid) : Task Entity := do
  authorized auth .viewer
  let organizationId ← organizationContext auth
  match ← orInternal (CrudService.getById T id) with
  | none => fail (.notFound T.tableName id)
  | some e =>
    orFail (validateReadAccess (T.getNetworkId e) (T.getOrganizationId e) auth.networkIds organizationId)
    ret e

def bulkDeleteHandler (ids : List Uuid) : Task BulkDeleteResponse := do
  authorized auth .member
  if ids.isEmpty then fail (.badRequest "No IDs provided for bulk delete")
  else
    let organizationId ← organizationContext auth
    let entities ← CrudService.getAll T (EntityFilter.unfiltered.entityIds ids)
    forEach (fun e =>
      orFail (validateBulkDeleteAccess (T.getNetworkId e) (T.getOrganizationId e) auth.networkIds organizationId)) entities
    let deletedCount ← CrudService.deleteMany T (entities.map Entity.id) auth
    ret ⟨deletedCount, ids.length⟩

end handlers

inductive Endpoint (T : EntityType) where
  | getAll (query : T.FilterQuery)
  | getById (id : Uuid)
  | bulkDelete (ids : List Uuid)

inductive Response where
  | entities (es : List Entity)
  | entity (e : Entity)
  | bulkDeleted (response : BulkDeleteResponse)
  deriving DecidableEq

def serve {T : EntityType} (auth : AuthenticatedEntity) : Endpoint T → Task Response
  | .getAll query => (getAllHandler T auth query).bind (fun es => ret (.entities es))
  | .getById id => (getByIdHandler T auth id).bind (fun e => ret (.entity e))
  | .bulkDelete ids => (bulkDeleteHandler T auth ids).bind (fun response => ret (.bulkDeleted response))

end VantageNet.Handlers
