import VantageNet.Daemons.Types
import VantageNet.Handlers.Crud

/-!
The endpoints of shares and the page that shows one of them: `shares/handlers.rs`, `shares/service.rs`
and `shares/impl`, with what they use of the generic handlers. Passwords are verified and addresses
taken apart by libraries.
-/

namespace VantageNet.Shares

open Interaction Interaction.Program
open Events (AuthenticatedEntity)
open Handlers (validateNetworkAccess validateOrganizationAccess)

structure ShareOptions where
  showInspectPanel : Bool
  showZoomControls : Bool
  showExportButton : Bool
  deriving DecidableEq

structure ShareBase where
  topologyId : Uuid
  networkId : Uuid
  createdBy : Uuid
  name : String
  isEnabled : Bool
  expiresAt : Option Instant
  passwordHash : Option String
  allowedDomains : Option (List String)
  options : ShareOptions
  deriving DecidableEq

abbrev Share := Inventory.Entity ShareBase

namespace Share

def isValid (share : Share) (now : Instant) : Bool := share.base.isEnabled && share.base.expiresAt.all (fun expiresAt => now ≤ expiresAt)

def requiresPassword (share : Share) : Bool := share.base.passwordHash.isSome

def hasDomainRestrictions (share : Share) : Bool := share.base.allowedDomains.any (fun domains => !domains.isEmpty)

def withPassword (share : Share) (passwordHash : Option String) : Share := { share with base := { share.base with passwordHash } }

/-- What a request carries: the hash is never read from it. -/
def received (share : Share) : Share := share.withPassword none

end Share

/-- A row of the topologies, with its other fields as they are shown. -/
structure Topology where
  id : Uuid
  networkId : Uuid
  value : String
  deriving DecidableEq

structure PublicShareMetadata where
  id : Uuid
  name : String
  requiresPassword : Bool
  options : ShareOptions

def PublicShareMetadata.from (share : Share) : PublicShareMetadata := ⟨share.id, share.base.name, share.requiresPassword, share.base.options⟩

structure ShareWithTopology where
  share : PublicShareMetadata
  topology : Topology
  cacheControl : String
  contentSecurityPolicy : String

inductive Failure where
  | api (cause : Handlers.Failure)
  | notFound (message : String)
  | paymentRequired (message : String)

structure Db where
  shares : Table Share (fun a b => a.id ≠ b.id)
  topologies : List Topology

namespace Db

def share (s : Db) (id : Uuid) : Option Share := s.shares.rows.find? (fun share => share.id = id)

def topology (s : Db) (id : Uuid) : Option Topology := s.topologies.find? (fun topology => topology.id = id)

def insert (s : Db) (row : Share) (h : ∀ share ∈ s.shares.rows, share.id ≠ row.id) : Db := { s with shares := s.shares.insert row h }

/-- The row in the place of the one with its id. -/
def put (s : Db) (row : Share) : Db :=
  { s with shares := ⟨s.shares.rows.map (fun share => if share.id = row.id then row else share),
      List.pairwise_map.mpr (s.shares.pairwise.imp (fun {a b} h => by split_ifs <;> simp_all))⟩ }

end Db

inductive ShareOp where
  | newV4
  | utcNow
  | hashPassword (password : String)
  | getShare (id : Uuid)
  | createShare (row : Share)
  | updateShare (row : Share)
  | publish (operation : Events.EntityOperation) (share : Share) (auth : AuthenticatedEntity)
  | networkOrganization (networkId : Uuid)
  | organizationPlan (organizationId : Uuid)
  | getTopology (id : Uuid)

@[reducible]
def ShareOp.Reply : ShareOp → Type
  | .newV4 => Uuid
  | .utcNow => Instant
  | .hashPassword _ => Except Failure String
  | .getShare _ => Except Failure (Option Share)
  | .createShare _ | .updateShare _ | .publish _ _ _ => Except Failure Unit
  | .networkOrganization _ => Except Failure (Option Uuid)
  | .organizationPlan _ => Except Failure (Option (Option Daemons.BillingPlan))
  | .getTopology _ => Except Failure (Option Topology)

abbrev shareSig : Signature := ⟨ShareOp, ShareOp.Reply⟩

def storageError : Failure := .api .storage

/-- A row needs its topology, and a new one an id of its own. -/
def shareStep : Handler shareSig Db
  | .getShare id, (a : Except Failure (Option Share)), s => (a.map (fun _ => s.share id), s)
  | .createShare _, .error e, s => (.error e, s)
  | .createShare row, .ok _, s =>
    if h : (s.topology row.base.topologyId).isSome ∧ ∀ share ∈ s.shares.rows, share.id ≠ row.id then (.ok (), s.insert row h.2)
    else (.error storageError, s)
  | .updateShare _, .error e, s => (.error e, s)
  | .updateShare row, .ok _, s =>
    if (s.topology row.base.topologyId).isSome then (.ok (), s.put row) else (.error storageError, s)
  | .getTopology id, (a : Except Failure (Option Topology)), s => (a.map (fun _ => s.topology id), s)
  | _, a, s => (a, s)

abbrev Task := Program shareSig Failure

section service

def newV4 : Task Uuid := .op .newV4 .ret
def utcNow : Task Instant := .op .utcNow .ret
def hashPassword (password : String) : Task String := .op (.hashPassword password) orFail
def getById (id : Uuid) : Task (Option Share) := .op (.getShare id) orFail
def publish (operation : Events.EntityOperation) (share : Share) (auth : AuthenticatedEntity) : Task Unit :=
  .op (.publish operation share auth) orFail

def found {α : Type} (message : String) : Option α → Task α
  | some a => ret a
  | none => fail (.notFound message)

def newShare (base : ShareBase) : Task Share := do
  let now ← utcNow
  let id ← newV4
  return ⟨id, now, now, base⟩

/-- The entity as it is entered: with an id of its own. -/
def identified (entity : Share) : Task Share := if entity.id = Uuid.nil then newShare entity.base else ret entity

namespace CrudService

def create (entity : Share) (authentication : AuthenticatedEntity) : Task Share := do
  let entity ← identified entity
  .op (.createShare entity) orFail
  publish .created entity authentication
  return entity

def update (entity : Share) (authentication : AuthenticatedEntity) : Task Share := do
  let _ ← (← getById entity.id) |> found "Could not find"
  let now ← utcNow
  let entity := { entity with updatedAt := now }
  .op (.updateShare entity) orFail
  publish .updated entity authentication
  return entity

end CrudService

end service

section handlers

def refuse {α : Type} (cause : Handlers.Failure) : Task α := fail (.api cause)

def checked (r : Except Handlers.Failure Unit) : Task Unit := orFail (r.mapError .api)

/-- `Authorized<Member>`. -/
def authorized (auth : AuthenticatedEntity) : Task Unit :=
  if auth.atLeast .member then ret () else refuse (.forbidden (Events.UserOrgPermissions.member.asStr ++ " permission required"))

def organizationContext (auth : AuthenticatedEntity) : Task Uuid :=
  match auth.organizationId with
  | some organizationId => ret organizationId
  | none => refuse (.forbidden "Organization context required")

def validateCreateAccess (networkId organizationId : Option Uuid) (userNetworkIds : List Uuid) (userOrganizationId : Uuid) :
    Except Handlers.Failure Unit := do
  validateNetworkAccess networkId userNetworkIds "create"
  validateOrganizationAccess organizationId userOrganizationId "create"

def validateUpdateAccess (existingNetworkId existingOrganizationId newNetworkId newOrganizationId : Option Uuid)
    (userNetworkIds : List Uuid) (userOrganizationId : Uuid) : Except Handlers.Failure Unit :=
  let refused := Handlers.Failure.unauthorized "You don't have access to this entity"
  if existingNetworkId.any (fun id => !userNetworkIds.contains id) then .error refused
  else if existingOrganizationId.any (fun id => id ≠ userOrganizationId) then .error refused
  else if newNetworkId.any (fun id => !userNetworkIds.contains id) then
    .error (.unauthorized "You can't move this entity to a network you don't have access to")
  else if newOrganizationId.any (fun id => id ≠ userOrganizationId) then
    .error (.unauthorized "You can't move this entity to a different organization")
  else .ok ()

/-- `get_network_id` of the service. -/
def getNetworkId (share : Share) : Option Uuid := some share.base.networkId

/-- `get_organization_id` of the service. -/
def getOrganizationId (_ : Share) : Option Uuid := none

def createHandler (auth : AuthenticatedEntity) (entity : Share) : Task Share := do
  let organizationId ← organizationContext auth
  checked (validateCreateAccess (getNetworkId entity) (getOrganizationId entity) auth.networkIds organizationId)
  CrudService.create entity auth

def updateHandler (auth : AuthenticatedEntity) (id : Uuid) (entity : Share) : Task Share := do
  let organizationId ← organizationContext auth
  let existing ← (← getById id) |> found "not found"
  let entity := { entity with id := existing.id, createdAt := existing.createdAt }
  checked (validateUpdateAccess (getNetworkId existing) (getOrganizationId existing) (getNetworkId entity)
    (getOrganizationId entity) auth.networkIds organizationId)
  CrudService.update entity auth

/-- The hash of a password, where an empty one stands for none; `unset` without a password. -/
def passwordHash (unset : Option String) : Option String → Task (Option String)
  | none => ret unset
  | some password => if password = "" then ret none else (hashPassword password).bind (fun hash => ret (some hash))

def createShare (auth : AuthenticatedEntity) (share : Share) (password : Option String) : Task Share := do
  authorized auth
  let hash ← passwordHash none password
  let share := share.received.withPassword hash
  match auth.userId with
  | none => refuse (.forbidden "User context required")
  | some userId => createHandler auth { share with base := { share.base with createdBy := userId } }

def updateShare (auth : AuthenticatedEntity) (id : Uuid) (share : Share) (password : Option String) : Task Share := do
  authorized auth
  let existing ← (← getById id) |> found "Share not found"
  let hash ← passwordHash existing.base.passwordHash password
  updateHandler auth id (share.received.withPassword hash)

end handlers

section public_pages

/-- The libraries that verify a password and take an address apart. -/
structure Libraries where
  verifyPassword : String → String → Bool
  host : String → Option String

variable (L : Libraries)

def verifySharePassword (share : Share) (password : String) : Bool :=
  share.base.passwordHash.any (fun hash => L.verifyPassword password hash)

def matchesDomain (host domain : String) : Bool :=
  if domain.startsWith "*." then
    (domain.toList.drop 1).isSuffixOf host.toList || host.toList == domain.toList.drop 2
  else host == domain

def validateAllowedDomains (share : Share) (referer : Option String) : Bool :=
  match share.base.allowedDomains with
  | none => true
  | some [] => true
  | some allowed => (referer.bind L.host).any (fun host => allowed.any (matchesDomain host))

/-- `features().embeds`. -/
def embeds : Daemons.BillingPlan → Bool
  | .starter => false
  | _ => true

/-- `get_share_org_plan`. -/
def getShareOrgPlan (share : Share) : Task Daemons.BillingPlan := do
  let organizationId ← (← .op (.networkOrganization share.base.networkId) orFail) |> found "Network not found"
  let plan ← (← .op (.organizationPlan organizationId) orFail) |> found "Organization not found"
  return plan.getD .community

def frameAncestors (hasEmbedsFeature : Bool) (allowedDomains : Option (List String)) : String :=
  if hasEmbedsFeature then
    match allowedDomains with
    | none => "frame-ancestors *"
    | some [] => "frame-ancestors *"
    | some domains => "frame-ancestors " ++ " ".intercalate domains
  else "frame-ancestors 'none'"

def checkPassword (share : Share) (password : Option String) : Task Unit :=
  if share.requiresPassword then
    match password with
    | some password =>
      if verifySharePassword L share password then ret () else refuse (.unauthorized "Invalid password")
    | none => refuse (.unauthorized "Password required")
  else ret ()

def getShareTopology (id : Uuid) (embed : Bool) (referer password : Option String) : Task ShareWithTopology := do
  let share ← (← getById id) |> found "Share not found"
  let now ← utcNow
  when (!share.isValid now) (fail (.notFound "Share disabled or expired"))
  let plan ← getShareOrgPlan share
  let hasEmbedsFeature := embeds plan
  when (embed && !hasEmbedsFeature) (fail (.paymentRequired "Embed access requires a plan with embeds feature"))
  checkPassword L share password
  when (embed && share.hasDomainRestrictions && !validateAllowedDomains L share referer) (refuse (.forbidden "Domain not allowed"))
  let topology ← (← .op (.getTopology share.base.topologyId) orFail) |> found "Topology not found"
  return ⟨.from share, topology, "public, max-age=300", frameAncestors hasEmbedsFeature share.base.allowedDomains⟩

end public_pages

end VantageNet.Shares
