import VantageNet.Accounts.Database

/-!
`shared/validation.rs`, the parts of `shared/services/traits.rs` and `shared/handlers/traits.rs`
that the endpoints of users go through, `users/service.rs` and `users/handlers.rs`.
-/

namespace VantageNet.Accounts

open Inventory Interaction Interaction.Program
open Events hiding Entity

section validation

/-- The checks of `validate_delete_access` and `validate_bulk_delete_access`, which differ in their message. -/
def validateAccess (message : String) (networkId organizationId : Option Uuid) (userNetworkIds : List Uuid)
    (userOrganizationId : Uuid) : Except ApiError Unit :=
  if networkId.any (fun id => !userNetworkIds.contains id) then .error (.unauthorized message)
  else if organizationId.any (fun id => id ≠ userOrganizationId) then .error (.unauthorized message)
  else .ok ()

def validateDeleteAccess := validateAccess "You don't have access to delete this entity"

def validateBulkDeleteAccess := validateAccess "You don't have access to delete one or more of these entities"

end validation

namespace Crud

def update (k : Kind) (entity : Row k) : Request (Row k) := do
  match ← Storage.getById k entity.id with
  | none => fail (.internal "Could not find")
  | some _ => Storage.update k entity

def delete (k : Kind) (id : Uuid) : Request Unit := do
  match ← Storage.getById k id with
  | none => fail (.internal "not found")
  | some _ => Storage.deleteWhere k (fun r => r.id = id)

def deleteMany (k : Kind) (ids : List Uuid) : Request Unit :=
  if ids.isEmpty then ret ()
  else do
    forEach (fun id => (Storage.getById k id).bind (fun _ => ret ())) ids
    Storage.deleteWhere k (fun r => ids.contains r.id)

end Crud

namespace UserService

def getOrganizationOwners (organizationId : Uuid) : Request (List User) :=
  Storage.getAll .user (fun u : User => u.owns organizationId)

def addAccess (userId networkId : Uuid) : Request Unit := do
  let id ← Storage.newV4
  let now ← Storage.utcNow
  let _ ← Storage.create .access (⟨id, now, now, ⟨userId, networkId⟩⟩ : UserNetworkAccess)

/-- `UserNetworkAccessStorage::save_for_user`. -/
def setNetworkIds (userId : Uuid) (networkIds : List Uuid) : Request Unit := do
  Storage.deleteWhere .access (fun a : UserNetworkAccess => a.base.userId = userId)
  forEach (addAccess userId) networkIds

/-- `CrudService::create`, where `User::new` takes an id and a time of its own. -/
def create (base : UserBase) : Request User := do
  match (← Storage.getAll .user (fun u : User => u.base.email = base.email)).head? with
  | some _ => fail (.internal "User with email already exists")
  | none =>
    let id ← Storage.newV4
    let now ← Storage.utcNow
    let created ← Storage.create .user (⟨id, now, now, base⟩ : User)
    when (!base.networkIds.isEmpty) (setNetworkIds created.id base.networkIds)
    return created

end UserService

/-- `delete_handler::<User>`, for a caller of the organization. -/
def deleteHandler (auth : AuthenticatedEntity) (organizationId id : Uuid) : Request Unit := do
  match ← Storage.getById .user id with
  | none => fail (.notFound "users" id)
  | some (entity : User) =>
    orFail (validateDeleteAccess none (some entity.base.organizationId) auth.networkIds organizationId)
    Crud.delete .user id

/-- `bulk_delete_handler::<User>`. -/
def bulkDeleteHandler (auth : AuthenticatedEntity) (organizationId : Uuid) (ids : List Uuid) : Request Unit :=
  if ids.isEmpty then fail (.badRequest "No IDs provided for bulk delete")
  else do
    let entities : List User ← Storage.getAll .user (fun u => ids.contains u.id)
    forEach (fun e : User =>
      orFail (validateBulkDeleteAccess none (some e.base.organizationId) auth.networkIds organizationId)) entities
    Crud.deleteMany .user (entities.map Entity.id)

/-- The extractor `Authorized<P>` and what the handler reads of the entity first. -/
def authorized {α : Type} (allowed : AuthenticatedEntity → Bool) (description : String) (auth : AuthenticatedEntity)
    (field : AuthenticatedEntity → Option α) (missing : String) : Request α :=
  if allowed auth then
    match field auth with
    | none => fail (.forbidden missing)
    | some a => ret a
  else fail (.forbidden description)

abbrev Admin : AuthenticatedEntity → Bool := AuthenticatedEntity.atLeast .admin

def permissionsOf (auth : AuthenticatedEntity) : Request UserOrgPermissions :=
  match auth.permissions with
  | some permissions => ret permissions
  | none => fail (.forbidden "User or API key required")

def deleteUser (auth : AuthenticatedEntity) (id : Uuid) : Request Unit := do
  let organizationId ← authorized Admin "Admin permission required" auth AuthenticatedEntity.organizationId
    "Organization context required"
  let permissions ← permissionsOf auth
  match ← Storage.getById .user id with
  | none => fail (.internal "User does not exist")
  | some (user : User) =>
    if permissions < user.base.permissions then
      fail (.unauthorized "You can only delete users with lower permissions than you")
    else do
      let owners ← UserService.getOrganizationOwners organizationId
      if user.base.permissions = .owner && owners.length = 1 then
        fail (.conflict "Can't delete the only owner in an organization.")
      else deleteHandler auth organizationId id

def bulkDeleteUsers (auth : AuthenticatedEntity) (ids : List Uuid) : Request Unit := do
  let organizationId ← authorized Admin "Admin permission required" auth AuthenticatedEntity.organizationId
    "Organization context required"
  let permissions ← permissionsOf auth
  let users : List User ← Storage.getAll .user (fun u => ids.contains u.id)
  if users.any (fun u => permissions < u.base.permissions) then
    fail (.unauthorized "You can only delete users with lower permissions than you")
  else do
    let owners ← UserService.getOrganizationOwners organizationId
    if owners.all (fun o => users.contains o) then
      fail (.unauthorized "Can't delete all of an organization's owners")
    else bulkDeleteHandler auth organizationId ids

/-- The fields that no update changes. -/
def preserving (request existing : User) : User :=
  { request with base := { request.base with
    email := existing.base.email
    passwordHash := existing.base.passwordHash
    oidcProvider := existing.base.oidcProvider
    oidcSubject := existing.base.oidcSubject
    oidcLinkedAt := existing.base.oidcLinkedAt } }

def updateUser (auth : AuthenticatedEntity) (id : Uuid) (request : User) : Request User := do
  let userId ← authorized AuthenticatedEntity.isUser "User session required" auth AuthenticatedEntity.userId
    "User ID required"
  if userId ≠ id then fail (.unauthorized "You can only update your own user record")
  else
    match ← Storage.getById .user id with
    | none => fail (.notFound "User" id)
    | some (existing : User) =>
      if request.base.organizationId ≠ existing.base.organizationId then
        fail (.forbidden "You cannot change your organization")
      else if request.base.permissions ≠ existing.base.permissions then
        fail (.forbidden "You cannot change your own permissions")
      else Crud.update .user (preserving request existing)

def adminUpdateUser (auth : AuthenticatedEntity) (id : Uuid) (request : User) : Request User := do
  let adminUserId ← authorized Admin "Admin permission required" auth AuthenticatedEntity.userId "User context required"
  let adminPermissions ← permissionsOf auth
  match ← Storage.getById .user id with
  | none => fail (.notFound "User" id)
  | some (existing : User) =>
    if adminUserId = id then fail (.forbidden "Use the regular update endpoint to edit your own user")
    else if adminPermissions ≤ existing.base.permissions then
      fail (.forbidden "You can only edit users with lower permissions than you")
    else if adminPermissions ≠ .owner && adminPermissions ≤ request.base.permissions then
      fail (.forbidden "You cannot promote a user to your permission level or higher")
    else if request.base.organizationId ≠ existing.base.organizationId then
      fail (.forbidden "You cannot change a user's organization")
    else do
      let networkIds := request.base.networkIds
      let updated ← Crud.update .user (preserving request existing)
      UserService.setNetworkIds id networkIds
      return updated

section monitored

variable {A α : Type} {M : Monitor accountSig A} {a : A}

theorem follows_authorized {allowed : AuthenticatedEntity → Bool} {description missing : String}
    {auth : AuthenticatedEntity} {field : AuthenticatedEntity → Option α} :
    Follows M (fun x b => b = a ∧ field auth = some x) a (authorized allowed description auth field missing) := by
  unfold authorized
  split_ifs
  · cases hfield : field auth with
    | none => trivial
    | some x => exact ⟨rfl, rfl⟩
  · trivial

theorem follows_permissionsOf (auth : AuthenticatedEntity) :
    Follows M (fun x b => b = a ∧ auth.permissions = some x) a (permissionsOf auth) := by
  unfold permissionsOf
  cases auth.permissions with
  | none => trivial
  | some x => exact ⟨rfl, rfl⟩

end monitored

end VantageNet.Accounts
