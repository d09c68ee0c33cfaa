import VantageNet.Accounts.Users

/-!
`invites/service.rs`, `invites/handlers.rs` and the registrations of `auth/handlers.rs`,
`auth/service.rs` and `auth/oidc.rs`. A session is loaded when a request first asks for it
and saved with the response, unless that is a server error.
-/

namespace VantageNet.Accounts

open Inventory Interaction Interaction.Program
open Events hiding Entity

namespace InviteService

def getValidInvite (id : Uuid) : Request Invite := do
  match ← Storage.getById .invite id with
  | none => fail (.internal "Invalid or expired invite link")
  | some (invite : Invite) =>
    let now ← Storage.utcNow
    if invite.isValid now then return invite
    else fail (.internal "Invite link has expired or reached maximum uses")

def useInvite (id : Uuid) : Request Invite := do
  match ← Storage.getById .invite id with
  | none => fail (.internal "Invalid or expired invite link")
  | some (invite : Invite) =>
    let now ← Storage.utcNow
    if invite.isValid now then do
      Storage.deleteWhere .invite (fun i => i.id = id)
      return invite
    else fail (.internal "Invite link has expired")

def getOrgInvites (organizationId : Uuid) : Request (List Invite) :=
  Storage.getAll .invite (fun i : Invite => i.base.organizationId = organizationId)

end InviteService

structure CreateInviteRequest where
  expirationHours : Option ℤ
  permissions : UserOrgPermissions
  networkIds : List Uuid
  sendTo : Option String

/-- `unwrap_or_default`. -/
def orEmpty {α : Type} (p : Request (List α)) : Request (List α) :=
  p.attempt.bind (fun r => match r with
    | .ok xs => ret xs
    | .error _ => ret [])

def hour : Instant := 3600000000000

/-- `Invite::with_expiration`. -/
def Invite.withExpiration (id : Uuid) (now : Instant) (organizationId : Uuid) (url : String) (createdBy : Uuid)
    (expirationHours : ℤ) (permissions : UserOrgPermissions) (networkIds : List Uuid) (sendTo : Option String) : Invite :=
  ⟨id, now, now, ⟨organizationId, permissions, networkIds, url, createdBy, now + expirationHours * hour, sendTo⟩⟩

/-- The seats that a plan includes, where no more can be bought. -/
def checkSeats (seatLimit : Option ℕ) (organizationId : Uuid) : Request Unit :=
  match seatLimit with
  | none => ret ()
  | some max => do
    let members ← orEmpty (Storage.getAll .user (fun u : User => u.base.organizationId = organizationId))
    let pending ← orEmpty (InviteService.getOrgInvites organizationId)
    if max ≤ members.length + pending.length then fail (.seatLimit (members.length + pending.length) max) else ret ()

def checkSendTo (sendTo : Option String) : Request Unit :=
  match sendTo with
  | none => ret ()
  | some email => do
    let users : List User ← orEmpty (Storage.getAll .user (fun _ => true))
    if users.any (fun u => u.base.email = email) then
      fail (.badRequest "A user with this email already has an account. They must delete their account before joining a new organization.")
    else ret ()

def createInvite (publicUrl : String) (seatLimit : Option ℕ) (auth : AuthenticatedEntity) (request : CreateInviteRequest) :
    Request Invite := do
  let organizationId ← authorized Admin "Admin permission required" auth AuthenticatedEntity.organizationId
    "Organization context required"
  let userId ← authorized Admin "Admin permission required" auth AuthenticatedEntity.userId "User context required"
  let permissions ← permissionsOf auth
  if permissions < request.permissions then
    fail (.forbidden "Cannot create invite with higher permissions than your own")
  else if request.networkIds.any (fun id => !auth.networkIds.contains id) then
    fail (.forbidden "Cannot grant access to networks you don't have access to")
  else do
    checkSeats seatLimit organizationId
    checkSendTo request.sendTo
    let id ← Storage.newV4
    let now ← Storage.utcNow
    let invite := Invite.withExpiration id now organizationId publicUrl userId (request.expirationHours.getD 168)
      request.permissions request.networkIds request.sendTo
    Storage.create .invite invite

def revokeInvite (auth : AuthenticatedEntity) (id : Uuid) : Request Unit := do
  let organizationId ← authorized Admin "Admin permission required" auth AuthenticatedEntity.organizationId
    "Organization context required"
  let userId ← authorized Admin "Admin permission required" auth AuthenticatedEntity.userId "User context required"
  let permissions ← permissionsOf auth
  let invite ← InviteService.getValidInvite id
  if invite.base.organizationId ≠ organizationId then
    fail (.forbidden "Cannot revoke invites from other organizations")
  else if !(userId = invite.base.createdBy || invite.base.permissions < permissions || permissions = .owner) then
    fail (.forbidden "You can only revoke invites that you created or invites for users with lower permissions than you")
  else Crud.delete .invite id

/-- What a session says of the organization that its user is to join. -/
structure PendingInvite where
  organizationId : Uuid
  inviteId : Uuid
  permissions : UserOrgPermissions
  networkIds : List Uuid
  deriving DecidableEq

namespace Session

def pending (session : Session) : Option PendingInvite := do
  let organizationId ← session.pendingOrgInvite
  let inviteId ← session.pendingInviteId
  let permissions ← session.pendingInvitePermissions
  let networkIds ← session.pendingNetworkIds
  return ⟨organizationId, inviteId, permissions, networkIds⟩

def withPending (session : Session) (p : PendingInvite) : Session :=
  { session with
    pendingOrgInvite := some p.organizationId
    pendingInviteId := some p.inviteId
    pendingInvitePermissions := some p.permissions
    pendingNetworkIds := some p.networkIds }

def withoutPending (session : Session) : Session :=
  { session with
    pendingOrgInvite := none
    pendingInviteId := none
    pendingInvitePermissions := none
    pendingNetworkIds := none }

end Session

def loadSession (cookie : Uuid) : Request Session := .op (AccountOp.loadSession cookie) ret

def saveSession (cookie : Uuid) (session : Session) : Request Unit := .op (AccountOp.saveSession cookie session) ret

/-- A failure to mark the invite as used is only logged. -/
def processPendingInvite (session : Session) : Request (Option PendingInvite × Session) :=
  match session.pending with
  | none => ret (none, session)
  | some p => do
    let _ ← (InviteService.useInvite p.inviteId).attempt
    return (some p, session.withoutPending)

/-- Somebody who is logged in but in no organization joins at once. -/
def joinAtOnce (cookie userId : Uuid) (session : Session) : Request Unit := do
  let (pending, session) ← processPendingInvite session
  match pending with
  | none => saveSession cookie session
  | some p => do
    let joined ← (Storage.getById .user userId).attempt
    match joined with
    | .ok (some (user : User)) => do
      let user := { user with base := { user.base with
        organizationId := p.organizationId
        permissions := p.permissions
        networkIds := p.networkIds } }
      let _ ← (Crud.update .user user).attempt
      saveSession cookie session
    | _ => saveSession cookie session

def acceptInviteLink (cookie id : Uuid) : Request Unit := do
  let invite ← InviteService.getValidInvite id
  let session ← loadSession cookie
  let session := session.withPending ⟨invite.base.organizationId, id, invite.base.permissions, invite.base.networkIds⟩
  match session.userId with
  | none => saveSession cookie session
  | some userId => do
    let found ← (Storage.getById .user userId).attempt
    match found with
    | .ok (some _) => do
      let _ ← (Crud.delete .invite id).attempt
      saveSession cookie session
    | _ => joinAtOnce cookie userId session

/-- How somebody registers: with a password, or with an account of an identity provider. -/
inductive Registration where
  | password (email passwordHash : String)
  | oidc (email subject provider : String)

namespace Registration

def email : Registration → String
  | password email _ => email
  | oidc email _ _ => email

/-- Whether a user has this email address, or this account of the provider. -/
def taken : Registration → User → Bool
  | password email _, u => u.base.email = email
  | oidc _ subject _, u => u.base.oidcSubject = some subject && u.base.oidcProvider.isSome

/-- `UserBase::new_password` and `UserBase::new_oidc`. -/
def base (r : Registration) (now : Instant) (organizationId : Uuid) (permissions : UserOrgPermissions)
    (networkIds : List Uuid) (termsAcceptedAt : Option Instant) : UserBase :=
  match r with
  | password email passwordHash =>
    ⟨email, organizationId, permissions, some passwordHash, none, none, none, networkIds, termsAcceptedAt⟩
  | oidc email subject provider =>
    ⟨email, organizationId, permissions, none, some provider, some subject, some now, networkIds, termsAcceptedAt⟩

end Registration

/-- `AuthService::provision_user`, where a new organization has a new id. -/
def provisionUser (r : Registration) (pending : Option PendingInvite) (termsAcceptedAt : Option Instant) : Request User :=
  match pending with
  | some p => do
    let now ← Storage.utcNow
    UserService.create (r.base now p.organizationId p.permissions p.networkIds termsAcceptedAt)
  | none => do
    let organizationId ← Storage.newV4
    let now ← Storage.utcNow
    UserService.create (r.base now organizationId .owner [] termsAcceptedAt)

def registerUser (r : Registration) (pending : Option PendingInvite) (termsAcceptedAt : Option Instant) : Request User := do
  let users : List User ← Storage.getAll .user r.taken
  if !users.isEmpty then fail (.internal "Email address already taken")
  else provisionUser r pending termsAcceptedAt

/-- `register` and the registration flow of the OIDC callback, which redirects when it fails. -/
def register (cookie : Uuid) (r : Registration) (termsAcceptedAt : Option Instant) : Request Unit := do
  let session ← loadSession cookie
  let (pending, session) ← processPendingInvite session
  match ← (registerUser r pending termsAcceptedAt).attempt with
  | .ok user => saveSession cookie { session with userId := some user.id }
  | .error e =>
    match r with
    | .password _ _ => fail e
    | .oidc _ _ _ => saveSession cookie session

end VantageNet.Accounts
