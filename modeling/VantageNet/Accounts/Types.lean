import VantageNet.Accounts.Permissions
import VantageNet.Inventory.Types

/-!
Users, the networks they have access to, the invites they send and what a session holds:
`users/impl/base.rs`, `users/impl/network_access.rs` and `invites/impl/base.rs`.
-/

namespace VantageNet.Accounts

open Inventory
open Events hiding Entity

structure UserBase where
  email : String
  organizationId : Uuid
  permissions : UserOrgPermissions
  passwordHash : Option String
  oidcProvider : Option String
  oidcSubject : Option String
  oidcLinkedAt : Option Instant
  networkIds : List Uuid
  termsAcceptedAt : Option Instant
  deriving DecidableEq

abbrev User := Entity UserBase

/-- The row of `users`, which has no column for the networks. -/
def User.row (user : User) : User := { user with base := { user.base with networkIds := [] } }

/-- `LOWER(email)`. -/
def User.emailKey (user : User) : List Char := user.base.email.toList.map Char.toLower

def User.owns (user : User) (organizationId : Uuid) : Bool :=
  user.base.organizationId = organizationId && user.base.permissions = .owner

structure UserNetworkAccessBase where
  userId : Uuid
  networkId : Uuid
  deriving DecidableEq

abbrev UserNetworkAccess := Entity UserNetworkAccessBase

structure InviteBase where
  organizationId : Uuid
  permissions : UserOrgPermissions
  networkIds : List Uuid
  url : String
  createdBy : Uuid
  expiresAt : Instant
  sendTo : Option String
  deriving DecidableEq

abbrev Invite := Entity InviteBase

def Invite.isValid (invite : Invite) (now : Instant) : Bool := now < invite.base.expiresAt

/-- What a browser's session holds. -/
structure Session where
  userId : Option Uuid
  pendingOrgInvite : Option Uuid
  pendingInviteId : Option Uuid
  pendingInvitePermissions : Option UserOrgPermissions
  pendingNetworkIds : Option (List Uuid)
  deriving DecidableEq

def Session.new : Session := ⟨none, none, none, none, none⟩

end VantageNet.Accounts
