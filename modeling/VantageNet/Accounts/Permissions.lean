import VantageNet.Events.Types

/-! `users/impl/permissions.rs` and who may call an endpoint: `auth/middleware/auth.rs`. -/

namespace VantageNet.Events

namespace UserOrgPermissions

def asStr : UserOrgPermissions → String
  | owner => "Owner"
  | admin => "Admin"
  | member => "Member"
  | viewer => "Viewer"

/-- `impl Ord for UserOrgPermissions`. -/
def rank : UserOrgPermissions → ℕ
  | owner => 4
  | admin => 3
  | member => 2
  | viewer => 1

instance : LinearOrder UserOrgPermissions :=
  LinearOrder.lift' rank (fun a b h => by cases a <;> cases b <;> first | rfl | cases h)

/-- `UserOrgPermissions::iter()`. -/
def all : List UserOrgPermissions := [owner, admin, member, viewer]

def grantableUserPermissions (self : UserOrgPermissions) : List UserOrgPermissions :=
  match self with
  | owner => all
  | admin => all.filter (fun p => p < self)
  | _ => []

def canGrantUserPermission (self target : UserOrgPermissions) : Bool := self.grantableUserPermissions.contains target

end UserOrgPermissions

namespace AuthenticatedEntity

def userId : AuthenticatedEntity → Option Uuid
  | user userId _ _ _ _ => some userId
  | apiKey _ userId _ _ _ => some userId
  | _ => none

def organizationId : AuthenticatedEntity → Option Uuid
  | user _ organizationId _ _ _ => some organizationId
  | apiKey _ _ organizationId _ _ => some organizationId
  | _ => none

def permissions : AuthenticatedEntity → Option UserOrgPermissions
  | user _ _ permissions _ _ => some permissions
  | apiKey _ _ _ permissions _ => some permissions
  | _ => none

def networkIds : AuthenticatedEntity → List Uuid
  | daemon networkId _ _ => [networkId]
  | user _ _ _ networkIds _ => networkIds
  | apiKey _ _ _ _ networkIds => networkIds
  | system => []
  | anonymous => []

def email : AuthenticatedEntity → Option String
  | user _ _ _ _ email => some email
  | _ => none

def isUser : AuthenticatedEntity → Bool
  | user _ _ _ _ _ => true
  | _ => false

/-- `Viewer`, `Member`, `Admin` and `Owner`: a user or an API key with this permission or a higher one. -/
def atLeast (level : UserOrgPermissions) (entity : AuthenticatedEntity) : Bool :=
  match entity.permissions with
  | some permissions => level ≤ permissions
  | none => false

end AuthenticatedEntity

end VantageNet.Events
