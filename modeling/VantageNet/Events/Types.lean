import VantageNet.Inventory.Types

/-!
The events of `shared/events/types.rs` with their comparisons, and the filters of
`shared/events/bus.rs`. The record that a variant of `Entity` carries and the JSON values
of `metadata` are compared and passed on but never looked into: they are the parameters
`π` and `μ`. An `EmailAddress` stands for what it compares equal to.
-/

namespace VantageNet.Events

open Inventory (IpAddr)

inductive EntityDiscriminants where
  | organization
  | invite
  | share
  | network
  | daemonApiKey
  | userApiKey
  | user
  | tag
  | discovery
  | daemon
  | host
  | service
  | port
  | binding
  | interface
  | subnet
  | group
  | topology
  deriving DecidableEq

structure Entity (π : Type) where
  discriminant : EntityDiscriminants
  record : π
  deriving DecidableEq

inductive UserOrgPermissions where
  | owner
  | admin
  | member
  | viewer
  deriving DecidableEq

inductive AuthenticatedEntity where
  | user (userId organizationId : Uuid) (permissions : UserOrgPermissions) (networkIds : List Uuid) (email : String)
  | daemon (networkId apiKeyId daemonId : Uuid)
  | apiKey (apiKeyId userId organizationId : Uuid) (permissions : UserOrgPermissions) (networkIds : List Uuid)
  | system
  | anonymous
  deriving DecidableEq

inductive AuthOperation where
  | register
  | loginSuccess
  | loginFailed
  | passwordResetRequested
  | passwordResetCompleted
  | passwordChanged
  | emailVerified
  | sessionExpired
  | oidcLinked
  | oidcUnlinked
  | loggedOut
  | rotateKey
  | apiKeyAuthFailed
  deriving DecidableEq

inductive EntityOperation where
  | get
  | getAll
  | created
  | updated
  | deleted
  | discoveryStarted
  | discoveryCancelled
  deriving DecidableEq

inductive TelemetryOperation where
  | orgCreated
  | onboardingModalCompleted
  | planSelected
  | personalPlanSelected
  | commercialPlanSelected
  | firstApiKeyCreated
  | firstDaemonRegistered
  | firstTopologyRebuild
  deriving DecidableEq

structure EntityEvent (π μ : Type) where
  id : Uuid
  entityType : Entity π
  entityId : Uuid
  networkId : Option Uuid
  organizationId : Option Uuid
  operation : EntityOperation
  timestamp : Instant
  authentication : AuthenticatedEntity
  metadata : μ
  deriving DecidableEq

structure AuthEvent (μ : Type) where
  id : Uuid
  userId : Option Uuid
  organizationId : Option Uuid
  operation : AuthOperation
  timestamp : Instant
  ipAddress : IpAddr
  userAgent : Option String
  metadata : μ
  authentication : AuthenticatedEntity
  deriving DecidableEq

structure TelemetryEvent (μ : Type) where
  id : Uuid
  organizationId : Uuid
  operation : TelemetryOperation
  timestamp : Instant
  authentication : AuthenticatedEntity
  metadata : μ
  deriving DecidableEq

inductive Event (π μ : Type) where
  | entity (event : EntityEvent π μ)
  | auth (event : AuthEvent μ)
  | telemetry (event : TelemetryEvent μ)
  deriving DecidableEq

section comparison

variable {π μ : Type} [DecidableEq μ]

/-- `impl PartialEq for EntityEvent`. -/
def EntityEvent.eq (a b : EntityEvent π μ) : Bool :=
  a.entityId = b.entityId && a.networkId = b.networkId && a.organizationId = b.organizationId &&
    a.operation = b.operation && a.authentication = b.authentication && a.metadata = b.metadata

/-- `impl PartialEq for AuthEvent`. -/
def AuthEvent.eq (a b : AuthEvent μ) : Bool :=
  a.userId = b.userId && a.organizationId = b.organizationId && a.operation = b.operation &&
    a.ipAddress = b.ipAddress && a.userAgent = b.userAgent && a.metadata = b.metadata &&
    a.authentication = b.authentication

/-- `impl PartialEq for Event`, which has no arm for two telemetry events. -/
def Event.eq : Event π μ → Event π μ → Bool
  | .auth a, .auth b => a.eq b
  | .entity a, .entity b => a.eq b
  | _, _ => false

theorem Event.eq_symm (a b : Event π μ) : a.eq b = b.eq a := by
  cases a <;> cases b <;> simp [Event.eq, EntityEvent.eq, AuthEvent.eq, eq_comm]

theorem Event.eq_trans {a b c : Event π μ} (h : a.eq b = true) (h' : b.eq c = true) : a.eq c = true := by
  cases a <;> cases b <;> cases c <;> simp_all [Event.eq, EntityEvent.eq, AuthEvent.eq]

end comparison

structure EventFilter where
  entityOperations : Option (EntityDiscriminants → Option (Option (List EntityOperation)))
  authOperations : Option (List AuthOperation)
  telemetryOperations : Option (List TelemetryOperation)
  networkIds : Option (List Uuid)

namespace EventFilter

def all : EventFilter := ⟨none, none, none, none⟩

variable {π μ : Type} (filter : EventFilter)

def excludesNetwork (networkId : Option Uuid) : Bool :=
  match filter.networkIds, networkId with
  | some networks, some networkId => !networks.contains networkId
  | _, _ => false

def matchesEntity (event : EntityEvent π μ) : Bool :=
  if filter.excludesNetwork event.networkId then false
  else
    match filter.entityOperations with
    | none => true
    | some operations =>
      match operations event.entityType.discriminant with
      | some none => true
      | some (some operations) => operations.contains event.operation
      | none => false

def matchesAuth (event : AuthEvent μ) : Bool :=
  match filter.authOperations with
  | some operations => operations.contains event.operation
  | none => true

def matchesTelemetry (event : TelemetryEvent μ) : Bool :=
  match filter.telemetryOperations with
  | some operations => operations.contains event.operation
  | none => true

def matchesEvent : Event π μ → Bool
  | .entity event => filter.matchesEntity event
  | .auth event => filter.matchesAuth event
  | .telemetry event => filter.matchesTelemetry event

end EventFilter

end VantageNet.Events
