import VantageNet.Accounts.Types
import VantageNet.Interaction.Program
import VantageNet.Interaction.Table

/-!
The webhooks of the payment provider: `billing/service.rs`, with the plans of
`billing/types/base.rs` and the operations of the services that they call. What the
provider's library and the JSON and UUID parsers do is given by `Stripe`.
-/

namespace VantageNet.Billing

open Inventory (Entity)
open Accounts (User)
open Events (AuthenticatedEntity EntityEvent EntityOperation TelemetryEvent TelemetryOperation)
open Interaction Interaction.Program

inductive BillingRate where
  | month
  | year
  deriving DecidableEq

structure PlanConfig where
  baseCents : ℤ
  rate : BillingRate
  trialDays : ℕ
  seatCents : Option ℤ
  networkCents : Option ℤ
  includedSeats : Option ℕ
  includedNetworks : Option ℕ
  deriving DecidableEq

inductive BillingPlan where
  | community (config : PlanConfig)
  | starter (config : PlanConfig)
  | pro (config : PlanConfig)
  | team (config : PlanConfig)
  | business (config : PlanConfig)
  | enterprise (config : PlanConfig)
  | demo (config : PlanConfig)
  | commercialSelfHosted (config : PlanConfig)
  deriving DecidableEq

namespace BillingPlan

def config : BillingPlan → PlanConfig
  | .community config | .starter config | .pro config | .team config | .business config | .enterprise config
  | .demo config | .commercialSelfHosted config => config

def isCommercial : BillingPlan → Bool
  | .team _ | .business _ | .enterprise _ | .commercialSelfHosted _ | .demo _ => true
  | _ => false

def toString : BillingPlan → String
  | .community _ => "Community"
  | .starter _ => "Starter"
  | .pro _ => "Pro"
  | .team _ => "Team"
  | .business _ => "Business"
  | .enterprise _ => "Enterprise"
  | .demo _ => "Demo"
  | .commercialSelfHosted _ => "CommercialSelfHosted"

end BillingPlan

structure OrganizationBase where
  stripeCustomerId : Option String
  name : String
  plan : Option BillingPlan
  planStatus : Option String
  onboarding : List TelemetryOperation
  deriving DecidableEq

abbrev Organization := Entity OrganizationBase

def notOnboarded (organization : Organization) (step : TelemetryOperation) : Bool :=
  !organization.base.onboarding.contains step

structure NetworkBase where
  name : String
  organizationId : Uuid
  tags : List Uuid
  deriving DecidableEq

abbrev Network := Entity NetworkBase

structure Subscription (Status : Type) where
  status : Status
  metadata : String → Option String

inductive EventObject (Status : Type) where
  | customerSubscriptionCreated (sub : Subscription Status)
  | customerSubscriptionUpdated (sub : Subscription Status)
  | customerSubscriptionDeleted (sub : Subscription Status)
  | other

inductive EventType where
  | customerSubscriptionCreated
  | customerSubscriptionUpdated
  | customerSubscriptionPaused
  | customerSubscriptionDeleted
  | other
  deriving DecidableEq

structure StripeEvent (Status : Type) where
  created : Instant
  type : EventType
  object : EventObject Status

/-- What is not the repository's own. -/
structure Stripe where
  Status : Type
  canceled : Status
  statusToString : Status → String
  constructEvent : (payload signature webhookSecret : String) → Option (StripeEvent Status)
  planFromStr : String → Option BillingPlan
  parseUuid : String → Option Uuid

inductive Failure where
  | storage
  | webhook
  | json
  | uuid
  | message (text : String)
  | couldNotFind (id : Uuid)
  | notFound (tableName : String) (id : Uuid)
  deriving DecidableEq

structure PlanSelection where
  isOnboardingStep : Bool
  plan : String
  isCommercial : Bool
  deriving DecidableEq

inductive Payload where
  | organization (row : Organization)
  | network (row : Network)
  deriving DecidableEq

structure Metadata where
  triggerStale : Bool
  suppressLogs : Bool
  deriving DecidableEq

structure Db where
  organizations : Table Organization (fun a b => a.id ≠ b.id)
  networks : Table Network (fun a b => a.id ≠ b.id)
  invites : List (Uuid × Uuid)

inductive BillingOp where
  | newV4
  | utcNow
  | getOrganization (id : Uuid)
  | updateOrganization (row : Organization)
  | listOwners (organizationId : Uuid)
  | listNetworks (organizationId : Uuid)
  | getNetwork (id : Uuid)
  | deleteNetwork (id : Uuid)
  | listInvites (organizationId : Uuid)
  | deleteInvites (ids : List Uuid)
  | publish (event : EntityEvent Payload Metadata)
  | publishTelemetry (event : TelemetryEvent PlanSelection)

@[reducible]
def BillingOp.Reply : BillingOp → Type
  | .newV4 => Uuid
  | .utcNow => Instant
  | .getOrganization _ => Except Failure (Option Organization)
  | .listOwners _ => Except Failure (List User)
  | .listNetworks _ => Except Failure (List Network)
  | .getNetwork _ => Except Failure (Option Network)
  | .listInvites _ => Except Failure (List Uuid)
  | .updateOrganization _ | .deleteNetwork _ | .deleteInvites _ => Except Failure Unit
  | .publish _ | .publishTelemetry _ => Unit

abbrev billingSig : Signature := ⟨BillingOp, BillingOp.Reply⟩

namespace Db

/-- The row in the place of the one with its id. -/
def putOrganization (db : Db) (row : Organization) : Db :=
  { db with organizations := ⟨db.organizations.rows.map (fun o => if o.id = row.id then row else o),
      List.pairwise_map.mpr (db.organizations.pairwise.imp (fun {a b} h => by split_ifs <;> simp_all))⟩ }

def removeNetwork (db : Db) (id : Uuid) : Db := { db with networks := db.networks.filter (fun n => n.id ≠ id) }

def networksOf (db : Db) (organizationId : Uuid) : List Network :=
  db.networks.rows.filter (fun n => n.base.organizationId = organizationId)

end Db

def billingStep : Handler billingSig Db
  | .getOrganization id, (a : Except Failure (Option Organization)), db =>
    (a.map (fun _ => db.organizations.rows.find? (fun o => o.id = id)), db)
  | .updateOrganization _, .error e, db => (.error e, db)
  | .updateOrganization row, .ok _, db => (.ok (), db.putOrganization row)
  | .listNetworks organizationId, (a : Except Failure (List Network)), db =>
    (a.map (fun proposed => arrange (fun n => n.createdAt) (db.networksOf organizationId) proposed), db)
  | .getNetwork id, (a : Except Failure (Option Network)), db =>
    (a.map (fun _ => db.networks.rows.find? (fun n => n.id = id)), db)
  | .deleteNetwork _, .error e, db => (.error e, db)
  | .deleteNetwork id, .ok _, db => (.ok (), db.removeNetwork id)
  | .listInvites organizationId, (a : Except Failure (List Uuid)), db =>
    (a.map (fun _ => (db.invites.filter (fun i => i.2 = organizationId)).map Prod.fst), db)
  | .deleteInvites _, .error e, db => (.error e, db)
  | .deleteInvites ids, .ok _, db => (.ok (), { db with invites := db.invites.filter (fun i => i.1 ∉ ids) })
  | _, a, db => (a, db)

abbrev Task := Program billingSig Failure

def newV4 : Task Uuid := .op BillingOp.newV4 .ret
def utcNow : Task Instant := .op BillingOp.utcNow .ret
def publish (event : EntityEvent Payload Metadata) : Task Unit := .op (BillingOp.publish event) .ret
def publishTelemetry (event : TelemetryEvent PlanSelection) : Task Unit := .op (BillingOp.publishTelemetry event) .ret

namespace OrganizationService

def getById (id : Uuid) : Task (Option Organization) := .op (BillingOp.getOrganization id) orFail

/-- `CrudService::update`. -/
def update (organization : Organization) (authentication : AuthenticatedEntity) : Task Organization := do
  match ← getById organization.id with
  | none => fail (.couldNotFind organization.id)
  | some _ => do
    let updated := { organization with updatedAt := ← utcNow }
    .op (BillingOp.updateOrganization updated) (fun r => (orFail r : Task Unit).bind (fun _ => ret ()))
    let id ← newV4
    let now ← utcNow
    publish { id, entityId := updated.id, networkId := none, organizationId := some updated.id,
              entityType := ⟨.organization, .organization updated⟩, operation := .updated, timestamp := now,
              metadata := ⟨false, false⟩, authentication }
    ret updated

end OrganizationService

namespace NetworkService

def getAll (organizationId : Uuid) : Task (List Network) := .op (BillingOp.listNetworks organizationId) orFail

def getById (id : Uuid) : Task (Option Network) := .op (BillingOp.getNetwork id) orFail

/-- `CrudService::delete`. -/
def delete (networkId : Uuid) (authentication : AuthenticatedEntity) : Task Unit := do
  match ← getById networkId with
  | none => fail (.notFound "networks" networkId)
  | some network => do
    .op (BillingOp.deleteNetwork networkId) (fun r => (orFail r : Task Unit).bind (fun _ => ret ()))
    let id ← newV4
    let now ← utcNow
    publish { id, entityId := networkId, networkId := none, organizationId := some network.base.organizationId,
              entityType := ⟨.network, .network network⟩, operation := .deleted, timestamp := now,
              metadata := ⟨false, false⟩, authentication }

end NetworkService

def getOrganizationOwners (organizationId : Uuid) : Task (List User) := .op (BillingOp.listOwners organizationId) orFail

def revokeOrgInvites (organizationId : Uuid) : Task Unit := do
  let ids ← .op (BillingOp.listInvites organizationId) orFail
  when (!ids.isEmpty) (.op (BillingOp.deleteInvites ids) orFail)

/-- `From<User>`. -/
def authenticated (user : User) : AuthenticatedEntity :=
  .user user.id user.base.organizationId user.base.permissions [] user.base.email

/-- `usize::try_from` where a `usize` has 64 bits. -/
def toUsize (n : ℕ) : Option ℕ := if n < 2 ^ 64 then some n else none

namespace BillingService

variable (S : Stripe)

/-- The first time that the organization signs up for a plan. -/
def reportSelection (organization : Organization) (plan : BillingPlan) (owners : List User) : Task Unit :=
  match owners.head? with
  | none => ret ()
  | some owner =>
    when (organization.base.plan.isNone && notOnboarded organization .commercialPlanSelected &&
        notOnboarded organization .personalPlanSelected) (do
      let id ← newV4
      let now ← utcNow
      publishTelemetry ⟨id, organization.id, .planSelected, now, authenticated owner,
        ⟨true, plan.toString, plan.isCommercial⟩⟩)

/-- The networks that they cannot pay for are removed. -/
def removeExcess (orgId : Uuid) (plan : BillingPlan) : Task Unit :=
  match plan.config.includedNetworks, plan.config.networkCents with
  | some includedNetworks, none => do
    let networks ← NetworkService.getAll orgId
    let keepIds := (networks.take ((toUsize includedNetworks).getD 3)).map (fun n => n.id)
    forEach (fun network =>
      when (!keepIds.contains network.id) (NetworkService.delete network.id .system)) networks
  | _, _ => ret ()

def organizationId (sub : Subscription S.Status) : Task String :=
  match sub.metadata "organization_id" with
  | none => fail (.message "No organization_id in subscription metadata")
  | some orgId => ret orgId

def parsed (orgId : String) : Task Uuid :=
  match S.parseUuid orgId with
  | none => fail .uuid
  | some orgId => ret orgId

def planOf (sub : Subscription S.Status) : Task BillingPlan :=
  match sub.metadata "plan" with
  | none => fail (.message "No plan in subscription metadata")
  | some planStr =>
    match S.planFromStr planStr with
    | none => fail .json
    | some plan => ret plan

def setPlan (organization : Organization) (planStatus : String) (plan : Option BillingPlan) : Task Unit := do
  let _ ← OrganizationService.update
    { organization with base := { organization.base with planStatus := some planStatus, plan := plan } } .system
  ret ()

def handleSubscriptionUpdate (sub : Subscription S.Status) : Task Unit := do
  let orgId ← organizationId S sub
  let plan ← planOf S sub
  let orgId ← parsed S orgId
  match ← OrganizationService.getById orgId with
  | none => ret ()
  | some organization => do
    let owners ← getOrganizationOwners organization.id
    reportSelection organization plan owners
    removeExcess orgId plan
    setPlan organization (S.statusToString sub.status) (some plan)

def handleSubscriptionDeleted (sub : Subscription S.Status) : Task Unit := do
  let orgId ← organizationId S sub
  let orgId ← parsed S orgId
  match ← OrganizationService.getById orgId with
  | none => fail (.message "Could not find organization to update subscriptions status")
  | some organization => do
    revokeOrgInvites organization.id
    setPlan organization (S.statusToString S.canceled) none

def handleEvent (event : StripeEvent S.Status) : Task Unit :=
  match event.type with
  | .customerSubscriptionCreated | .customerSubscriptionUpdated =>
    match event.object with
    | .customerSubscriptionCreated sub | .customerSubscriptionUpdated sub => handleSubscriptionUpdate S sub
    | _ => ret ()
  | .customerSubscriptionPaused | .customerSubscriptionDeleted =>
    match event.object with
    | .customerSubscriptionDeleted sub => handleSubscriptionDeleted S sub
    | _ => ret ()
  | .other => ret ()

def handleWebhook (webhookSecret payload signature : String) : Task Unit :=
  match S.constructEvent payload signature webhookSecret with
  | none => fail .webhook
  | some event => handleEvent S event

end BillingService

end VantageNet.Billing
