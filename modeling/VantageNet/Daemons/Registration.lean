import VantageNet.Accounts.Permissions
import VantageNet.Daemons.Types
import VantageNet.Discovery.Schedule
import VantageNet.Discovery.Sessions
import VantageNet.Interaction.Embedding
import VantageNet.Inventory.Hosts

/-!
The endpoint with which a daemon registers: `daemons/handlers.rs`. It enters a host, the
daemon and its discoveries through the services of the inventory and of discovery, whose
programs are parts of its own.
-/

namespace VantageNet.Daemons

open Interaction Interaction.Program
open Inventory (Entity Host HostBase)
open Events (AuthenticatedEntity TelemetryEvent TelemetryOperation)

variable {V : Semver}

structure Network where
  id : Uuid
  organizationId : Uuid

structure Organization where
  id : Uuid
  plan : Option BillingPlan
  onboarding : List TelemetryOperation

abbrev DaemonRows (V : Semver) := Table (Daemon V) (fun a b => a.id ≠ b.id)

structure World (V : Semver) where
  inventory : Inventory.Db
  discovery : Store
  daemons : DaemonRows V
  networks : List Network
  organizations : List Organization

inductive Failure where
  | storage
  | uniqueViolation
  | couldNotFind (daemonId : Uuid)
  | forbidden (message : String)
  | notFound (message : String)
  | internal (context : String) (cause : Failure)
  | inventory (cause : Inventory.Error)
  | discovery (cause : Error)

inductive WorldOp (V : Semver) where
  | inventory (o : Inventory.DbOp)
  | discovery (o : ServiceOp)
  | newV4
  | utcNow
  | getNetwork (id : Uuid)
  | getOrganization (id : Uuid)
  | organizationOwners (organizationId : Uuid)
  | getDaemon (id : Uuid)
  | createDaemon (row : Daemon V)
  | updateDaemon (row : Daemon V)
  | publish (operation : Events.EntityOperation) (daemon : Daemon V) (suppressLogs : Bool)
  | publishTelemetry (event : TelemetryEvent Bool)

@[reducible]
def WorldOp.Reply : WorldOp V → Type
  | .inventory o => o.Reply
  | .discovery o => o.Reply
  | .newV4 => Uuid
  | .utcNow => Instant
  | .getNetwork _ => Except Failure (Option Network)
  | .getOrganization _ => Except Failure (Option Organization)
  | .organizationOwners _ => Except Failure (List Uuid)
  | .getDaemon _ => Except Failure (Option (Daemon V))
  | .createDaemon _ | .updateDaemon _ => Except Failure Unit
  | .publish _ _ _ | .publishTelemetry _ => Unit

abbrev worldSig (V : Semver) : Signature := ⟨WorldOp V, WorldOp.Reply⟩

namespace World

def network (w : World V) (id : Uuid) : Option Network := w.networks.find? (fun n => n.id = id)

def organization (w : World V) (id : Uuid) : Option Organization := w.organizations.find? (fun o => o.id = id)

def daemon (w : World V) (id : Uuid) : Option (Daemon V) := w.daemons.rows.find? (fun d => d.id = id)

def insertDaemon (w : World V) (row : Daemon V) : Except Failure Unit → Except Failure Unit × World V
  | .error e => (.error e, w)
  | .ok _ =>
    if h : ∀ d ∈ w.daemons.rows, d.id ≠ row.id then (.ok (), { w with daemons := w.daemons.insert row h })
    else (.error .uniqueViolation, w)

/-- The row in the place of the one with its id. -/
def putDaemon (w : World V) (row : Daemon V) : World V :=
  { w with daemons := ⟨w.daemons.rows.map (fun d => if d.id = row.id then row else d),
      List.pairwise_map.mpr (w.daemons.pairwise.imp (fun {a b} h => by split_ifs <;> simp_all))⟩ }

end World

def worldStep : Handler (worldSig V) (World V)
  | .inventory o, r, w => ((Inventory.dbStep o r w.inventory).1, { w with inventory := (Inventory.dbStep o r w.inventory).2 })
  | .discovery o, r, w => ((serviceStep o r w.discovery).1, { w with discovery := (serviceStep o r w.discovery).2 })
  | .getNetwork id, (a : Except Failure (Option Network)), w => (a.map (fun _ => w.network id), w)
  | .getOrganization id, (a : Except Failure (Option Organization)), w => (a.map (fun _ => w.organization id), w)
  | .getDaemon id, (a : Except Failure (Option (Daemon V))), w => (a.map (fun _ => w.daemon id), w)
  | .createDaemon row, a, w => w.insertDaemon row a
  | .updateDaemon _, .error e, w => (.error e, w)
  | .updateDaemon row, .ok _, w => (.ok (), w.putDaemon row)
  | _, a, w => (a, w)

abbrev Task (V : Semver) := Program (worldSig V) Failure

def asInventory : Embedding Inventory.dbSig (worldSig V) := ⟨WorldOp.inventory, fun _ r => r⟩

def asDiscovery : Embedding serviceSig (worldSig V) := ⟨WorldOp.discovery, fun _ r => r⟩

def inventory {α : Type} (p : Inventory.Query α) : Task V α := p.embed asInventory .inventory

def discovery {α : Type} (p : Service α) : Task V α := p.embed asDiscovery .discovery

def newV4 : Task V Uuid := .op WorldOp.newV4 .ret
def utcNow : Task V Instant := .op WorldOp.utcNow .ret
def getNetwork (id : Uuid) : Task V (Option Network) := .op (WorldOp.getNetwork id) orFail
def getOrganization (id : Uuid) : Task V (Option Organization) := .op (WorldOp.getOrganization id) orFail
def organizationOwners (id : Uuid) : Task V (List Uuid) := .op (WorldOp.organizationOwners id) orFail
def publishTelemetry (event : TelemetryEvent Bool) : Task V Unit := .op (WorldOp.publishTelemetry event) .ret

def newEntity {β : Type} (base : β) : Task V (Entity β) := do
  let now ← utcNow
  let id ← newV4
  ret ⟨id, now, now, base⟩

namespace DaemonService

def getById (id : Uuid) : Task V (Option (Daemon V)) := .op (WorldOp.getDaemon id) orFail

def publish (operation : Events.EntityOperation) (daemon : Daemon V) (suppressLogs : Bool) : Task V Unit :=
  .op (WorldOp.publish operation daemon suppressLogs) .ret

/-- `CrudService::create`. -/
def create (daemon : Daemon V) : Task V (Daemon V) := do
  let daemon ← if daemon.id = Uuid.nil then newEntity daemon.base else ret daemon
  .op (WorldOp.createDaemon daemon) (fun r => (orFail r : Task V Unit).bind (fun _ => ret ()))
  publish .created daemon false
  ret daemon

/-- `CrudService::update`. -/
def update (daemon : Daemon V) : Task V (Daemon V) := do
  match ← getById daemon.id with
  | none => fail (.couldNotFind daemon.id)
  | some current => do
    let updated := { daemon with updatedAt := ← utcNow }
    .op (WorldOp.updateDaemon updated) (fun r => (orFail r : Task V Unit).bind (fun _ => ret ()))
    publish .updated updated (updated.suppressLogs current)
    ret updated

end DaemonService

/-- `map_err` to an internal error. -/
def orInternal {α : Type} (context : String) (p : Task V α) : Task V α :=
  p.attempt.bind (fun r => orFail (r.mapError (Failure.internal context)))

def dailyMidnightCron : String := "0 0 0 * * *"

/-- The network of the body and its organization, if they are found and daemons may register there. -/
def registrable (networkId : Uuid) : Task V Organization := do
  match ← getNetwork networkId with
  | none => fail (.notFound "Network not found")
  | some network =>
    match ← getOrganization network.organizationId with
    | none => fail (.notFound "Organization not found")
    | some org =>
      if org.plan = some .demo then fail (.forbidden "Daemon registration is disabled in demo mode")
      else ret org

section registration

variable (auth : AuthenticatedEntity) (request : DaemonRegistrationRequest)

def daemonVersion : Option V.Version := request.version.bind V.parse

def serverCapabilities : Option (ServerCapabilities V) :=
  (daemonVersion request).map DaemonVersionPolicy.default.capabilities

/-- The stored daemon with what it says of itself now. -/
def refreshed (existing : Daemon V) (now : Instant) : Daemon V :=
  { existing with base := { existing.base with
      url := request.url
      capabilities := request.capabilities
      lastSeen := now
      mode := request.mode
      name := request.name
      version := (daemonVersion request).or existing.base.version } }

def reregister (existing : Daemon V) : Task V (DaemonRegistrationResponse V) := do
  let now ← utcNow
  let updated ← orInternal "Failed to update daemon" (DaemonService.update (refreshed request existing now))
  ret ⟨updated, existing.base.hostId, serverCapabilities request⟩

def dummyHost : HostBase :=
  ⟨request.name, request.networkId, none, none, .discovery [], none, false, []⟩

/-- The maintainer of the daemon, or the owner of the organization where the body names none. -/
def maintainer (organizationId : Uuid) : Task V Uuid :=
  if request.userId = Uuid.nil then do
    let owners ← organizationOwners organizationId
    ret (owners.head?.getD request.userId)
  else ret request.userId

def daemonBase (hostId userId : Uuid) (now : Instant) : DaemonBase V :=
  ⟨hostId, request.networkId, request.url, now, request.capabilities, request.mode, request.name, [],
    daemonVersion request, userId⟩

def enterDaemon (hostId userId : Uuid) : Task V (Daemon V) := do
  let lastSeen ← utcNow
  let daemon ← newEntity (daemonBase request hostId userId lastSeen)
  orInternal "Failed to register daemon" (DaemonService.create { daemon with id := request.daemonId })

/-- The first registration is a step of the onboarding. -/
def reportRegistration : Task V Unit := do
  let network ← getNetwork request.networkId
  let found ← getOrganization ((network.map Network.organizationId).getD Uuid.nil)
  match found with
  | none => ret ()
  | some organization =>
    when (!organization.onboarding.contains .firstDaemonRegistered) (do
      let id ← newV4
      let now ← utcNow
      publishTelemetry ⟨id, organization.id, .firstDaemonRegistered, now, auth, true⟩)

def discoveryBase (discoveryType : DiscoveryType) : DiscoveryBase :=
  ⟨discoveryType, .scheduled dailyMidnightCron none true, discoveryType.toString, request.daemonId,
    request.networkId, []⟩

def scheduleDaily (discoveryType : DiscoveryType) : Task V Unit := do
  let entity ← newEntity (discoveryBase request discoveryType)
  let created ← discovery (createDiscovery ⟨entity.id, entity.createdAt, entity.updatedAt, entity.base⟩)
  let _ ← discovery (startSession created)
  ret ()

def register (organization : Organization) : Task V (DaemonRegistrationResponse V) := do
  let host ← newEntity (dummyHost request)
  let response ← inventory (Inventory.HostService.discoverHost host [] [] [])
  let hostId := response.host.id
  let userId ← maintainer request organization.id
  let registered ← enterDaemon request hostId userId
  reportRegistration auth request
  scheduleDaily request (.selfReport hostId)
  when request.capabilities.hasDockerSocket (scheduleDaily request (.docker hostId .bestService))
  scheduleDaily request (.network none .bestService)
  ret ⟨registered, hostId, serverCapabilities request⟩

def registerDaemon : Task V (DaemonRegistrationResponse V) :=
  match auth with
  | .daemon _ _ _ => do
    let organization ← registrable request.networkId
    match ← DaemonService.getById request.daemonId with
    | some existing => reregister request existing
    | none => register auth request organization
  | _ => fail (.forbidden "Daemon authentication required")

end registration

end VantageNet.Daemons
