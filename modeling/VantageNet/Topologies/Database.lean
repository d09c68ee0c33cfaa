import VantageNet.Interaction.Program
import VantageNet.Interaction.Table
import VantageNet.Topologies.Types

/-!
The stored topologies, the entities of the networks, and the operations of `TopologyService`
that the endpoints and the subscriber share.
-/

namespace VantageNet.Topologies

open Events Interaction

variable {R : Records}

abbrev Rows (R : Records) := Table (Topology R) (fun a b => a.id ≠ b.id)

structure Db (R : Records) where
  topologies : Rows R
  entities : R.Entities
  published : List (EntityEvent (Payload R) Metadata)

inductive Failure where
  | storage
  | couldNotFind (id : Uuid) (name : String)
  | notFound (id : Uuid)
  | forbidden (message : String)
  deriving DecidableEq

inductive TopologyOp (R : Records) where
  | newV4
  | utcNow
  | listTopologies (filter : Topology R → Bool)
  | getTopology (id : Uuid)
  | updateTopology (row : Topology R)
  | listEntities (k : Kind) (filter : R.Of k → Bool)
  | publish (event : EntityEvent (Payload R) Metadata)
  | send (topology : Topology R)
  | iterate (ids : List Uuid)
  | getOnboarding (organizationId : Uuid)
  | publishTelemetry (event : TelemetryEvent Bool)

@[reducible]
def TopologyOp.Reply : TopologyOp R → Type
  | .newV4 => Uuid
  | .utcNow => Instant
  | .listTopologies _ => Except Failure (List (Topology R))
  | .getTopology _ => Except Failure (Option (Topology R))
  | .updateTopology _ => Except Failure Unit
  | .listEntities k _ => Except Failure (List (R.Of k))
  | .publish _ | .send _ | .publishTelemetry _ => Unit
  | .iterate _ => List Uuid
  | .getOnboarding _ => Except Failure (Option (List TelemetryOperation))

abbrev topologySig (R : Records) : Signature := ⟨TopologyOp R, TopologyOp.Reply⟩

/-- The row in the place of the one with its id. -/
def Db.put (db : Db R) (row : Topology R) : Db R :=
  { db with topologies := ⟨db.topologies.rows.map (fun r => if r.id = row.id then row else r),
      List.pairwise_map.mpr (db.topologies.pairwise.imp (fun {a b} h => by split_ifs <;> simp_all))⟩ }

/-- A hash set is gone through in an order of the environment's choice. -/
def inOrder (ids proposed : List Uuid) : List Uuid := if proposed.Perm ids then proposed else ids

def topologyStep : Handler (topologySig R) (Db R)
  | .listTopologies p, (a : Except Failure (List (Topology R))), db =>
    (a.map (fun proposed => arrange (fun r => r.createdAt) (db.topologies.rows.filter p) proposed), db)
  | .getTopology id, (a : Except Failure (Option (Topology R))), db =>
    (a.map (fun _ => db.topologies.rows.find? (fun r => r.id = id)), db)
  | .updateTopology _, .error e, db => (.error e, db)
  | .updateTopology row, .ok _, db => (.ok (), db.put row)
  | .listEntities k p, (a : Except Failure (List (R.Of k))), db =>
    (a.map (fun proposed => arrange R.createdAt ((db.entities k).filter p) proposed), db)
  | .publish event, _, db => ((), { db with published := db.published ++ [event] })
  | .iterate ids, proposed, db => (inOrder ids proposed, db)
  | _, a, db => (a, db)

abbrev Task (R : Records) := Program (topologySig R) Failure

namespace Storage

open Program

def statement {α : Type} : Except Failure α → Task R α := orFail

def newV4 : Task R Uuid := .op TopologyOp.newV4 .ret
def utcNow : Task R Instant := .op TopologyOp.utcNow .ret

def getAll (filter : Topology R → Bool) : Task R (List (Topology R)) := .op (TopologyOp.listTopologies filter) statement

def getById (id : Uuid) : Task R (Option (Topology R)) := .op (TopologyOp.getTopology id) statement

def update (topology : Topology R) : Task R (Topology R) := do
  let updated := { topology with updatedAt := ← utcNow }
  .op (TopologyOp.updateTopology updated) (fun r => (statement r).bind (fun _ => .ret updated))

def getEntities (k : Kind) (filter : R.Of k → Bool) : Task R (List (R.Of k)) :=
  .op (TopologyOp.listEntities k filter) statement

def publish (event : EntityEvent (Payload R) Metadata) : Task R Unit := .op (TopologyOp.publish event) .ret

def send (topology : Topology R) : Task R Unit := .op (TopologyOp.send topology) .ret

def iterate (ids : List Uuid) : Task R (List Uuid) := .op (TopologyOp.iterate ids) .ret

/-- The steps that the organization has behind it, of which its record is looked up. -/
def getOnboarding (organizationId : Uuid) : Task R (Option (List TelemetryOperation)) :=
  .op (TopologyOp.getOnboarding organizationId) statement

def publishTelemetry (event : TelemetryEvent Bool) : Task R Unit := .op (TopologyOp.publishTelemetry event) .ret

end Storage

/-- What `get_entity_data` returns: everything but the services. -/
structure EntityData (R : Records) where
  hosts : List (R.Of .host)
  interfaces : List (R.Of .interface)
  subnets : List (R.Of .subnet)
  groups : List (R.Of .group)
  ports : List (R.Of .port)
  bindings : List (R.Of .binding)

def EntityData.withServices (data : EntityData R) (services : List (R.Of .service)) : R.Entities
  | .host => data.hosts
  | .interface => data.interfaces
  | .service => services
  | .subnet => data.subnets
  | .group => data.groups
  | .port => data.ports
  | .binding => data.bindings

namespace TopologyService

open Program Storage

def inNetwork (networkId : Uuid) {k : Kind} (entity : R.Of k) : Bool := R.networkId entity = networkId

def getEntityData (networkId : Uuid) : Task R (EntityData R) := do
  let hosts ← getEntities .host (fun host => inNetwork networkId host && !R.hidden host)
  let interfaces ← getEntities .interface (inNetwork networkId)
  let subnets ← getEntities .subnet (inNetwork networkId)
  let groups ← getEntities .group (inNetwork networkId)
  let ports ← getEntities .port (inNetwork networkId)
  let bindings ← getEntities .binding (inNetwork networkId)
  ret ⟨hosts, interfaces, subnets, groups, ports, bindings⟩

def getServiceData (networkId : Uuid) (options : TopologyRequestOptions) : Task R (List (R.Of .service)) := do
  let services ← getEntities .service (inNetwork networkId)
  ret (services.filter (fun s => !options.hideServiceCategories.contains (R.category s)))

/-- `CrudService::update`. -/
def update (topology : Topology R) (authentication : AuthenticatedEntity) : Task R (Topology R) := do
  match ← getById topology.id with
  | none => fail (.couldNotFind topology.id topology.base.name)
  | some current => do
    let updated ← Storage.update topology
    let triggerStale := updated.triggersStaleness (some current)
    let id ← Storage.newV4
    let now ← Storage.utcNow
    publish { id, entityId := updated.id, networkId := some updated.base.networkId, organizationId := none,
              entityType := ⟨.topology, .topology updated⟩, operation := .updated, timestamp := now,
              metadata := ⟨some triggerStale, none, some false⟩, authentication }
    ret updated

end TopologyService

end VantageNet.Topologies
