import VantageNet.Topologies.Database

/-!
How the topologies follow the changes of their networks: `topology/service/subscriber.rs`.
-/

namespace VantageNet.Topologies

open Events Interaction Interaction.Program TopologyService

variable {R : Records}

structure TopologyChanges where
  updated : Kind → Bool
  removed : Kind → List Uuid
  shouldMarkStale : Bool
  clearStale : Bool

def TopologyChanges.default : TopologyChanges := ⟨fun _ => false, fun _ => [], false, false⟩

/-- The change sets of a batch, and the networks they belong to. -/
structure Batch where
  networkIds : List Uuid
  topologyUpdates : Uuid → Option TopologyChanges

def Batch.empty : Batch := ⟨[], fun _ => none⟩

section events

variable (event : EntityEvent (Payload R) Metadata)

def triggers : Bool := event.metadata.triggerStale.getD false

def clears : Bool := event.metadata.clearStale.getD false

def kind : Option Kind := event.entityType.record.kind

/-- The topology that the event says has been updated. -/
def updatedTopology : Option (Topology R) :=
  match event.entityType.record, event.operation with
  | .topology topology, .updated => some topology
  | _, _ => none

end events

namespace TopologyChanges

def trackRemoved (changes : TopologyChanges) (event : EntityEvent (Payload R) Metadata) : TopologyChanges :=
  match event.operation, kind event with
  | .deleted, some k =>
    { changes with removed := Function.update changes.removed k ((changes.removed k).insert event.entityId) }
  | _, _ => changes

def note (changes : TopologyChanges) (event : EntityEvent (Payload R) Metadata) : TopologyChanges :=
  let changes := changes.trackRemoved event
  if triggers event then { changes with shouldMarkStale := true }
  else if clears event then { changes with clearStale := true }
  else
    match kind event with
    | some k => { changes with updated := Function.update changes.updated k true }
    | none => changes

end TopologyChanges

def Batch.note (batch : Batch) (networkId : Uuid) (event : EntityEvent (Payload R) Metadata) : Batch where
  networkIds := batch.networkIds.insert networkId
  topologyUpdates := Function.update batch.topologyUpdates networkId
    (some (((batch.topologyUpdates networkId).getD .default).note event))

namespace TopologyService

/-- An update of a topology is passed on at once and changes nothing that is stored. -/
def passOn (networkId : Uuid) (event : EntityEvent (Payload R) Metadata) (topology : Topology R) : Task R Unit := do
  let topology := if triggers event then { topology with base := { topology.base with isStale := true } }
    else topology
  let services ← getServiceData networkId topology.base.options
  Storage.send { topology with
    base := { topology.base with entities := Function.update topology.base.entities .service services } }

def gather (batch : Batch) : TopologyEvent R → Task R Batch
  | .entity event =>
    match event.networkId with
    | none => ret batch
    | some networkId =>
      match updatedTopology event with
      | some topology => do
        passOn networkId event topology
        ret batch
      | none => ret (batch.note networkId event)
  | _ => ret batch

/-- The removed entities that are not listed yet, in the order of the set. -/
def pushRemoved (removed : List Uuid) (ids : List Uuid) : List Uuid :=
  ids.foldl (fun removed id => if removed.contains id then removed else removed ++ [id]) removed

def applyRemoved (changes : TopologyChanges) (removed : Kind → List Uuid) (k : Kind) : Task R (Kind → List Uuid) := do
  let ids ← Storage.iterate (changes.removed k)
  ret (Function.update removed k (pushRemoved (removed k) ids))

def applyFlags (changes : TopologyChanges) (isStale : Bool) : Bool :=
  let isStale := if changes.shouldMarkStale && !changes.clearStale then true else isStale
  if changes.clearStale then false else isStale

def applyTo (networkId : Uuid) (changes : TopologyChanges) (data : EntityData R) (topology : Topology R) :
    Task R Unit := do
  let services ← getServiceData networkId topology.base.options
  let removed ← accumulate (applyRemoved changes) topology.base.removed Kind.all
  let topology := { topology with base := { topology.base with
    removed := removed
    isStale := applyFlags changes topology.base.isStale
    entities := fun k => if changes.updated k then data.withServices services k else topology.base.entities k } }
  let updated ← update topology .system
  Storage.send updated

def applyToNetwork (batch : Batch) (networkId : Uuid) : Task R Unit := do
  let topologies ← Storage.getAll (fun t => t.base.networkId = networkId)
  let data ← getEntityData networkId
  match batch.topologyUpdates networkId with
  | some changes => forEach (applyTo networkId changes data) topologies
  | none => ret ()

def handleEvents (events : List (TopologyEvent R)) : Task R Unit :=
  if events.isEmpty then ret ()
  else do
    let batch ← accumulate gather .empty events
    let networkIds ← Storage.iterate batch.networkIds
    forEach (applyToNetwork batch) networkIds

end TopologyService

end VantageNet.Topologies
