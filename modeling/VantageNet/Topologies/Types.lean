import Mathlib.Data.Fintype.Pi
import VantageNet.Events.Types

/-!
Topologies: `topology/types/base.rs`. The seven lists of entities that a topology keeps a copy
of, and the seven lists of those removed since, are families over `Kind`. The records of the
entities and of the graph are passed on: they are given by `Records`, with what is read of them.
-/

namespace VantageNet.Topologies

open Events

inductive Kind where
  | host
  | interface
  | service
  | subnet
  | group
  | port
  | binding
  deriving DecidableEq

def Kind.all : List Kind := [.host, .interface, .service, .subnet, .group, .port, .binding]

instance : Fintype Kind := ⟨⟨Kind.all, by decide⟩, fun k => by cases k <;> decide⟩

inductive ServiceCategory where
  | networkCore
  | networkAccess
  | networkSecurity
  | storage
  | backup
  | media
  | homeAutomation
  | virtualization
  | dns
  | vpn
  | monitoring
  | adBlock
  | reverseProxy
  | workstation
  | mobile
  | iot
  | printer
  | database
  | development
  | dashboard
  | messageQueue
  | identityAndAccess
  | office
  | projectManagement
  | messaging
  | conferencing
  | telephony
  | email
  | publishing
  | unknown
  | custom
  | vantageNet
  | openPorts
  deriving DecidableEq

structure TopologyRequestOptions where
  groupDockerBridgesByHost : Bool
  hideVmTitleOnDockerContainer : Bool
  hidePorts : Bool
  leftZoneServiceCategories : List ServiceCategory
  hideServiceCategories : List ServiceCategory
  showGatewayInLeftZone : Bool
  deriving DecidableEq

def TopologyRequestOptions.default : TopologyRequestOptions where
  groupDockerBridgesByHost := true
  hideVmTitleOnDockerContainer := false
  hidePorts := false
  leftZoneServiceCategories := [.dns, .reverseProxy]
  hideServiceCategories := []
  showGatewayInLeftZone := true

structure Records where
  Of : Kind → Type
  Node : Type
  Edge : Type
  decEq : (k : Kind) → DecidableEq (Of k)
  decEqNode : DecidableEq Node
  decEqEdge : DecidableEq Edge
  networkId : {k : Kind} → Of k → Uuid
  createdAt : {k : Kind} → Of k → Instant
  hidden : Of .host → Bool
  category : Of .service → ServiceCategory
  buildGraph : TopologyRequestOptions → ((k : Kind) → List (Of k)) → List Node → List Edge → List Node × List Edge

instance (R : Records) (k : Kind) : DecidableEq (R.Of k) := R.decEq k
instance (R : Records) : DecidableEq R.Node := R.decEqNode
instance (R : Records) : DecidableEq R.Edge := R.decEqEdge

abbrev Records.Entities (R : Records) := (k : Kind) → List (R.Of k)

structure TopologyBase (R : Records) where
  name : String
  options : TopologyRequestOptions
  networkId : Uuid
  nodes : List R.Node
  edges : List R.Edge
  entities : R.Entities
  isStale : Bool
  lastRefreshed : Instant
  isLocked : Bool
  lockedAt : Option Instant
  lockedBy : Option Uuid
  removed : Kind → List Uuid
  deriving DecidableEq

abbrev Topology (R : Records) := Inventory.Entity (TopologyBase R)

variable {R : Records}

namespace Topology

def lock (topology : Topology R) (lockedBy : Uuid) (now : Instant) : Topology R :=
  { topology with
    base := { topology.base with isLocked := true, lockedAt := some now, lockedBy := some lockedBy } }

def unlock (topology : Topology R) : Topology R :=
  { topology with base := { topology.base with isLocked := false, lockedAt := none, lockedBy := none } }

/-- `clear_stale` at the given time. -/
def clearStale (topology : Topology R) (now : Instant) : Topology R :=
  { topology with base := { topology.base with removed := fun _ => [], isStale := false, lastRefreshed := now } }

def setEntities (topology : Topology R) (entities : R.Entities) : Topology R :=
  { topology with base := { topology.base with entities := entities } }

def setGraph (topology : Topology R) (nodes : List R.Node) (edges : List R.Edge) : Topology R :=
  { topology with base := { topology.base with nodes := nodes, edges := edges } }

def triggersStaleness (topology : Topology R) : Option (Topology R) → Bool
  | some other => topology.base.options ≠ other.base.options
  | none => false

end Topology

/-- The record that an event carries: a variant of `Entity` with what is read of it. -/
inductive Payload (R : Records) where
  | entity (k : Kind) (record : R.Of k)
  | topology (topology : Topology R)
  | other
  deriving DecidableEq

def Payload.kind : Payload R → Option Kind
  | .entity k _ => some k
  | _ => none

/-- The keys of the metadata that are read: each holds a boolean or it does not. -/
structure Metadata where
  triggerStale : Option Bool
  clearStale : Option Bool
  suppressLogs : Option Bool
  deriving DecidableEq

abbrev TopologyEvent (R : Records) := Event (Payload R) Metadata

end VantageNet.Topologies
