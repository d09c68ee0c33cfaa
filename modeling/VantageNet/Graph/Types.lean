import VantageNet.Subnets.Types
import VantageNet.Topologies.Types

/-!
Nodes and edges of a topology, and the entities it is built from: `topology/types/layout.rs`, `topology/types/nodes.rs`,
`topology/types/edges.rs` and `topology/service/context.rs`.
-/

namespace VantageNet.Graph

open Inventory
open Subnets (Subnet SubnetType)
open Topologies (ServiceCategory TopologyRequestOptions)

structure Uxy where
  x : ℕ
  y : ℕ
  deriving DecidableEq

structure Ixy where
  x : ℤ
  y : ℤ
  deriving DecidableEq

structure NodeLayout where
  size : Uxy
  position : Ixy
  deriving DecidableEq

structure SubnetLayout where
  size : Uxy
  infraWidth : ℕ
  deriving DecidableEq

inductive NodeType where
  | subnetNode (infraWidth : ℕ)
  | interfaceNode (subnetId hostId : Uuid) (interfaceId : Option Uuid) (isInfra : Bool)
  deriving DecidableEq

structure Node where
  nodeType : NodeType
  id : Uuid
  position : Ixy
  size : Uxy
  header : Option String
  deriving DecidableEq

def Node.isSubnet (n : Node) : Bool :=
  match n.nodeType with
  | .subnetNode _ => true
  | .interfaceNode _ _ _ _ => false

/-- The subnet that an interface node is in. -/
def Node.parent (n : Node) : Option Uuid :=
  match n.nodeType with
  | .subnetNode _ => none
  | .interfaceNode subnetId _ _ _ => some subnetId

theorem Node.isSubnet_iff {n : Node} : n.isSubnet = true ↔ n.parent = none := by
  unfold Node.isSubnet Node.parent
  cases n.nodeType <;> simp

inductive EdgeHandle where
  | top
  | bottom
  | left
  | right
  deriving DecidableEq

namespace EdgeHandle

def isHorizontal : EdgeHandle → Bool
  | left | right => true
  | top | bottom => false

/-- Both handles on one side, where the infra zones let them. -/
def chooseSideHandlesForMultiHop (sourceIsInfra targetIsInfra : Bool) : EdgeHandle × EdgeHandle :=
  if !sourceIsInfra && !targetIsInfra then (left, left)
  else if sourceIsInfra && targetIsInfra then (right, right)
  else (if sourceIsInfra then bottom else left, if targetIsInfra then bottom else left)

/-- `from_same_subnet` gives both handles of an edge within one subnet, until its nodes are placed. -/
def fromSubnetLayers (source target : Subnet) (sourceIsInfra targetIsInfra isMultiHop : Bool) : EdgeHandle × EdgeHandle :=
  if source.id = target.id then (top, top)
  else
    match compare source.base.subnetType.verticalOrder target.base.subnetType.verticalOrder with
    | .lt => if isMultiHop then chooseSideHandlesForMultiHop sourceIsInfra targetIsInfra else (bottom, top)
    | .gt => if isMultiHop then chooseSideHandlesForMultiHop sourceIsInfra targetIsInfra else (top, bottom)
    | .eq =>
      match compare source.base.subnetType.horizontalOrder target.base.subnetType.horizontalOrder with
      | .lt | .eq => (if sourceIsInfra then bottom else right, if targetIsInfra then bottom else left)
      | .gt => (if sourceIsInfra then bottom else left, if targetIsInfra then bottom else right)

end EdgeHandle

inductive EdgeType where
  | interface (hostId : Uuid)
  | hostVirtualization (vmServiceId : Uuid)
  | serviceVirtualization (hostId containerizingServiceId : Uuid)
  | requestPath (groupId sourceBindingId targetBindingId : Uuid)
  | hubAndSpoke (groupId sourceBindingId targetBindingId : Uuid)
  deriving DecidableEq

structure Edge where
  id : Uuid
  source : Uuid
  target : Uuid
  edgeType : EdgeType
  label : Option String
  sourceHandle : EdgeHandle
  targetHandle : EdgeHandle
  isMultiHop : Bool
  deriving DecidableEq

def Edge.withHandles (e : Edge) (handles : EdgeHandle × EdgeHandle) : Edge :=
  { e with sourceHandle := handles.1, targetHandle := handles.2 }

structure SubnetChild where
  id : Uuid
  header : Option String
  hostId : Uuid
  interfaceId : Option Uuid
  size : Uxy
  edges : List Edge
  deriving DecidableEq

inductive GroupType where
  | requestPath
  | hubAndSpoke
  deriving DecidableEq

structure Group where
  id : Uuid
  name : String
  bindingIds : List Uuid
  groupType : GroupType

/-- `category` is that of a service definition in the registry. -/
structure TopologyContext where
  hosts : List Host
  interfaces : List Interface
  subnets : List Subnet
  services : List Inventory.Service
  groups : List Group
  options : TopologyRequestOptions
  category : ServiceDefinition → ServiceCategory

def toBoundInterfaceIds (s : Inventory.Service) : List (Option Uuid) := s.base.bindings.map (fun b => b.base.bindingType.interfaceId)

def hasInterfaceWithService (subnet : Subnet) (hostInterfaces : List Interface) (service : Inventory.Service) : Bool :=
  service.base.bindings.any (fun b => hostInterfaces.any (fun i =>
    (match b.base.bindingType.interfaceId with
      | some id => i.id = id
      | none => true) && i.base.subnetId = subnet.id))

namespace TopologyContext

variable (ctx : TopologyContext)

def getSubnetById (subnetId : Uuid) : Option Subnet := ctx.subnets.find? (fun s => s.id = subnetId)

def getHostById (hostId : Uuid) : Option Host := ctx.hosts.find? (fun h => h.id = hostId)

def getServiceById (serviceId : Uuid) : Option Inventory.Service := ctx.services.find? (fun s => s.id = serviceId)

def getInterfacesForHost (hostId : Uuid) : List Interface := ctx.interfaces.filter (fun i => i.base.hostId = hostId)

def getFirstNonDockerBridgeInterfaceForHost (hostId : Uuid) : Option Interface :=
  ctx.interfaces.find? (fun i => i.base.hostId = hostId &&
    match ctx.getSubnetById i.base.subnetId with
    | some subnet => !subnet.base.subnetType.isDockerBridge
    | none => false)

def getServicesBoundToInterface (interfaceId : Uuid) : List Inventory.Service :=
  ctx.services.filter (fun s => (toBoundInterfaceIds s).any (fun id => id = some interfaceId))

def getSubnetFromInterfaceId (interfaceId : Uuid) : Option Subnet :=
  (ctx.interfaces.find? (fun i => i.id = interfaceId)).bind (fun i => ctx.getSubnetById i.base.subnetId)

def getNodeSubnet (nodeId : Uuid) (nodes : List Node) : Option Uuid :=
  (nodes.find? (fun n => n.id = nodeId)).map (fun n => n.parent.getD n.id)

def getInterfacesWithInfraService (subnet : Subnet) : List (Option Uuid) :=
  (ctx.services.filter (fun s =>
    match ctx.getHostById s.base.hostId with
    | some host =>
      (ctx.options.leftZoneServiceCategories.contains (ctx.category s.base.serviceDefinition) ||
        (ctx.options.showGatewayInLeftZone && s.base.serviceDefinition.isGateway)) &&
        hasInterfaceWithService subnet (ctx.getInterfacesForHost host.id) s
    | none => false)).flatMap toBoundInterfaceIds

def isInterfaceInfra (interfaceId : Uuid) : Bool :=
  match ctx.getSubnetFromInterfaceId interfaceId with
  | some subnet => (ctx.getInterfacesWithInfraService subnet).contains (some interfaceId)
  | none => false

def subnetHasMixedInfra (subnet : Subnet) : Bool :=
  let infra := ctx.getInterfacesWithInfraService subnet
  let inSubnet := (ctx.interfaces.filter (fun i => i.base.subnetId = subnet.id)).map (fun i => i.id)
  inSubnet.any (fun id => infra.contains (some id)) && inSubnet.any (fun id => !infra.contains (some id))

def edgeIsIntraSubnet (e : Edge) : Bool :=
  match ctx.getSubnetFromInterfaceId e.source, ctx.getSubnetFromInterfaceId e.target with
  | some source, some target => source.id = target.id
  | _, _ => false

def edgeIsMultiHop (sourceInterfaceId targetInterfaceId : Uuid) : Bool :=
  match ctx.getSubnetFromInterfaceId sourceInterfaceId, ctx.getSubnetFromInterfaceId targetInterfaceId with
  | some source, some target =>
    1 < ((source.base.subnetType.verticalOrder : ℤ) - target.base.subnetType.verticalOrder).natAbs
  | _, _ => false

def interfaceWillHaveNode (interfaceId : Uuid) : Bool := !(ctx.getServicesBoundToInterface interfaceId).isEmpty

end TopologyContext

end VantageNet.Graph
