import VantageNet.Graph.Types

/-!
The edges of a topology: `topology/service/edge_builder.rs`. Their ids are drawn afterwards, in their order. Their handles are
changed where they would cross a subnet: `topology/service/planner/anchor_planner.rs`.
-/

namespace VantageNet.Graph.EdgeBuilder

open Inventory
open Subnets (Subnet)

variable (ctx : TopologyContext)

def determineInterfaceHandles (sourceInterfaceId targetInterfaceId : Uuid) (isMultiHop : Bool) : Option (EdgeHandle × EdgeHandle) := do
  let source ← ctx.getSubnetFromInterfaceId sourceInterfaceId
  let target ← ctx.getSubnetFromInterfaceId targetInterfaceId
  let sourceIsInfra := (ctx.getInterfacesWithInfraService source).contains (some sourceInterfaceId)
  let targetIsInfra := (ctx.getInterfacesWithInfraService target).contains (some targetInterfaceId)
  return EdgeHandle.fromSubnetLayers source target (sourceIsInfra && ctx.subnetHasMixedInfra source)
    (targetIsInfra && ctx.subnetHasMixedInfra target) isMultiHop

/-- An edge between two interfaces, where both have subnets; its target node may be another one. -/
def edge (source targetInterface target : Uuid) (edgeType : EdgeType) (label : Option String) : Option Edge :=
  let isMultiHop := ctx.edgeIsMultiHop source targetInterface
  (determineInterfaceHandles ctx source targetInterface isMultiHop).map (fun handles =>
    ⟨Uuid.nil, source, target, edgeType, label, handles.1, handles.2, isMultiHop⟩)

def interfaceEdge (host : Host) (origin interface : Interface) : Option Edge :=
  let isDockerBridge := fun subnet : Option Subnet => subnet.any (fun s => s.base.subnetType.isDockerBridge)
  if isDockerBridge (ctx.getSubnetById origin.base.subnetId) then none
  else if isDockerBridge (ctx.getSubnetById interface.base.subnetId) then none
  else edge ctx origin.id interface.id interface.id (.interface host.id)
    (if origin.base.subnetId = interface.base.subnetId then none else some host.base.name)

def createInterfaceEdges : List Edge :=
  ctx.hosts.flatMap (fun host =>
    match ctx.getFirstNonDockerBridgeInterfaceForHost host.id with
    | some origin => ((ctx.getInterfacesForHost host.id).filter (fun i => i.id ≠ origin.id && ctx.interfaceWillHaveNode i.id &&
        ctx.interfaceWillHaveNode origin.id)).filterMap (interfaceEdge ctx host origin)
    | none => [])

/-- The interface that the first service with the binding has it bound to. -/
def boundInterface (bindingId : Uuid) : Option Uuid :=
  (ctx.services.findSome? (fun s => (s.base.bindings.find? (fun b => b.id = bindingId)).map
    (fun b => b.base.bindingType.interfaceId))).bind id

def edgeFromServiceBindings (group : Group) (sourceBindingId targetBindingId : Uuid) : Option Edge := do
  let source ← boundInterface ctx sourceBindingId
  let target ← boundInterface ctx targetBindingId
  if ctx.interfaceWillHaveNode source && ctx.interfaceWillHaveNode target then
    edge ctx source target target
      (match group.groupType with
        | .hubAndSpoke => .hubAndSpoke group.id sourceBindingId targetBindingId
        | .requestPath => .requestPath group.id sourceBindingId targetBindingId)
      (if (ctx.getSubnetFromInterfaceId source).map (fun s => s.id) = (ctx.getSubnetFromInterfaceId target).map (fun s => s.id)
        then none else some group.name)
  else none

def createGroupEdges : List Edge :=
  ctx.groups.flatMap (fun group =>
    match group.groupType with
    | .requestPath => (group.bindingIds.zip group.bindingIds.tail).filterMap
        (fun window => edgeFromServiceBindings ctx group window.1 window.2)
    | .hubAndSpoke =>
      match group.bindingIds with
      | hub :: spokes => spokes.reverse.filterMap (edgeFromServiceBindings ctx group hub)
      | [] => [])

def proxmoxServiceId (h : Host) : Option Uuid := h.base.virtualization.map (fun | .proxmox _ _ serviceId => serviceId)

/-- The interfaces that a Proxmox service has on the subnets, the first one of each subnet first. -/
def subnetToProxmoxHostInterfaceId : List ((Uuid × Uuid) × Uuid) :=
  ctx.hosts.flatMap (fun h =>
    match (proxmoxServiceId h).bind ctx.getServiceById with
    | some service => (service.base.bindings.filterMap (fun b => b.base.bindingType.interfaceId)).filterMap (fun i =>
        (ctx.getSubnetFromInterfaceId i).map (fun subnet => ((subnet.id, service.id), i)))
    | none => [])

/-- Of hosts of one id the last one counts. -/
def vmHostIdToProxmoxService (hostId : Uuid) : Option Uuid :=
  (ctx.hosts.filterMap (fun h => (proxmoxServiceId h).map (fun serviceId => (h.id, serviceId)))).reverse.lookup hostId

def createVmHostEdges : List Edge :=
  ctx.hosts.flatMap (fun h =>
    match vmHostIdToProxmoxService ctx h.id with
    | some proxmoxServiceId => (ctx.getInterfacesForHost h.id).filterMap (fun i => do
        let source ← (subnetToProxmoxHostInterfaceId ctx).lookup (i.base.subnetId, proxmoxServiceId)
        if ctx.interfaceWillHaveNode source then edge ctx source i.id i.id (.hostVirtualization proxmoxServiceId) none else none)
    | none => [])

/-- The services that run in containers of a Docker service. -/
def containerizedServiceIds (serviceId : Uuid) : List Uuid :=
  ((ctx.services.filter (fun s => s.base.virtualization.any (fun v => v.serviceId = serviceId))).map (fun s => s.id)).reverse.dedup.reverse

/-- The services with containers whose host has an interface that is not on a Docker bridge. -/
def dockerServices : List (Inventory.Service × Host × Interface) :=
  (ctx.services.filter (fun s => !(containerizedServiceIds ctx s.id).isEmpty)).filterMap (fun s => do
    let host ← ctx.getHostById s.base.hostId
    let origin ← ctx.getFirstNonDockerBridgeInterfaceForHost host.id
    return (s, host, origin))

/-- The Docker bridges that a host has interfaces on. -/
def containerSubnets (hostId : Uuid) : List Uuid :=
  ((ctx.getInterfacesForHost hostId).filterMap (fun i => ctx.getSubnetById i.base.subnetId)).filterMap (fun s =>
    if s.base.subnetType.isDockerBridge then some s.id else none)

def containerSubnetInterfaceIds (hostId : Uuid) : List Uuid :=
  ((ctx.getInterfacesForHost hostId).filter (fun i => (containerSubnets ctx hostId).contains i.base.subnetId)).map (fun i => i.id)

/-- The edge to the grouped bridges of a host, and the subnet that they are grouped on. -/
def groupedBridgeEdge (s : Inventory.Service) (host : Host) (origin : Interface) : Option (Edge × Uuid) := do
  let interfaceId ← (containerSubnetInterfaceIds ctx host.id).head?
  let subnetId ← (containerSubnets ctx host.id).head?
  let e ← edge ctx origin.id interfaceId subnetId (.serviceVirtualization host.id s.id)
    (some (s.base.name ++ " @ " ++ host.base.name))
  return (e, subnetId)

def containerEdge (s : Inventory.Service) (host : Host) (origin : Interface) (containerizedId : Uuid) : Option Edge := do
  let containerized ← ctx.getServiceById containerizedId
  let interfaceId ← (containerized.base.bindings.filterMap (fun b => b.base.bindingType.interfaceId)).find?
    (fun i => (containerSubnetInterfaceIds ctx host.id).contains i)
  let e ← edge ctx origin.id interfaceId interfaceId (.serviceVirtualization host.id s.id)
    (some (s.base.name ++ " on " ++ host.base.name))
  if ctx.interfaceWillHaveNode origin.id && ctx.interfaceWillHaveNode interfaceId then some e else none

def createContainerizedServiceEdges : List Edge :=
  (dockerServices ctx).flatMap (fun (s, host, origin) =>
    if ctx.options.groupDockerBridgesByHost then
      match groupedBridgeEdge ctx s host origin with
      | some (e, _) => if ctx.interfaceWillHaveNode origin.id then [e] else []
      | none => []
    else (containerizedServiceIds ctx s.id).filterMap (containerEdge ctx s host origin))

/-- The subnet that the bridges of a host are grouped on: the first one that is entered stays. -/
def subnetIdToGroupOn (hostId : Uuid) : Option Uuid :=
  if ctx.options.groupDockerBridgesByHost then
    ((dockerServices ctx).filterMap (fun (s, host, origin) =>
      (groupedBridgeEdge ctx s host origin).map (fun x => (host.id, x.2)))).lookup hostId
  else none

/-- All edges that are built. -/
def createEdges (drawn : ℕ → Uuid) : List Edge :=
  (createInterfaceEdges ctx ++ createGroupEdges ctx ++ createVmHostEdges ctx ++ createContainerizedServiceEdges ctx).mapIdx
    (fun i e => { e with id := drawn i })

end VantageNet.Graph.EdgeBuilder

namespace VantageNet.Graph.ChildAnchorPlanner

variable (ctx : TopologyContext)

def touches (interfaceId : Uuid) (e : Edge) : Bool := e.source = interfaceId || e.target = interfaceId

/-- The handle at this end of the edge. -/
def relevantHandle (interfaceId : Uuid) (e : Edge) : EdgeHandle := if e.source = interfaceId then e.sourceHandle else e.targetHandle

/-- `would_vertical_edges_cross_middle` and `would_horizontal_edges_cross_middle`: edges to other subnets leave by both of
these handles. -/
def wouldCrossMiddle (one other : EdgeHandle) (interfaceId : Uuid) (edges : List Edge) : Bool :=
  let leaving := edges.filter (fun e => touches interfaceId e &&
    (ctx.getSubnetFromInterfaceId interfaceId).map (fun s => s.id) ≠
      (ctx.getSubnetFromInterfaceId (if e.source = interfaceId then e.target else e.source)).map (fun s => s.id))
  leaving.any (fun e => relevantHandle interfaceId e = one) && leaving.any (fun e => relevantHandle interfaceId e = other)

def determineOverrideHandle (interEdges : List Edge) (isInfra : Bool) (interfaceId : Uuid) (edges : List Edge) :
    Option EdgeHandle :=
  let count := fun handle => (interEdges.filter (fun e => relevantHandle interfaceId e = handle)).length
  let subnetNodeCount := match ctx.getSubnetFromInterfaceId interfaceId with
    | some subnet => (ctx.interfaces.filter (fun i => i.base.subnetId = subnet.id)).length
    | none => 0
  if 0 < count .top && 0 < count .bottom && 3 ≤ subnetNodeCount && wouldCrossMiddle ctx .top .bottom interfaceId edges then
    some (if isInfra then .left else .right)
  else if 0 < count .left && 0 < count .right && 3 ≤ subnetNodeCount && wouldCrossMiddle ctx .left .right interfaceId edges then
    some (if count .top ≤ count .bottom then .bottom else .top)
  else none

/-- The edges with the handles that `plan_anchors` gives them for one interface. It returns those of the interface. -/
def planAnchors (interfaceId : Uuid) (edges : List Edge) : List Edge :=
  let isInter := fun e => touches interfaceId e && !ctx.edgeIsIntraSubnet e
  let interEdges := edges.filter isInter
  if interEdges.isEmpty then edges
  else
    match determineOverrideHandle ctx interEdges (ctx.isInterfaceInfra interfaceId) interfaceId edges with
    | some handle => edges.map (fun e => if isInter e then e.withHandles (handle, handle) else e)
    | none => edges

end VantageNet.Graph.ChildAnchorPlanner
