import VantageNet.Graph.Placement

/-!
The children of the subnets and the rows of subnets: `topology/service/planner/subnet_layout_planner.rs` and
`calculate_container_size` of `topology/service/planner/utils.rs`.
-/

namespace VantageNet.Graph

open Inventory
open Subnets (Subnet SubnetType)
open Scanning (IpCidr)

/-- In which order the keys of a hash map are iterated. -/
structure HashOrder where
  order : List Uuid → List Uuid
  perm : ∀ keys, (order keys).Perm keys

/-- The entries of each key, from the least key. -/
def grouped {α κ : Type} [LinearOrder κ] (key : α → κ) (entries : List α) : List (List α) :=
  ((entries.map key).dedup.mergeSort (fun a b => decide (a ≤ b))).map (fun k => entries.filter (fun e => key e = k))

section children

/-- `b.port_id().is_some()`, and on this interface. -/
def bindsPortAt (interfaceId : Uuid) (b : Binding) : Bool :=
  match b.base.bindingType with
  | .interface _ => false
  | .port _ at_ => at_.all (fun i => i = interfaceId)

def subnetChildSizeFromServiceCount (services : List Inventory.Service) (interfaceId : Uuid) (hasHeader hidePorts : Bool) : Uxy :=
  ⟨250, (services.map (fun s => 50 + if hidePorts && 0 < (s.base.bindings.filter (bindsPortAt interfaceId)).length then 0 else 25)).sum +
    25 + if hasHeader then 25 else 0⟩

/-- The services that are bound to an interface or to all interfaces. -/
def interfaceBoundServices (ctx : TopologyContext) (interface : Interface) : List Inventory.Service :=
  ctx.services.filter (fun s => s.base.bindings.any (fun b =>
    match b.base.bindingType.interfaceId with
    | some id => id = interface.id
    | none => true))

def subnetTypeOf (ctx : TopologyContext) (interface : Interface) : SubnetType :=
  match ctx.getSubnetById interface.base.subnetId with
  | some subnet => subnet.base.subnetType
  | none => .none

/-- The subnet that the node of an interface is drawn in, if it is. -/
def groupingSubnet (ctx : TopologyContext) (interface : Interface) (host : Host) : Option Uuid :=
  if ctx.options.groupDockerBridgesByHost && (subnetTypeOf ctx interface).isDockerBridge then
    EdgeBuilder.subnetIdToGroupOn ctx host.id
  else some interface.base.subnetId

/-- What `group_children_by_subnet` has: the edges with their handles, the children with the subnets that they are pushed to,
and the grouped bridges with their hosts. -/
structure Grouping where
  edges : List Edge
  children : List (Uuid × SubnetChild)
  dockerSubnets : List ((Uuid × Uuid) × Uuid)

def childOf (guidance : Guidance) (ctx : TopologyContext) (interface : Interface) (host : Host) (edges : List Edge) : SubnetChild :=
  let header := guidance.headerText ctx interface host (subnetTypeOf ctx interface)
  ⟨interface.id, header, host.id, some interface.id, subnetChildSizeFromServiceCount (interfaceBoundServices ctx interface)
    interface.id header.isSome ctx.options.hidePorts, edges.filter (ChildAnchorPlanner.touches interface.id)⟩

def groupInterface (guidance : Guidance) (ctx : TopologyContext) (grouping : Grouping) (interface : Interface) : Grouping :=
  match ctx.getHostById interface.base.hostId with
  | none => grouping
  | some host =>
    if (interfaceBoundServices ctx interface).isEmpty then grouping
    else
      let edges := ChildAnchorPlanner.planAnchors ctx interface.id grouping.edges
      match groupingSubnet ctx interface host with
      | none => ⟨edges, grouping.children, grouping.dockerSubnets⟩
      | some subnetId => ⟨edges, grouping.children ++ [(subnetId, childOf guidance ctx interface host edges)],
          if ctx.options.groupDockerBridgesByHost && (subnetTypeOf ctx interface).isDockerBridge then
            grouping.dockerSubnets ++ [((host.id, subnetId), interface.base.subnetId)]
          else grouping.dockerSubnets⟩

def groupChildrenBySubnet (guidance : Guidance) (ctx : TopologyContext) (edges : List Edge) : Grouping :=
  ctx.interfaces.foldl (groupInterface guidance ctx) ⟨edges, [], []⟩

namespace Grouping

variable (grouping : Grouping)

def keys : List Uuid := (grouping.children.map Prod.fst).dedup

def childrenOf (subnetId : Uuid) : List SubnetChild :=
  (grouping.children.filter (fun e => e.1 = subnetId)).map Prod.snd

/-- The bridges that are grouped on a subnet. Where several hosts have it the one that is iterated last counts. -/
def consolidated (iteration : HashOrder) (subnetId : Uuid) : Option (List Uuid) :=
  let hosts := ((grouping.dockerSubnets.filter (fun e => e.1.2 = subnetId)).map (fun e => e.1.1)).dedup
  (iteration.order hosts).getLast?.map (fun hostId =>
    (grouping.dockerSubnets.filter (fun e => e.1 = (hostId, subnetId))).map Prod.snd)

end Grouping

/-- The subnets with their layouts, and the nodes of their children. -/
def createSubnetChildNodes (guidance : Guidance) (iteration : HashOrder) (ctx : TopologyContext) (grouping : Grouping) :
    List (Uuid × SubnetLayout) × List Node :=
  let sized := (iteration.order grouping.keys).map (fun subnetId =>
    (subnetId, calculateSubnetSize guidance ctx subnetId (grouping.childrenOf subnetId)))
  (sized.map (fun e => (e.1, e.2.1)), sized.flatMap (fun e => e.2.2))

end children

section rows

/-- `sorted_by_key`: by layer, then from left to right, then by name. -/
def precedes (a b : Subnet) : Bool :=
  let key := fun s : Subnet => (s.base.subnetType.verticalOrder, s.base.subnetType.horizontalOrder)
  if (key a).1 ≠ (key b).1 then (key a).1 < (key b).1
  else if (key a).2 ≠ (key b).2 then (key a).2 < (key b).2
  else a.base.name ≤ b.base.name

def calculateSubnetGridPositionsByLayer (ctx : TopologyContext) (layouts : List (Uuid × SubnetLayout)) :
    List (List (Uuid × NodeLayout)) :=
  let sorted := (ctx.subnets.mergeSort precedes).filterMap (fun s => (layouts.lookup s.id).map (fun layout => (s, layout)))
  (grouped (fun e : Subnet × SubnetLayout => e.1.base.subnetType.verticalOrder) sorted).map (fun row =>
    row.map (fun e => (e.1.id, ⟨e.2.size, ⟨0, 0⟩⟩)))

/-- The children of a row from `x` on. -/
def rowPositions (padding : Uxy) (y : ℕ) : ℕ → List (Uuid × NodeLayout) → List (Uuid × NodeLayout)
  | _, [] => []
  | x, (id, layout) :: rest => (id, ⟨layout.size, ⟨x, y⟩⟩) :: rowPositions padding y (x + layout.size.x + padding.x) rest

def maxHeight (row : List (Uuid × NodeLayout)) : ℕ := (row.map (fun e => e.2.size.y)).foldr max 0

/-- The rows from `y` on. -/
def calculateContainerSize (padding : Uxy) : ℕ → List (List (Uuid × NodeLayout)) → List (Uuid × NodeLayout)
  | _, [] => []
  | y, row :: rest =>
    if row.isEmpty then calculateContainerSize padding y rest
    else rowPositions padding y padding.x row ++ calculateContainerSize padding (y + maxHeight row + padding.y) rest

def consolidatedHeader (showCidr : IpCidr → String) (ctx : TopologyContext) (subnetIds : List Uuid) : String :=
  "Docker Bridge: (" ++ ", ".intercalate ((ctx.subnets.filter (fun s => subnetIds.contains s.id)).map (fun s => showCidr s.base.cidr)) ++ ")"

def createSubnetNodes (iteration : HashOrder) (ctx : TopologyContext) (consolidated : Uuid → Option (List Uuid))
    (showCidr : IpCidr → String) (layouts : List (Uuid × SubnetLayout)) : List Node :=
  let positions := hashed (calculateContainerSize subnetPadding subnetPadding.y (calculateSubnetGridPositionsByLayer ctx layouts))
  (iteration.order (layouts.map Prod.fst)).filterMap (fun subnetId => do
    let layout ← layouts.lookup subnetId
    let placed ← positions.lookup subnetId
    return ⟨.subnetNode layout.infraWidth, subnetId, placed.position, layout.size,
      (consolidated subnetId).map (consolidatedHeader showCidr ctx)⟩)

end rows

end VantageNet.Graph
