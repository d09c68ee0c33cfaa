import VantageNet.Graph.Rebuild

/-! What a diagram shows but for the places of its nodes, and from what of its entities that is built. -/

namespace VantageNet.Graph

open Inventory
open Subnets (Subnet)

def NodeType.isInfra : NodeType → Option Bool
  | .subnetNode _ => none
  | .interfaceNode _ _ _ isInfra => some isInfra

/-- The id of a node, its parent and its zone. -/
def Node.outline (n : Node) : Uuid × Option Uuid × Option Bool := (n.id, n.parent, n.nodeType.isInfra)

/-- Whether the node of an interface goes to the infra zone of a subnet. -/
def infraAt (ctx : TopologyContext) (subnetId interfaceId : Uuid) : Bool :=
  match ctx.getSubnetById subnetId with
  | some subnet => (ctx.getInterfacesWithInfraService subnet).contains (some interfaceId)
  | none => false

section zones

variable {drawing : Drawing} {guidance : Guidance} {ctx : TopologyContext} {nodes nodes' oldNodes : List Node}
  {edges oldEdges : List Edge} {subnetId : Uuid} {children : List SubnetChild}

theorem outline_of_fixed (h : nodes.map Node.fixed = nodes'.map Node.fixed) :
    nodes.map Node.outline = nodes'.map Node.outline := by
  have houtline := congrArg (List.map (fun f : NodeType × Uuid => (f.2, f.1.parent, f.1.isInfra))) h
  rwa [List.map_map, List.map_map] at houtline

theorem outline_zoneNodes {isInfra : Bool} {shift : ℤ} : (zoneNodes guidance subnetId isInfra shift children).map Node.outline =
    children.map (fun c => (c.id, some subnetId, some isInfra)) := by
  rw [zoneNodes, List.map_filterMap, ← List.filterMap_eq_map]
  refine List.filterMap_congr (fun c hc => ?_)
  obtain ⟨layout, hlayout⟩ := exists_zonePosition guidance hc
  rw [hlayout]
  rfl

theorem mem_partitionChildren {c : SubnetChild} (hc : c.interfaceId = some c.id) :
    (c ∈ (partitionChildren ctx subnetId children).1 ↔ c ∈ children ∧ infraAt ctx subnetId c.id = true) ∧
      (c ∈ (partitionChildren ctx subnetId children).2 ↔ c ∈ children ∧ infraAt ctx subnetId c.id = false) := by
  unfold partitionChildren infraAt
  cases ctx.getSubnetById subnetId with
  | none => simp
  | some subnet => simp [hc, List.mem_mergeSort]

theorem mem_outline_calculateSubnetSize (hchildren : ∀ c ∈ children, c.interfaceId = some c.id)
    {o : Uuid × Option Uuid × Option Bool} : o ∈ (calculateSubnetSize guidance ctx subnetId children).2.map Node.outline ↔
      ∃ c ∈ children, o = (c.id, some subnetId, some (infraAt ctx subnetId c.id)) := by
  unfold calculateSubnetSize
  dsimp only
  rw [List.map_append, outline_zoneNodes, outline_zoneNodes, List.mem_append, List.mem_map, List.mem_map]
  have hmem (c : SubnetChild) (hc : c ∈ (partitionChildren ctx subnetId children).1 ++ (partitionChildren ctx subnetId children).2) :
      c ∈ children := (partitionChildren_perm ctx subnetId children).mem_iff.mp hc
  constructor
  · rintro (⟨c, hc, rfl⟩ | ⟨c, hc, rfl⟩)
    · have hchild := hmem c (List.mem_append_left _ hc)
      have hinfra := (mem_partitionChildren (hchildren c hchild)).1.mp hc
      exact ⟨c, hchild, by rw [hinfra.2]⟩
    · have hchild := hmem c (List.mem_append_right _ hc)
      have hregular := (mem_partitionChildren (hchildren c hchild)).2.mp hc
      exact ⟨c, hchild, by rw [hregular.2]⟩
  · rintro ⟨c, hc, rfl⟩
    cases hzone : infraAt ctx subnetId c.id with
    | true => exact .inl ⟨c, (mem_partitionChildren (hchildren c hc)).1.mpr ⟨hc, hzone⟩, rfl⟩
    | false => exact .inr ⟨c, (mem_partitionChildren (hchildren c hc)).2.mpr ⟨hc, hzone⟩, rfl⟩

/-- Every child is that of an interface. -/
theorem interfaceId_of_mem_children {e : Uuid × SubnetChild} (he : e ∈ (groupChildrenBySubnet guidance ctx edges).children) :
    e.2.interfaceId = some e.2.id := by
  have hstep (grouping : Grouping) (i : Interface) (hgrouping : ∀ e ∈ grouping.children, e.2.interfaceId = some e.2.id) :
      ∀ e ∈ (groupInterface guidance ctx grouping i).children, e.2.interfaceId = some e.2.id := by
    intro e he
    unfold groupInterface at he
    split at he
    · exact hgrouping e he
    · split at he
      · exact hgrouping e he
      · dsimp only at he
        split at he
        · exact hgrouping e he
        · rcases List.mem_append.mp he with he | he
          · exact hgrouping e he
          · obtain rfl := List.mem_singleton.mp he
            rfl
  have hfold : ∀ e ∈ (ctx.interfaces.foldl (groupInterface guidance ctx) ⟨edges, [], []⟩).children,
      e.2.interfaceId = some e.2.id :=
    List.foldlRecOn (motive := fun g : Grouping => ∀ e ∈ g.children, e.2.interfaceId = some e.2.id) ctx.interfaces _
      (fun e he => (nomatch he)) (fun g hg i _ => hstep g i hg)
  exact hfold e he

theorem mem_outline_childNodes {iteration : HashOrder} {o : Uuid × Option Uuid × Option Bool} :
    o ∈ (createSubnetChildNodes guidance iteration ctx (groupChildrenBySubnet guidance ctx edges)).2.map Node.outline ↔
      ∃ e ∈ nodePlaces ctx, o = (e.2, some e.1, some (infraAt ctx e.1 e.2)) := by
  set grouping := groupChildrenBySubnet guidance ctx edges with hgrouping
  have hchildren (k : Uuid) : ∀ c ∈ grouping.childrenOf k, c.interfaceId = some c.id := by
    intro c hc
    obtain ⟨e, he, rfl⟩ := List.mem_map.mp hc
    exact interfaceId_of_mem_children (List.mem_filter.mp he).1
  have hplaces : grouping.children.map (fun e => (e.1, e.2.id)) = nodePlaces ctx := (groupChildrenBySubnet_spec guidance ctx edges).2
  rw [createSubnetChildNodes]
  dsimp only
  rw [List.flatMap_map, List.map_flatMap, List.mem_flatMap]
  simp only [mem_outline_calculateSubnetSize (hchildren _)]
  rw [← hplaces]
  constructor
  · rintro ⟨k, -, c, hc, rfl⟩
    obtain ⟨e, he, rfl⟩ := List.mem_map.mp hc
    obtain ⟨hlisted, hk⟩ := List.mem_filter.mp he
    obtain rfl := of_decide_eq_true hk
    exact ⟨(e.1, e.2.id), List.mem_map_of_mem hlisted, rfl⟩
  · rintro ⟨p, hp, rfl⟩
    obtain ⟨e, he, rfl⟩ := List.mem_map.mp hp
    refine ⟨e.1, (iteration.perm _).mem_iff.mpr (List.mem_dedup.mpr (List.mem_map_of_mem he)), e.2, ?_, rfl⟩
    exact List.mem_map.mpr ⟨e, List.mem_filter.mpr ⟨he, decide_eq_true rfl⟩, rfl⟩

/-- The nodes are those of the subnets with places that are listed, and of the interfaces with places. -/
theorem mem_outline_buildGraph {o : Uuid × Option Uuid × Option Bool} :
    o ∈ (buildGraph drawing ctx oldNodes oldEdges).1.map Node.outline ↔
      (∃ id ∈ ctx.subnets.map (fun s => s.id), id ∈ (nodePlaces ctx).map Prod.fst ∧ o = (id, none, none)) ∨
        ∃ e ∈ nodePlaces ctx, o = (e.2, some e.1, some (infraAt ctx e.1 e.2)) := by
  have hfixed : (buildGraph drawing ctx oldNodes oldEdges).1.map Node.outline =
      (createNodes drawing ctx (EdgeBuilder.createEdges ctx drawing.drawn)).map Node.outline := outline_of_fixed fixed_optimizeGraph
  have hsubnets (id : Uuid) : (none, id) ∈ (buildGraph drawing ctx oldNodes oldEdges).1.map Node.identity ↔
      id ∈ ctx.subnets.map (fun s => s.id) ∧ id ∈ (nodePlaces ctx).map Prod.fst := by
    rw [mem_identity_buildGraph]
    simp
  constructor
  · intro h
    obtain ⟨n, hn, rfl⟩ := List.mem_map.mp h
    cases htype : n.nodeType with
    | subnetNode width =>
      have hidentity : n.identity = (none, n.id) := by
        rw [Node.identity, Node.parent, htype]
      obtain ⟨hlisted, hplaced⟩ := (hsubnets n.id).mp (hidentity ▸ List.mem_map_of_mem hn)
      refine .inl ⟨n.id, hlisted, hplaced, ?_⟩
      rw [Node.outline, Node.parent, htype]
      rfl
    | interfaceNode subnetId hostId interfaceId isInfra =>
      rw [hfixed, createNodes] at h
      dsimp only at h
      rw [List.map_append, List.mem_append] at h
      rcases h with h | h
      · obtain ⟨m, hm, heq⟩ := List.mem_map.mp h
        have hnone := Node.isSubnet_iff.mp (of_mem_createSubnetNodes hm).1
        have hparent : m.parent = n.parent := congrArg (fun o => o.2.1) heq
        rw [hnone, Node.parent, htype] at hparent
        cases hparent
      · exact .inr (mem_outline_childNodes.mp h)
  · rintro (⟨id, hlisted, hplaced, rfl⟩ | h)
    · obtain ⟨n, hn, hidentity⟩ := List.mem_map.mp ((hsubnets id).mpr ⟨hlisted, hplaced⟩)
      obtain ⟨hparent, rfl⟩ := Prod.mk.inj hidentity
      refine List.mem_map.mpr ⟨n, hn, ?_⟩
      cases htype : n.nodeType with
      | subnetNode width =>
        rw [Node.outline, hparent, htype]
        rfl
      | interfaceNode subnetId hostId interfaceId isInfra =>
        rw [Node.parent, htype] at hparent
        cases hparent
    · rw [hfixed, createNodes]
      dsimp only
      rw [List.map_append]
      exact List.mem_append_right _ (mem_outline_childNodes.mpr h)

end zones

/-- The edges of a group: their types and the bindings they go from and to. -/
def Group.hops (group : Group) : List (EdgeType × Uuid × Uuid) :=
  match group.groupType with
  | .requestPath => (group.bindingIds.zip group.bindingIds.tail).map (fun w => (.requestPath group.id w.1 w.2, w))
  | .hubAndSpoke =>
    match group.bindingIds with
    | hub :: spokes => spokes.reverse.map (fun spoke => (.hubAndSpoke group.id hub spoke, hub, spoke))
    | [] => []

namespace EdgeBuilder

variable (ctx : TopologyContext)

theorem kind_edge (source targetInterface target : Uuid) (edgeType : EdgeType) (label : Option String) :
    (edge ctx source targetInterface target edgeType label).map Edge.kind =
      if (ctx.getSubnetFromInterfaceId source).isSome && (ctx.getSubnetFromInterfaceId targetInterface).isSome then
        some (source, target, edgeType)
      else none := by
  unfold edge determineInterfaceHandles
  cases ctx.getSubnetFromInterfaceId source <;> cases ctx.getSubnetFromInterfaceId targetInterface <;> rfl

theorem kind_drawn {a b : Option Edge} (h : a.map Edge.kind = b.map Edge.kind) (drawn : Bool) :
    (a.bind (fun e => if drawn then some e else none)).map Edge.kind =
      (b.bind (fun e => if drawn then some e else none)).map Edge.kind := by
  cases drawn with
  | true => simpa using h
  | false => simp

/-- The endpoints and the type of the edge for one hop of a group, if it is drawn. -/
def hopKind (hop : EdgeType × Uuid × Uuid) : Option (Uuid × Uuid × EdgeType) := do
  let source ← boundInterface ctx hop.2.1
  let target ← boundInterface ctx hop.2.2
  if ctx.interfaceWillHaveNode source && ctx.interfaceWillHaveNode target then
    if (ctx.getSubnetFromInterfaceId source).isSome && (ctx.getSubnetFromInterfaceId target).isSome then
      some (source, target, hop.1)
    else none
  else none

theorem kind_edgeFromServiceBindings (group : Group) (source target : Uuid) :
    (edgeFromServiceBindings ctx group source target).map Edge.kind =
      hopKind ctx (match group.groupType with
        | .hubAndSpoke => .hubAndSpoke group.id source target
        | .requestPath => .requestPath group.id source target, source, target) := by
  unfold edgeFromServiceBindings hopKind
  dsimp only
  cases boundInterface ctx source with
  | none => rfl
  | some i =>
    cases boundInterface ctx target with
    | none => rfl
    | some j =>
      simp only [Option.bind_eq_bind, Option.bind_some]
      cases ctx.interfaceWillHaveNode i && ctx.interfaceWillHaveNode j with
      | true => exact kind_edge ..
      | false => rfl

theorem kinds_createEdges (drawn : ℕ → Uuid) : (createEdges ctx drawn).map Edge.kind =
    (createInterfaceEdges ctx ++ createGroupEdges ctx ++ createVmHostEdges ctx ++ createContainerizedServiceEdges ctx).map
      Edge.kind := by
  rw [createEdges, List.mapIdx_eq_zipIdx_map, List.map_map]
  conv_rhs => rw [← List.zipIdx_map_fst 0 (createInterfaceEdges ctx ++ _ ++ _ ++ _), List.map_map]
  rfl

theorem kinds_createGroupEdges :
    (createGroupEdges ctx).map Edge.kind = (ctx.groups.flatMap Group.hops).filterMap (hopKind ctx) := by
  rw [createGroupEdges, List.map_flatMap, List.filterMap_flatMap]
  refine List.flatMap_congr (fun group _ => ?_)
  cases hgroup : group.groupType with
  | requestPath =>
    simp only [Group.hops, hgroup, List.map_filterMap, List.filterMap_map, Function.comp_def, kind_edgeFromServiceBindings]
  | hubAndSpoke =>
    cases hids : group.bindingIds with
    | nil => simp only [Group.hops, hgroup, hids, List.map_nil, List.filterMap_nil]
    | cons hub spokes =>
      simp only [Group.hops, hgroup, hids, List.map_filterMap, List.filterMap_map, Function.comp_def, kind_edgeFromServiceBindings]

end EdgeBuilder

section infrastructure

variable {ctx : TopologyContext} {subnet : Subnet} {s : Inventory.Service}

theorem hasInterfaceWithService_iff {interfaces : List Interface} : hasInterfaceWithService subnet interfaces s = true ↔
    ∃ at_ ∈ toBoundInterfaceIds s, ∃ i ∈ interfaces, (∀ id, at_ = some id → i.id = id) ∧ i.base.subnetId = subnet.id := by
  rw [hasInterfaceWithService, List.any_eq_true, toBoundInterfaceIds]
  simp only [List.mem_map, exists_exists_and_eq_and, List.any_eq_true, Bool.and_eq_true, decide_eq_true_eq]
  refine exists_congr (fun b => and_congr_right (fun _ => exists_congr (fun i => and_congr_right (fun _ => and_congr_left' ?_))))
  cases b.base.bindingType.interfaceId with
  | none => simp
  | some id => simp

/-- Whether the interfaces of a service that are on a subnet belong to its infra zone. -/
def isInfraService (ctx : TopologyContext) (subnet : Subnet) (s : Inventory.Service) : Bool :=
  match ctx.getHostById s.base.hostId with
  | some host =>
    (ctx.options.leftZoneServiceCategories.contains (ctx.category s.base.serviceDefinition) ||
      (ctx.options.showGatewayInLeftZone && s.base.serviceDefinition.isGateway)) &&
      hasInterfaceWithService subnet (ctx.getInterfacesForHost host.id) s
  | none => false

theorem contains_getInterfacesWithInfraService_iff {interfaceId : Uuid} :
    (ctx.getInterfacesWithInfraService subnet).contains (some interfaceId) = true ↔
      ∃ s ∈ ctx.services, some interfaceId ∈ toBoundInterfaceIds s ∧ isInfraService ctx subnet s = true := by
  rw [List.contains_iff_mem, TopologyContext.getInterfacesWithInfraService, List.mem_flatMap]
  refine exists_congr (fun s => ?_)
  rw [List.mem_filter, and_assoc, and_comm (a := some interfaceId ∈ _)]
  rfl

end infrastructure

/-- The other snapshot has the same entities as far as a diagram shows them. -/
structure Relabelled (ctx ctx' : TopologyContext) where
  host : Host → Host
  interface : Interface → Interface
  subnet : Subnet → Subnet
  service : Inventory.Service → Inventory.Service
  group : Group → Group
  hosts : ctx'.hosts = ctx.hosts.map host
  interfaces : ctx'.interfaces = ctx.interfaces.map interface
  subnets : ctx'.subnets = ctx.subnets.map subnet
  services : ctx'.services = ctx.services.map service
  groups : ctx'.groups = ctx.groups.map group
  options : ctx'.options = ctx.options
  host_reads : ∀ h, (host h).id = h.id ∧ (host h).base.virtualization = h.base.virtualization
  interface_reads : ∀ i, (interface i).id = i.id ∧ (interface i).base.hostId = i.base.hostId ∧
    (interface i).base.subnetId = i.base.subnetId
  subnet_reads : ∀ s, (subnet s).id = s.id ∧
    (subnet s).base.subnetType.isDockerBridge = s.base.subnetType.isDockerBridge
  service_reads : ∀ s, (service s).id = s.id ∧ (service s).base.hostId = s.base.hostId ∧
    (service s).base.virtualization = s.base.virtualization ∧ toBoundInterfaceIds (service s) = toBoundInterfaceIds s
  zones : ∀ s, (∃ id, some id ∈ toBoundInterfaceIds s) →
    ctx'.category (service s).base.serviceDefinition = ctx.category s.base.serviceDefinition ∧
      (service s).base.serviceDefinition.isGateway = s.base.serviceDefinition.isGateway
  group_reads : ∀ g, (group g).hops = g.hops
  bindings : ∀ id, EdgeBuilder.boundInterface ctx' id = EdgeBuilder.boundInterface ctx id

namespace Relabelled

variable {ctx ctx' : TopologyContext} (h : Relabelled ctx ctx')

include h

theorem getSubnetById (id : Uuid) : ctx'.getSubnetById id = (ctx.getSubnetById id).map h.subnet := by
  simp only [TopologyContext.getSubnetById, h.subnets, List.find?_map, Function.comp_def, h.subnet_reads]

theorem getHostById (id : Uuid) : ctx'.getHostById id = (ctx.getHostById id).map h.host := by
  simp only [TopologyContext.getHostById, h.hosts, List.find?_map, Function.comp_def, h.host_reads]

theorem getServiceById (id : Uuid) : ctx'.getServiceById id = (ctx.getServiceById id).map h.service := by
  simp only [TopologyContext.getServiceById, h.services, List.find?_map, Function.comp_def, h.service_reads]

theorem getInterfacesForHost (hostId : Uuid) :
    ctx'.getInterfacesForHost hostId = (ctx.getInterfacesForHost hostId).map h.interface := by
  simp only [TopologyContext.getInterfacesForHost, h.interfaces, List.filter_map, Function.comp_def, h.interface_reads]

theorem isDockerBridge (subnetId : Uuid) : (ctx'.getSubnetById subnetId).map (fun s => s.base.subnetType.isDockerBridge) =
    (ctx.getSubnetById subnetId).map (fun s => s.base.subnetType.isDockerBridge) := by
  rw [h.getSubnetById, Option.map_map]
  exact congrArg (Option.map · _) (funext (fun s => (h.subnet_reads s).2))

theorem getFirstNonDockerBridgeInterfaceForHost (hostId : Uuid) : ctx'.getFirstNonDockerBridgeInterfaceForHost hostId =
    (ctx.getFirstNonDockerBridgeInterfaceForHost hostId).map h.interface := by
  simp only [TopologyContext.getFirstNonDockerBridgeInterfaceForHost, h.interfaces, List.find?_map, Function.comp_def,
    h.interface_reads, h.getSubnetById]
  refine congrArg (Option.map _) (congrArg (List.find? · _) (funext (fun i => ?_)))
  cases ctx.getSubnetById i.base.subnetId with
  | none => rfl
  | some subnet => simp only [Option.map_some, h.subnet_reads]

theorem getSubnetFromInterfaceId (interfaceId : Uuid) :
    ctx'.getSubnetFromInterfaceId interfaceId = (ctx.getSubnetFromInterfaceId interfaceId).map h.subnet := by
  simp only [TopologyContext.getSubnetFromInterfaceId, h.interfaces, List.find?_map, Function.comp_def, h.interface_reads,
    Option.bind_map, h.getSubnetById, Option.map_bind]

theorem interfaceWillHaveNode (interfaceId : Uuid) : ctx'.interfaceWillHaveNode interfaceId = ctx.interfaceWillHaveNode interfaceId := by
  simp only [TopologyContext.interfaceWillHaveNode, TopologyContext.getServicesBoundToInterface, h.services, List.filter_map,
    Function.comp_def, h.service_reads, List.isEmpty_map]

theorem kind_edge (source targetInterface target : Uuid) (edgeType : EdgeType) (label label' : Option String) :
    (EdgeBuilder.edge ctx' source targetInterface target edgeType label').map Edge.kind =
      (EdgeBuilder.edge ctx source targetInterface target edgeType label).map Edge.kind := by
  rw [EdgeBuilder.kind_edge, EdgeBuilder.kind_edge, h.getSubnetFromInterfaceId, h.getSubnetFromInterfaceId, Option.isSome_map,
    Option.isSome_map]

theorem kind_interfaceEdge (host : Host) (origin interface : Interface) :
    (EdgeBuilder.interfaceEdge ctx' (h.host host) (h.interface origin) (h.interface interface)).map Edge.kind =
      (EdgeBuilder.interfaceEdge ctx host origin interface).map Edge.kind := by
  have hbridge (subnetId : Uuid) : (ctx'.getSubnetById subnetId).any (fun s => s.base.subnetType.isDockerBridge) =
      (ctx.getSubnetById subnetId).any (fun s => s.base.subnetType.isDockerBridge) := by
    rw [h.getSubnetById, Option.any_map]
    exact congrArg (Option.any · _) (funext (fun s => (h.subnet_reads s).2))
  simp only [EdgeBuilder.interfaceEdge, hbridge, h.interface_reads, h.host_reads]
  split_ifs
  · rfl
  · rfl
  all_goals exact h.kind_edge ..

theorem kinds_createInterfaceEdges :
    (EdgeBuilder.createInterfaceEdges ctx').map Edge.kind = (EdgeBuilder.createInterfaceEdges ctx).map Edge.kind := by
  rw [EdgeBuilder.createInterfaceEdges, EdgeBuilder.createInterfaceEdges, h.hosts, List.flatMap_map, List.map_flatMap,
    List.map_flatMap]
  refine List.flatMap_congr (fun host _ => ?_)
  simp only [h.host_reads, h.getFirstNonDockerBridgeInterfaceForHost, h.getInterfacesForHost]
  cases ctx.getFirstNonDockerBridgeInterfaceForHost host.id with
  | none => rfl
  | some origin =>
    simp only [Option.map_some, List.filter_map, List.filterMap_map, List.map_filterMap, Function.comp_def, h.interface_reads,
      h.interfaceWillHaveNode, h.kind_interfaceEdge]

theorem kinds_createGroupEdges :
    (EdgeBuilder.createGroupEdges ctx').map Edge.kind = (EdgeBuilder.createGroupEdges ctx).map Edge.kind := by
  rw [EdgeBuilder.kinds_createGroupEdges, EdgeBuilder.kinds_createGroupEdges, h.groups, List.flatMap_map]
  simp only [h.group_reads]
  refine List.filterMap_congr (fun hop _ => ?_)
  simp only [EdgeBuilder.hopKind, h.bindings, h.interfaceWillHaveNode, h.getSubnetFromInterfaceId, Option.isSome_map]

theorem proxmoxServiceId (x : Host) : EdgeBuilder.proxmoxServiceId (h.host x) = EdgeBuilder.proxmoxServiceId x := by
  rw [EdgeBuilder.proxmoxServiceId, (h.host_reads x).2]
  rfl

theorem boundIds (s : Inventory.Service) : (h.service s).base.bindings.filterMap (fun b => b.base.bindingType.interfaceId) =
    s.base.bindings.filterMap (fun b => b.base.bindingType.interfaceId) := by
  have hids := congrArg (List.filterMap id) (h.service_reads s).2.2.2
  rwa [toBoundInterfaceIds, toBoundInterfaceIds, List.filterMap_map, List.filterMap_map] at hids

theorem subnetToProxmoxHostInterfaceId :
    EdgeBuilder.subnetToProxmoxHostInterfaceId ctx' = EdgeBuilder.subnetToProxmoxHostInterfaceId ctx := by
  rw [EdgeBuilder.subnetToProxmoxHostInterfaceId, EdgeBuilder.subnetToProxmoxHostInterfaceId, h.hosts, List.flatMap_map]
  refine List.flatMap_congr (fun x _ => ?_)
  rw [h.proxmoxServiceId]
  cases EdgeBuilder.proxmoxServiceId x with
  | none => rfl
  | some serviceId =>
    simp only [Option.bind_some, h.getServiceById]
    cases ctx.getServiceById serviceId with
    | none => rfl
    | some service =>
      simp only [Option.map_some, h.boundIds, h.getSubnetFromInterfaceId, Option.map_map, Function.comp_def, h.subnet_reads,
        h.service_reads]

theorem vmHostIdToProxmoxService (hostId : Uuid) :
    EdgeBuilder.vmHostIdToProxmoxService ctx' hostId = EdgeBuilder.vmHostIdToProxmoxService ctx hostId := by
  simp only [EdgeBuilder.vmHostIdToProxmoxService, h.hosts, List.filterMap_map, Function.comp_def, h.proxmoxServiceId,
    h.host_reads]

theorem kinds_createVmHostEdges :
    (EdgeBuilder.createVmHostEdges ctx').map Edge.kind = (EdgeBuilder.createVmHostEdges ctx).map Edge.kind := by
  rw [EdgeBuilder.createVmHostEdges, EdgeBuilder.createVmHostEdges, h.hosts, List.flatMap_map, List.map_flatMap,
    List.map_flatMap]
  refine List.flatMap_congr (fun x _ => ?_)
  rw [h.vmHostIdToProxmoxService, (h.host_reads x).1]
  cases EdgeBuilder.vmHostIdToProxmoxService ctx x.id with
  | none => rfl
  | some serviceId =>
    simp only [h.getInterfacesForHost, List.filterMap_map, List.map_filterMap, h.subnetToProxmoxHostInterfaceId]
    refine List.filterMap_congr (fun i _ => ?_)
    simp only [Function.comp_apply, h.interface_reads, h.interfaceWillHaveNode]
    cases (EdgeBuilder.subnetToProxmoxHostInterfaceId ctx).lookup (i.base.subnetId, serviceId) with
    | none => rfl
    | some source =>
      simp only [Option.bind_eq_bind, Option.bind_some]
      split_ifs
      · exact h.kind_edge ..
      · rfl

theorem containerizedServiceIds (serviceId : Uuid) :
    EdgeBuilder.containerizedServiceIds ctx' serviceId = EdgeBuilder.containerizedServiceIds ctx serviceId := by
  simp only [EdgeBuilder.containerizedServiceIds, h.services, List.filter_map, List.map_map, Function.comp_def, h.service_reads]

theorem dockerServices : EdgeBuilder.dockerServices ctx' =
    (EdgeBuilder.dockerServices ctx).map (Prod.map h.service (Prod.map h.host h.interface)) := by
  simp only [EdgeBuilder.dockerServices, h.services, List.filter_map, List.filterMap_map, List.map_filterMap,
    Function.comp_def, h.service_reads, h.containerizedServiceIds, h.getHostById]
  refine List.filterMap_congr (fun s _ => ?_)
  cases ctx.getHostById s.base.hostId with
  | none => rfl
  | some host =>
    simp only [Option.map_some, Option.bind_eq_bind, Option.bind_some, h.host_reads, h.getFirstNonDockerBridgeInterfaceForHost]
    cases ctx.getFirstNonDockerBridgeInterfaceForHost host.id <;> rfl

theorem containerSubnets (hostId : Uuid) : EdgeBuilder.containerSubnets ctx' hostId = EdgeBuilder.containerSubnets ctx hostId := by
  simp only [EdgeBuilder.containerSubnets, h.getInterfacesForHost, List.filterMap_map, List.filterMap_filterMap]
  refine List.filterMap_congr (fun i _ => ?_)
  simp only [Function.comp_apply, h.interface_reads, h.getSubnetById, Option.bind_map]
  exact congrArg _ (funext (fun s => by simp only [h.subnet_reads]))

theorem containerSubnetInterfaceIds (hostId : Uuid) :
    EdgeBuilder.containerSubnetInterfaceIds ctx' hostId = EdgeBuilder.containerSubnetInterfaceIds ctx hostId := by
  simp only [EdgeBuilder.containerSubnetInterfaceIds, h.getInterfacesForHost, h.containerSubnets, List.filter_map, List.map_map,
    Function.comp_def, h.interface_reads]

theorem groupedBridgeEdge (s : Inventory.Service) (host : Host) (origin : Interface) :
    (EdgeBuilder.groupedBridgeEdge ctx' (h.service s) (h.host host) (h.interface origin)).map (fun x => (x.1.kind, x.2)) =
      (EdgeBuilder.groupedBridgeEdge ctx s host origin).map (fun x => (x.1.kind, x.2)) := by
  simp only [EdgeBuilder.groupedBridgeEdge, h.host_reads, h.service_reads, h.interface_reads, h.containerSubnetInterfaceIds,
    h.containerSubnets]
  cases (EdgeBuilder.containerSubnetInterfaceIds ctx host.id).head? with
  | none => rfl
  | some interfaceId =>
    cases (EdgeBuilder.containerSubnets ctx host.id).head? with
    | none => rfl
    | some subnetId =>
      have hedge := congrArg (Option.map (fun k => (k, subnetId))) (h.kind_edge origin.id interfaceId subnetId
        (.serviceVirtualization host.id s.id) (some (s.base.name ++ " @ " ++ host.base.name))
        (some ((h.service s).base.name ++ " @ " ++ (h.host host).base.name)))
      rw [Option.map_map, Option.map_map, Option.map_eq_bind, Option.map_eq_bind] at hedge
      simp only [Option.bind_eq_bind, Option.bind_some, Option.map_bind]
      exact hedge

theorem kind_containerEdge (s : Inventory.Service) (host : Host) (origin : Interface) (containerizedId : Uuid) :
    (EdgeBuilder.containerEdge ctx' (h.service s) (h.host host) (h.interface origin) containerizedId).map Edge.kind =
      (EdgeBuilder.containerEdge ctx s host origin containerizedId).map Edge.kind := by
  simp only [EdgeBuilder.containerEdge, h.host_reads, h.service_reads, h.interface_reads, h.getServiceById,
    h.containerSubnetInterfaceIds, h.interfaceWillHaveNode]
  cases ctx.getServiceById containerizedId with
  | none => rfl
  | some containerized =>
    simp only [Option.map_some, Option.bind_eq_bind, Option.bind_some, h.boundIds]
    cases (containerized.base.bindings.filterMap (fun b => b.base.bindingType.interfaceId)).find?
        (fun i => (EdgeBuilder.containerSubnetInterfaceIds ctx host.id).contains i) with
    | none => rfl
    | some interfaceId =>
      have hedge := h.kind_edge origin.id interfaceId interfaceId (.serviceVirtualization host.id s.id)
        (some (s.base.name ++ " on " ++ host.base.name)) (some ((h.service s).base.name ++ " on " ++ (h.host host).base.name))
      exact EdgeBuilder.kind_drawn hedge _

theorem kinds_createContainerizedServiceEdges : (EdgeBuilder.createContainerizedServiceEdges ctx').map Edge.kind =
    (EdgeBuilder.createContainerizedServiceEdges ctx).map Edge.kind := by
  rw [EdgeBuilder.createContainerizedServiceEdges, EdgeBuilder.createContainerizedServiceEdges, h.dockerServices, h.options,
    List.flatMap_map, List.map_flatMap, List.map_flatMap]
  refine List.flatMap_congr (fun ⟨s, host, origin⟩ _ => ?_)
  dsimp only [Prod.map]
  by_cases hgrouping : ctx.options.groupDockerBridgesByHost = true
  · rw [if_pos hgrouping, if_pos hgrouping]
    have hbridge := h.groupedBridgeEdge s host origin
    rw [(h.interface_reads origin).1, h.interfaceWillHaveNode]
    cases hnew : EdgeBuilder.groupedBridgeEdge ctx' (h.service s) (h.host host) (h.interface origin) with
    | none =>
      rw [hnew] at hbridge
      rw [Option.map_eq_none_iff.mp hbridge.symm]
    | some x =>
      rw [hnew] at hbridge
      obtain ⟨y, hold, heq⟩ := Option.map_eq_some_iff.mp hbridge.symm
      rw [hold]
      dsimp only
      split_ifs
      · exact congrArg (fun k => [k]) (Prod.mk.inj heq).1.symm
      · rfl
  · rw [if_neg hgrouping, if_neg hgrouping, (h.service_reads s).1, h.containerizedServiceIds, List.map_filterMap, List.map_filterMap]
    exact List.filterMap_congr (fun id _ => h.kind_containerEdge s host origin id)

theorem subnetIdToGroupOn (hostId : Uuid) : EdgeBuilder.subnetIdToGroupOn ctx' hostId = EdgeBuilder.subnetIdToGroupOn ctx hostId := by
  unfold EdgeBuilder.subnetIdToGroupOn
  rw [h.options, h.dockerServices, List.filterMap_map]
  split_ifs
  · refine congrArg (List.lookup hostId) (List.filterMap_congr (fun ⟨s, host, origin⟩ _ => ?_))
    have hbridge := congrArg (Option.map (fun x : (Uuid × Uuid × EdgeType) × Uuid => (host.id, x.2)))
      (h.groupedBridgeEdge s host origin)
    rw [Option.map_map, Option.map_map] at hbridge
    dsimp only [Function.comp_apply, Prod.map]
    rw [(h.host_reads host).1]
    exact hbridge
  · rfl

theorem kinds_createEdges (drawn drawn' : ℕ → Uuid) :
    (EdgeBuilder.createEdges ctx' drawn').map Edge.kind = (EdgeBuilder.createEdges ctx drawn).map Edge.kind := by
  rw [EdgeBuilder.kinds_createEdges, EdgeBuilder.kinds_createEdges, List.map_append, List.map_append, List.map_append,
    h.kinds_createInterfaceEdges, h.kinds_createGroupEdges, h.kinds_createVmHostEdges, h.kinds_createContainerizedServiceEdges,
    ← List.map_append, ← List.map_append, ← List.map_append]

theorem interfaceBoundServices (i : Interface) :
    (Graph.interfaceBoundServices ctx' (h.interface i)).isEmpty = (Graph.interfaceBoundServices ctx i).isEmpty := by
  have hiff : (Graph.interfaceBoundServices ctx' (h.interface i)).isEmpty = false ↔
      (Graph.interfaceBoundServices ctx i).isEmpty = false := by
    simp only [isEmpty_interfaceBoundServices_iff, h.services, List.mem_map, exists_exists_and_eq_and, isBoundTo, isBoundToAll,
      h.service_reads, h.interface_reads]
  rw [← Bool.not_inj_iff, Bool.eq_iff_iff, Bool.not_eq_true', Bool.not_eq_true']
  exact hiff

theorem nodePlace (i : Interface) : Graph.nodePlace ctx' (h.interface i) = Graph.nodePlace ctx i := by
  have htype : (subnetTypeOf ctx' (h.interface i)).isDockerBridge = (subnetTypeOf ctx i).isDockerBridge := by
    rw [subnetTypeOf, subnetTypeOf, h.getSubnetById, (h.interface_reads i).2.2]
    cases ctx.getSubnetById i.base.subnetId with
    | none => rfl
    | some subnet => exact (h.subnet_reads subnet).2
  rw [Graph.nodePlace, Graph.nodePlace, h.getHostById, (h.interface_reads i).2.1, h.interfaceBoundServices]
  cases ctx.getHostById i.base.hostId with
  | none => rfl
  | some host =>
    simp only [Option.map_some, groupingSubnet, h.options, htype, h.subnetIdToGroupOn, h.host_reads, h.interface_reads]

theorem nodePlaces : Graph.nodePlaces ctx' = Graph.nodePlaces ctx := by
  simp only [Graph.nodePlaces, h.interfaces, List.filterMap_map, Function.comp_def, h.nodePlace, h.interface_reads]

theorem hasInterfaceWithService (subnet : Subnet) (interfaces : List Interface) (s : Inventory.Service) :
    Graph.hasInterfaceWithService (h.subnet subnet) (interfaces.map h.interface) (h.service s) =
      Graph.hasInterfaceWithService subnet interfaces s := by
  rw [Bool.eq_iff_iff]
  simp only [hasInterfaceWithService_iff, h.service_reads, h.subnet_reads, List.mem_map, exists_exists_and_eq_and,
    h.interface_reads]

theorem infraAt (subnetId interfaceId : Uuid) : Graph.infraAt ctx' subnetId interfaceId = Graph.infraAt ctx subnetId interfaceId := by
  unfold Graph.infraAt
  rw [h.getSubnetById]
  cases ctx.getSubnetById subnetId with
  | none => rfl
  | some subnet =>
    rw [Option.map_some, Bool.eq_iff_iff]
    simp only [contains_getInterfacesWithInfraService_iff, h.services, List.mem_map, exists_exists_and_eq_and]
    refine exists_congr (fun s => and_congr_right (fun _ => ?_))
    rw [(h.service_reads s).2.2.2]
    refine and_congr_right (fun hbound => ?_)
    obtain ⟨hcategory, hgateway⟩ := h.zones s ⟨interfaceId, hbound⟩
    rw [isInfraService, isInfraService, hcategory, hgateway, h.options, h.getHostById, (h.service_reads s).2.1]
    cases ctx.getHostById s.base.hostId with
    | none => rfl
    | some host =>
      simp only [Option.map_some, h.host_reads, h.getInterfacesForHost, h.hasInterfaceWithService]

end Relabelled

/-- The same nodes with their parents and zones, and the same edges with their endpoints and types. -/
def SameDiagram (a b : List Node × List Edge) : Prop :=
  (∀ o, o ∈ a.1.map Node.outline ↔ o ∈ b.1.map Node.outline) ∧ a.2.map Edge.kind = b.2.map Edge.kind

theorem Relabelled.sameDiagram {ctx ctx' : TopologyContext} (h : Relabelled ctx ctx') (drawing drawing' : Drawing)
    (oldNodes oldNodes' : List Node) (oldEdges oldEdges' : List Edge) :
    SameDiagram (buildGraph drawing ctx oldNodes oldEdges) (buildGraph drawing' ctx' oldNodes' oldEdges') := by
  have hsubnets : ctx'.subnets.map (fun s => s.id) = ctx.subnets.map (fun s => s.id) := by
    simp only [h.subnets, List.map_map, Function.comp_def, h.subnet_reads]
  have hnodes (o : Uuid × Option Uuid × Option Bool) : o ∈ (buildGraph drawing ctx oldNodes oldEdges).1.map Node.outline ↔
      o ∈ (buildGraph drawing' ctx' oldNodes' oldEdges').1.map Node.outline := by
    simp only [mem_outline_buildGraph, hsubnets, h.nodePlaces, h.infraAt]
  refine ⟨hnodes, ?_⟩
  have hany (id : Uuid) : (buildGraph drawing ctx oldNodes oldEdges).1.any (fun n => n.id = id) =
      (buildGraph drawing' ctx' oldNodes' oldEdges').1.any (fun n => n.id = id) := by
    have hids (nodes : List Node) : nodes.any (fun n => n.id = id) = true ↔ ∃ o ∈ nodes.map Node.outline, o.1 = id := by
      simp only [List.any_eq_true, decide_eq_true_eq, List.mem_map, exists_exists_and_eq_and, Node.outline]
    rw [Bool.eq_iff_iff, hids, hids]
    exact exists_congr (fun o => and_congr_left' (hnodes o))
  rw [kinds_of_bare (bare_buildGraph drawing ctx oldNodes oldEdges), kinds_of_bare (bare_buildGraph drawing' ctx' oldNodes' oldEdges'),
    kinds_addEdgesToGraph, kinds_addEdgesToGraph, h.kinds_createEdges drawing.drawn drawing'.drawn]
  simp only [hany]

end VantageNet.Graph
