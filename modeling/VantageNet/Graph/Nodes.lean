import VantageNet.Graph.Separation

/-! Which nodes and edges a topology is built of. -/

namespace VantageNet.Graph

open Inventory
open Subnets (Subnet)
open SubnetPositioner (mem_grouped)

section grouping

variable {guidance : Guidance} {ctx : TopologyContext} {edges : List Edge}

/-- The subnet that an interface gets a node in. -/
def nodePlace (ctx : TopologyContext) (i : Interface) : Option Uuid :=
  match ctx.getHostById i.base.hostId with
  | none => none
  | some host => if (interfaceBoundServices ctx i).isEmpty then none else groupingSubnet ctx i host

/-- The subnets and the ids of the nodes that are drawn. -/
def nodePlaces (ctx : TopologyContext) : List (Uuid × Uuid) :=
  ctx.interfaces.filterMap (fun i => (nodePlace ctx i).map (fun subnetId => (subnetId, i.id)))

/-- An edge but for its handles. -/
def Edge.bare (e : Edge) : Edge := e.withHandles (.top, .top)

theorem bare_planAnchors (interfaceId : Uuid) : (ChildAnchorPlanner.planAnchors ctx interfaceId edges).map Edge.bare = edges.map Edge.bare := by
  unfold ChildAnchorPlanner.planAnchors
  dsimp only
  split
  · rfl
  · split
    · rw [List.map_map]
      refine List.map_congr_left (fun e _ => ?_)
      rw [Function.comp_apply]
      split <;> rfl
    · rfl

theorem groupInterface_spec (guidance : Guidance) (ctx : TopologyContext) (grouping : Grouping) (i : Interface) :
    (groupInterface guidance ctx grouping i).edges.map Edge.bare = grouping.edges.map Edge.bare ∧
      (groupInterface guidance ctx grouping i).children.map (fun e => (e.1, e.2.id)) =
        grouping.children.map (fun e => (e.1, e.2.id)) ++
          ((nodePlace ctx i).map (fun subnetId => (subnetId, i.id))).toList := by
  unfold groupInterface nodePlace
  cases ctx.getHostById i.base.hostId with
  | none => exact ⟨rfl, (List.append_nil _).symm⟩
  | some host =>
    dsimp only
    split
    · exact ⟨rfl, (List.append_nil _).symm⟩
    · cases groupingSubnet ctx i host with
      | none => exact ⟨bare_planAnchors i.id, (List.append_nil _).symm⟩
      | some subnetId =>
        refine ⟨bare_planAnchors i.id, ?_⟩
        rw [List.map_append]
        rfl

theorem groupChildrenBySubnet_spec (guidance : Guidance) (ctx : TopologyContext) (edges : List Edge) :
    (groupChildrenBySubnet guidance ctx edges).edges.map Edge.bare = edges.map Edge.bare ∧
      (groupChildrenBySubnet guidance ctx edges).children.map (fun e => (e.1, e.2.id)) = nodePlaces ctx := by
  have hfold : ∀ (interfaces : List Interface) (grouping : Grouping),
      (interfaces.foldl (groupInterface guidance ctx) grouping).edges.map Edge.bare = grouping.edges.map Edge.bare ∧
        (interfaces.foldl (groupInterface guidance ctx) grouping).children.map (fun e => (e.1, e.2.id)) =
          grouping.children.map (fun e => (e.1, e.2.id)) ++
            interfaces.filterMap (fun i => (nodePlace ctx i).map (fun subnetId => (subnetId, i.id))) := by
    intro interfaces
    induction interfaces with
    | nil => exact fun grouping => ⟨rfl, (List.append_nil _).symm⟩
    | cons i rest ih =>
      intro grouping
      obtain ⟨hedges, hchildren⟩ := groupInterface_spec guidance ctx grouping i
      obtain ⟨hedges', hchildren'⟩ := ih (groupInterface guidance ctx grouping i)
      refine ⟨hedges'.trans hedges, ?_⟩
      rw [List.foldl_cons, hchildren', hchildren, List.append_assoc, List.filterMap_cons]
      cases nodePlace ctx i <;> rfl
  obtain ⟨hedges, hchildren⟩ := hfold ctx.interfaces ⟨edges, [], []⟩
  exact ⟨hedges, hchildren.trans (List.nil_append _)⟩

end grouping

section children

variable {guidance : Guidance} {ctx : TopologyContext} {subnetId : Uuid} {isInfra : Bool} {shift : ℤ}
  {children : List SubnetChild}

theorem exists_zonePosition (guidance : Guidance) {c : SubnetChild} (hc : c ∈ children) :
    ∃ layout, (zonePositions guidance children).lookup c.id = some layout := by
  refine exists_lookup ?_
  obtain ⟨cell, hcell⟩ := exists_cell guidance hc
  rw [zonePositions, if_neg (by simpa using List.ne_nil_of_mem hc), calculateAnchorBasedPositions,
    if_neg (by simpa using List.ne_nil_of_mem hc)]
  refine mem_keys_hashed.mpr ?_
  rw [List.map_map]
  exact List.mem_map_of_mem ((rowMajor_perm (tiled_placedGrid guidance children)).mem_iff.mpr hcell)

/-- Every child has a node. -/
theorem ids_zoneNodes : (zoneNodes guidance subnetId isInfra shift children).map (fun n => (n.parent, n.id)) =
    children.map (fun c => (some subnetId, c.id)) := by
  rw [zoneNodes, List.map_filterMap, ← List.filterMap_eq_map]
  refine List.filterMap_congr (fun c hc => ?_)
  obtain ⟨layout, hlayout⟩ := exists_zonePosition guidance hc
  rw [hlayout]
  rfl

theorem ids_calculateSubnetSize_perm : ((calculateSubnetSize guidance ctx subnetId children).2.map (fun n => (n.parent, n.id))).Perm
    (children.map (fun c => (some subnetId, c.id))) := by
  unfold calculateSubnetSize
  dsimp only
  rw [List.map_append, ids_zoneNodes, ids_zoneNodes, ← List.map_append]
  exact (partitionChildren_perm ctx subnetId children).map _

theorem filter_perm_flatMap {α : Type} {l : List (Uuid × α)} {keys : List Uuid} (h : keys.Nodup) :
    (keys.flatMap (fun k => l.filter (fun e => e.1 = k))).Perm (l.filter (fun e => e.1 ∈ keys)) := by
  induction keys with
  | nil => simp
  | cons k keys ih =>
    rw [List.nodup_cons] at h
    rw [List.flatMap_cons]
    refine ((List.Perm.refl _).append (ih h.2)).trans ?_
    have hsplit := List.filter_append_perm (fun e : Uuid × α => decide (e.1 = k)) (l.filter (fun e => e.1 ∈ k :: keys))
    rw [List.filter_filter, List.filter_filter] at hsplit
    refine (List.Perm.of_eq ?_).trans hsplit
    refine congrArg₂ (· ++ ·) (List.filter_congr (fun e _ => ?_)) (List.filter_congr (fun e _ => ?_))
    · by_cases hk : e.1 = k <;> simp [hk]
    · by_cases hk : e.1 = k
      · simp [hk, h.1]
      · simp [hk]

/-- The interface nodes are those of the places. -/
theorem ids_childNodes_perm (guidance : Guidance) (iteration : HashOrder) (ctx : TopologyContext) (edges : List Edge) :
    ((createSubnetChildNodes guidance iteration ctx (groupChildrenBySubnet guidance ctx edges)).2.map (fun n => (n.parent, n.id))).Perm
      ((nodePlaces ctx).map (fun e => (some e.1, e.2))) := by
  set grouping := groupChildrenBySubnet guidance ctx edges with hgrouping
  have hkeys : (iteration.order grouping.keys).Nodup := (iteration.perm _).nodup_iff.mpr (List.nodup_dedup _)
  have hall : grouping.children.filter (fun e => e.1 ∈ iteration.order grouping.keys) = grouping.children := by
    refine List.filter_eq_self.mpr (fun e he => decide_eq_true ((iteration.perm _).mem_iff.mpr ?_))
    exact List.mem_dedup.mpr (List.mem_map_of_mem he)
  have hflat : ((iteration.order grouping.keys).flatMap (fun k => (grouping.childrenOf k).map (fun c => (some k, c.id)))).Perm
      (grouping.children.map (fun e => (some e.1, e.2.id))) := by
    have hperm := (filter_perm_flatMap (l := grouping.children) hkeys).map (fun e => (some e.1, e.2.id))
    rw [hall, List.map_flatMap] at hperm
    refine (List.Perm.of_eq ?_).trans hperm
    refine List.flatMap_congr (fun k _ => ?_)
    rw [Grouping.childrenOf, List.map_map]
    refine List.map_congr_left (fun e he => ?_)
    rw [Function.comp_apply, of_decide_eq_true (List.mem_filter.mp he).2]
  rw [← (groupChildrenBySubnet_spec guidance ctx edges).2, ← hgrouping, List.map_map]
  refine List.Perm.trans ?_ hflat
  rw [createSubnetChildNodes]
  dsimp only
  rw [List.flatMap_map, List.map_flatMap]
  exact List.Perm.flatMap_left _ (fun k _ => ids_calculateSubnetSize_perm)

end children

section subnets

variable {iteration : HashOrder} {ctx : TopologyContext} {consolidated : Uuid → Option (List Uuid)}
  {showCidr : Scanning.IpCidr → String}
  {layouts : List (Uuid × SubnetLayout)} {rows : List (List (Uuid × NodeLayout))} {y : ℕ}

theorem mem_keys_rowPositions {row : List (Uuid × NodeLayout)} {padding : Uxy} {x : ℕ} :
    (rowPositions padding y x row).map Prod.fst = row.map Prod.fst := by
  induction row generalizing x with
  | nil => rfl
  | cons e rest ih => rw [rowPositions, List.map_cons, List.map_cons, ih]

theorem mem_keys_calculateContainerSize {padding : Uxy} {row : List (Uuid × NodeLayout)} {id : Uuid} (hrow : row ∈ rows)
    (hid : id ∈ row.map Prod.fst) : id ∈ (calculateContainerSize padding y rows).map Prod.fst := by
  induction rows generalizing y with
  | nil => exact absurd hrow List.not_mem_nil
  | cons first rows ih =>
    rw [calculateContainerSize]
    rcases List.mem_cons.mp hrow with rfl | hrow
    · have hne : row ≠ [] := by
        rintro rfl
        exact absurd hid List.not_mem_nil
      rw [if_neg (by simpa using hne), List.map_append, mem_keys_rowPositions]
      exact List.mem_append_left _ hid
    · split
      · exact ih hrow
      · rw [List.map_append]
        exact List.mem_append_right _ (ih hrow)

theorem mem_keys_gridPositions {id : Uuid} :
    id ∈ (gridPositions ctx layouts).map Prod.fst ↔
      id ∈ ctx.subnets.map (fun s => s.id) ∧ id ∈ layouts.map Prod.fst := by
  constructor
  · intro h
    obtain ⟨e, he, rfl⟩ := List.mem_map.mp h
    obtain ⟨-, row, hrow, layout, hlayout, -⟩ := of_mem_calculateContainerSize he
    obtain ⟨group, hgroup, rfl⟩ := List.mem_map.mp hrow
    obtain ⟨_, -, rfl⟩ := mem_grouped.mp hgroup
    obtain ⟨⟨s, layout'⟩, hs, heq⟩ := List.mem_map.mp hlayout
    obtain ⟨s', hs', hsome⟩ := List.mem_filterMap.mp (List.mem_of_mem_filter hs)
    obtain ⟨found, hfound, heq'⟩ := Option.map_eq_some_iff.mp hsome
    obtain ⟨rfl, rfl⟩ := Prod.mk.inj heq'
    rw [← (Prod.mk.inj heq).1]
    exact ⟨List.mem_map_of_mem ((List.mergeSort_perm _ _).mem_iff.mp hs'), List.mem_map_of_mem (mem_of_lookup hfound)⟩
  · rintro ⟨hsubnet, hlayout⟩
    obtain ⟨s, hs, rfl⟩ := List.mem_map.mp hsubnet
    obtain ⟨layout, hlookup⟩ := exists_lookup hlayout
    have hsorted : (s, layout) ∈ (ctx.subnets.mergeSort precedes).filterMap (fun s =>
        (layouts.lookup s.id).map (fun layout => (s, layout))) :=
      List.mem_filterMap.mpr ⟨s, (List.mergeSort_perm _ _).mem_iff.mpr hs, by rw [hlookup]; rfl⟩
    refine mem_keys_calculateContainerSize (List.mem_map_of_mem (mem_grouped.mpr ⟨(s, layout), hsorted, rfl⟩)) ?_
    rw [List.map_map]
    exact List.mem_map_of_mem (f := Prod.fst ∘ fun e : Subnet × SubnetLayout =>
      (e.1.id, (⟨e.2.size, ⟨0, 0⟩⟩ : NodeLayout)))
      (List.mem_filter.mpr ⟨hsorted, decide_eq_true rfl⟩)

/-- The listed ones of the subnets with layouts get nodes. -/
theorem mem_ids_createSubnetNodes {id : Uuid} : id ∈ (createSubnetNodes iteration ctx consolidated showCidr layouts).map Node.id ↔
    id ∈ ctx.subnets.map (fun s => s.id) ∧ id ∈ layouts.map Prod.fst := by
  rw [← mem_keys_gridPositions]
  constructor
  · intro h
    obtain ⟨n, hn, rfl⟩ := List.mem_map.mp h
    obtain ⟨-, e, he, hid, -⟩ := of_mem_createSubnetNodes hn
    exact hid ▸ List.mem_map_of_mem ((hashed_sublist _).subset he)
  · intro h
    obtain ⟨placed, hplaced⟩ := exists_lookup (mem_keys_hashed.mpr h)
    have hlayouts := (mem_keys_gridPositions.mp h).2
    obtain ⟨layout, hlayout⟩ := exists_lookup hlayouts
    let node : Node := ⟨.subnetNode layout.infraWidth, id, placed.position, layout.size,
      (consolidated id).map (consolidatedHeader showCidr ctx)⟩
    refine List.mem_map.mpr ⟨node, List.mem_filterMap.mpr ⟨id, (iteration.perm _).mem_iff.mpr hlayouts, ?_⟩, rfl⟩
    simp only [hlayout, hplaced, Option.bind_eq_bind, Option.bind_some]
    rfl

end subnets

section optimized

open SubnetPositioner

variable {drawing : Drawing} {ctx : TopologyContext} {nodes oldNodes : List Node} {edges oldEdges : List Edge}

def NodeType.parent : NodeType → Option Uuid
  | .subnetNode _ => none
  | .interfaceNode subnetId _ _ _ => some subnetId

/-- What the optimizer leaves as it is. -/
def Node.fixed (n : Node) : NodeType × Uuid := (n.nodeType, n.id)

/-- Where a node belongs, and its id. -/
def Node.identity (n : Node) : Option Uuid × Uuid := (n.parent, n.id)

theorem fixed_setX (id : Uuid) (x : ℤ) : (setX id x nodes).map Node.fixed = nodes.map Node.fixed := by
  induction nodes with
  | nil => rfl
  | cons n rest ih =>
    rw [setX]
    split
    · rfl
    · rw [List.map_cons, List.map_cons, ih]

theorem fixed_foldl {α : Type} {step : List Node → α → List Node}
    (hstep : ∀ nodes a, (step nodes a).map Node.fixed = nodes.map Node.fixed)
    (l : List α) : (l.foldl step nodes).map Node.fixed = nodes.map Node.fixed :=
  List.foldlRecOn (motive := fun nodes' => nodes'.map Node.fixed = nodes.map Node.fixed) l step rfl
    (fun nodes' h a _ => (hstep nodes' a).trans h)

theorem fixed_optimizeLayer (barycenter : List Node → Uuid → ℤ) (layer : List Uuid) :
    (optimizeLayer barycenter layer nodes).map Node.fixed = nodes.map Node.fixed :=
  fixed_foldl (fun _ _ => fixed_setX _ _) layer

theorem fixed_optimizePositions (sweeps : List Proposals) :
    (optimizePositions sweeps nodes).map Node.fixed = nodes.map Node.fixed := by
  refine (fixed_foldl (fun nodes id => ?_) _).trans (fixed_foldl (fun nodes proposals => ?_) _)
  · split
    · exact fixed_setX _ _
    · rfl
  · exact (fixed_foldl (fun nodes e => fixed_optimizeLayer _ _) _).trans
      (fixed_foldl (fun nodes e => fixed_optimizeLayer _ _) _)

theorem fixed_compressHorizontalSpacing : (compressHorizontalSpacing ctx nodes edges).map Node.fixed = nodes.map Node.fixed := by
  unfold compressHorizontalSpacing
  rw [List.map_map]
  refine (List.map_congr_left (fun n _ => ?_)).trans (fixed_foldl (fun nodes layer => ?_) _)
  · rw [Function.comp_apply]
    split <;> rfl
  · unfold compressLayer
    split
    · rfl
    · exact fixed_foldl (fun _ _ => fixed_setX _ _) _

theorem fixed_compressVerticalSpacing : (compressVerticalSpacing nodes).map Node.fixed = nodes.map Node.fixed := by
  rw [compressVerticalSpacing, List.mapIdx_eq_zipIdx_map, List.map_map]
  conv_rhs => rw [← List.zipIdx_map_fst 0 nodes, List.map_map]
  refine List.map_congr_left (fun e _ => ?_)
  simp only [Function.comp_apply, restacked]
  split
  · split <;> rfl
  · rfl

theorem fixed_optimizeGraph : (optimizeGraph drawing ctx nodes edges).1.map Node.fixed = nodes.map Node.fixed :=
  fixed_compressVerticalSpacing.trans (fixed_compressHorizontalSpacing.trans
    (fixed_foldl (fun _ _ => fixed_optimizePositions _) _))

theorem identity_of_fixed {nodes' : List Node} (h : nodes.map Node.fixed = nodes'.map Node.fixed) :
    nodes.map Node.identity = nodes'.map Node.identity := by
  have hidentity := congrArg (List.map (Prod.map NodeType.parent id)) h
  rwa [List.map_map, List.map_map] at hidentity

theorem bare_fixIntraSubnetHandles : (fixIntraSubnetHandles drawing ctx edges nodes).map Edge.bare = edges.map Edge.bare := by
  rw [fixIntraSubnetHandles, List.map_map]
  refine List.map_congr_left (fun e _ => ?_)
  rw [Function.comp_apply]
  split
  · split <;> rfl
  · rfl

theorem bare_preserveHandles : Edge.bare ∘ preserveHandles oldNodes oldEdges edges = Edge.bare := by
  funext e
  rw [Function.comp_apply, preserveHandles]
  split
  · split <;> rfl
  · rfl

theorem bare_addEdgesToGraph :
    (addEdgesToGraph nodes edges).map Edge.bare = addEdgesToGraph nodes (edges.map Edge.bare) := by
  rw [addEdgesToGraph, addEdgesToGraph, List.filter_map]
  rfl

end optimized

section built

variable (drawing : Drawing) (ctx : TopologyContext) (oldNodes : List Node) (oldEdges : List Edge)

theorem identity_buildGraph : (buildGraph drawing ctx oldNodes oldEdges).1.map Node.identity =
    (createNodes drawing ctx (EdgeBuilder.createEdges ctx drawing.drawn)).map Node.identity := identity_of_fixed fixed_optimizeGraph

/-- The edges are the built ones between the nodes. -/
theorem bare_buildGraph : (buildGraph drawing ctx oldNodes oldEdges).2.map Edge.bare =
    (addEdgesToGraph (buildGraph drawing ctx oldNodes oldEdges).1 (EdgeBuilder.createEdges ctx drawing.drawn)).map Edge.bare := by
  unfold buildGraph
  dsimp only [optimizeGraph]
  rw [List.map_map, bare_preserveHandles, bare_addEdgesToGraph, bare_addEdgesToGraph, bare_fixIntraSubnetHandles,
    (groupChildrenBySubnet_spec drawing.guidance ctx _).1]

/-- The nodes are the subnets with places that are listed, and the interfaces with places. -/
theorem mem_identity_buildGraph {p : Option Uuid × Uuid} :
    p ∈ (buildGraph drawing ctx oldNodes oldEdges).1.map Node.identity ↔
    (p.1 = none ∧ p.2 ∈ ctx.subnets.map (fun s => s.id) ∧ p.2 ∈ (nodePlaces ctx).map Prod.fst) ∨
      ∃ e ∈ nodePlaces ctx, p = (some e.1, e.2) := by
  rw [identity_buildGraph, createNodes]
  dsimp only
  rw [List.map_append, List.mem_append]
  set grouping := groupChildrenBySubnet drawing.guidance ctx (EdgeBuilder.createEdges ctx drawing.drawn) with hgrouping
  have hplaces : grouping.children.map (fun e => (e.1, e.2.id)) = nodePlaces ctx :=
    (groupChildrenBySubnet_spec drawing.guidance ctx _).2
  have hlayouts : ∀ id, id ∈ (createSubnetChildNodes drawing.guidance drawing.childrenIteration ctx grouping).1.map Prod.fst ↔
      id ∈ (nodePlaces ctx).map Prod.fst := by
    intro id
    have hkeys : (nodePlaces ctx).map Prod.fst = grouping.children.map Prod.fst := by
      rw [← hplaces, List.map_map]
      rfl
    rw [hkeys, createSubnetChildNodes]
    dsimp only
    rw [List.map_map, List.map_map, ← List.mem_dedup (l := grouping.children.map Prod.fst), ← Grouping.keys,
      ← (drawing.childrenIteration.perm grouping.keys).mem_iff]
    conv_rhs => rw [← List.map_id (drawing.childrenIteration.order grouping.keys)]
    rfl
  refine or_congr ?_ ?_
  · rw [← hlayouts p.2, ← mem_ids_createSubnetNodes]
    constructor
    · intro h
      obtain ⟨n, hn, rfl⟩ := List.mem_map.mp h
      exact ⟨Node.isSubnet_iff.mp (of_mem_createSubnetNodes hn).1, List.mem_map_of_mem hn⟩
    · rintro ⟨hnone, h⟩
      obtain ⟨n, hn, hid⟩ := List.mem_map.mp h
      refine List.mem_map.mpr ⟨n, hn, Prod.ext ?_ hid⟩
      exact (Node.isSubnet_iff.mp (of_mem_createSubnetNodes hn).1).trans hnone.symm
  · have hperm : (((createSubnetChildNodes drawing.guidance drawing.childrenIteration ctx grouping).2.map Node.identity)).Perm
        ((nodePlaces ctx).map (fun e => (some e.1, e.2))) :=
          ids_childNodes_perm drawing.guidance drawing.childrenIteration ctx _
    rw [hperm.mem_iff, List.mem_map]
    exact exists_congr (fun e => and_congr_right (fun _ => eq_comm))

end built

end VantageNet.Graph
