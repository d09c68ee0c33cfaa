import VantageNet.Graph.Nodes

/-! The built graph has the nodes that it refers to, and all edges between them. -/

namespace VantageNet.Graph

open Inventory
open Subnets (Subnet)

section places

variable {ctx : TopologyContext} {e : Uuid × Uuid}

theorem mem_containerSubnets {hostId subnetId : Uuid} (h : subnetId ∈ EdgeBuilder.containerSubnets ctx hostId) :
    subnetId ∈ ctx.subnets.map (fun s => s.id) := by
  obtain ⟨s, hs, hsome⟩ := List.mem_filterMap.mp h
  obtain ⟨i, -, hget⟩ := List.mem_filterMap.mp hs
  have hmem := List.mem_map_of_mem (f := fun s : Subnet => s.id) (List.mem_of_find?_eq_some hget)
  split at hsome
  · exact Option.some.inj hsome ▸ hmem
  · exact absurd hsome (Option.some_ne_none _).symm

/-- Bridges are grouped on one of them. -/
theorem listed_of_subnetIdToGroupOn {hostId subnetId : Uuid}
    (h : EdgeBuilder.subnetIdToGroupOn ctx hostId = some subnetId) :
    subnetId ∈ ctx.subnets.map (fun s => s.id) := by
  unfold EdgeBuilder.subnetIdToGroupOn at h
  split at h
  · obtain ⟨⟨s, host, origin⟩, -, hsome⟩ := List.mem_filterMap.mp (mem_of_lookup h)
    obtain ⟨⟨edge, grouped⟩, hedge, heq⟩ := Option.map_eq_some_iff.mp hsome
    obtain ⟨-, rfl⟩ := Prod.mk.inj heq
    obtain ⟨_, -, hedge⟩ := Option.bind_eq_some_iff.mp hedge
    obtain ⟨first, hfirst, hedge⟩ := Option.bind_eq_some_iff.mp hedge
    obtain ⟨_, -, hedge⟩ := Option.bind_eq_some_iff.mp hedge
    cases Option.some.inj hedge
    exact mem_containerSubnets (List.mem_of_head? hfirst)
  · exact absurd h (Option.some_ne_none _).symm

theorem listed_of_mem_nodePlaces (hsubnets : ∀ i ∈ ctx.interfaces, ∃ s ∈ ctx.subnets, s.id = i.base.subnetId)
    (he : e ∈ nodePlaces ctx) :
    e.1 ∈ ctx.subnets.map (fun s => s.id) := by
  obtain ⟨i, hi, hsome⟩ := List.mem_filterMap.mp he
  obtain ⟨subnetId, hplace, rfl⟩ := Option.map_eq_some_iff.mp hsome
  unfold nodePlace at hplace
  split at hplace
  · exact absurd hplace (Option.some_ne_none _).symm
  · split at hplace
    · exact absurd hplace (Option.some_ne_none _).symm
    · unfold groupingSubnet at hplace
      split at hplace
      · exact listed_of_subnetIdToGroupOn hplace
      · obtain ⟨s, hs, hid⟩ := hsubnets i hi
        cases Option.some.inj hplace
        exact List.mem_map.mpr ⟨s, hs, hid⟩

theorem ids_nodePlaces_sublist (ctx : TopologyContext) :
    ((nodePlaces ctx).map Prod.snd).Sublist (ctx.interfaces.map (fun i => i.id)) := by
  rw [nodePlaces, List.map_filterMap, ← List.filterMap_eq_map]
  induction ctx.interfaces with
  | nil => exact List.Sublist.slnil
  | cons i rest ih =>
    rw [List.filterMap_cons, List.filterMap_cons]
    cases nodePlace ctx i with
    | none => exact ih.cons _
    | some subnetId => exact ih.cons_cons _

end places

section closed

variable {drawing : Drawing} {ctx : TopologyContext} {oldNodes : List Node} {oldEdges : List Edge}

theorem ids_buildGraph : (buildGraph drawing ctx oldNodes oldEdges).1.map Node.id =
    (createNodes drawing ctx (EdgeBuilder.createEdges ctx drawing.drawn)).map Node.id := by
  have hidentity := congrArg (List.map Prod.snd) (identity_buildGraph drawing ctx oldNodes oldEdges)
  rw [List.map_map, List.map_map] at hidentity
  exact hidentity

theorem nodup_ids_buildGraph (hids : (ctx.interfaces.map (fun i => i.id) ++ ctx.subnets.map (fun s => s.id)).Nodup) :
    ((buildGraph drawing ctx oldNodes oldEdges).1.map Node.id).Nodup := by
  obtain ⟨hinterfaces, -, hdisjoint⟩ := List.nodup_append.mp hids
  rw [ids_buildGraph, createNodes]
  dsimp only
  set grouping := groupChildrenBySubnet drawing.guidance ctx (EdgeBuilder.createEdges ctx drawing.drawn)
  have hchildren : ((createSubnetChildNodes drawing.guidance drawing.childrenIteration ctx grouping).2.map Node.id).Perm
      ((nodePlaces ctx).map Prod.snd) := by
    have hperm := (ids_childNodes_perm drawing.guidance drawing.childrenIteration ctx
      (EdgeBuilder.createEdges ctx drawing.drawn)).map Prod.snd
    rw [List.map_map, List.map_map] at hperm
    exact hperm
  rw [List.map_append]
  refine List.nodup_append.mpr ⟨nodup_createSubnetNodes ?_, ?_, fun a ha b hb => ?_⟩
  · rw [createSubnetChildNodes]
    dsimp only
    rw [List.map_map, List.map_map]
    exact (List.map_id (drawing.childrenIteration.order grouping.keys)).symm ▸
      (drawing.childrenIteration.perm _).nodup_iff.mpr (List.nodup_dedup _)
  · exact hchildren.nodup_iff.mpr ((ids_nodePlaces_sublist ctx).nodup hinterfaces)
  · have hsubnet := (mem_ids_createSubnetNodes.mp ha).1
    have hinterface := (ids_nodePlaces_sublist ctx).subset (hchildren.mem_iff.mp hb)
    exact (hdisjoint b hinterface a hsubnet).symm

/-- Nodes have ids of their own, each one of an interface is in a subnet that has one, each subnet has one of an interface in
it, and there are the edges that are built between nodes. -/
structure Closed (built : List Edge) (nodes : List Node) (edges : List Edge) : Prop where
  nodup : (nodes.map Node.id).Nodup
  housed : ∀ n ∈ nodes, ∀ subnetId, n.parent = some subnetId → ∃ m ∈ nodes, m.isSubnet = true ∧ m.id = subnetId
  inhabited : ∀ m ∈ nodes, m.isSubnet = true → ∃ n ∈ nodes, n.parent = some m.id
  edges : edges.map Edge.bare =
    (built.filter (fun e => nodes.any (fun n => n.id = e.source) && nodes.any (fun n => n.id = e.target))).map Edge.bare

theorem built_graph_closed (drawing : Drawing) (ctx : TopologyContext) (oldNodes : List Node) (oldEdges : List Edge)
    (hids : (ctx.interfaces.map (fun i => i.id) ++ ctx.subnets.map (fun s => s.id)).Nodup)
    (hsubnets : ∀ i ∈ ctx.interfaces, ∃ s ∈ ctx.subnets, s.id = i.base.subnetId) :
    let graph := buildGraph drawing ctx oldNodes oldEdges
    Closed (EdgeBuilder.createEdges ctx drawing.drawn) graph.1 graph.2 := by
  intro graph
  refine ⟨nodup_ids_buildGraph hids, fun n hn subnetId hparent => ?_, fun m hm hsubnet => ?_,
    bare_buildGraph drawing ctx _ _⟩
  · have hplace := (mem_identity_buildGraph drawing ctx oldNodes oldEdges).mp (List.mem_map_of_mem hn)
    rcases hplace with ⟨hnone, -⟩ | ⟨e, he, heq⟩
    · exact absurd (hparent.symm.trans hnone) (Option.some_ne_none _)
    · have hid : e.1 = subnetId := Option.some.inj ((congrArg Prod.fst heq).symm.trans hparent)
      have hnode : (none, subnetId) ∈ graph.1.map Node.identity :=
        (mem_identity_buildGraph drawing ctx oldNodes oldEdges).mpr
        (Or.inl ⟨rfl, hid ▸ listed_of_mem_nodePlaces hsubnets he, hid ▸ List.mem_map_of_mem he⟩)
      obtain ⟨m, hm, hidentity⟩ := List.mem_map.mp hnode
      exact ⟨m, hm, Node.isSubnet_iff.mpr (congrArg Prod.fst hidentity), congrArg Prod.snd hidentity⟩
  · have hplace := (mem_identity_buildGraph drawing ctx oldNodes oldEdges).mp (List.mem_map_of_mem hm)
    rcases hplace with ⟨-, -, hplace⟩ | ⟨e, -, heq⟩
    · obtain ⟨e, he, hid⟩ := List.mem_map.mp hplace
      have hnode : (some e.1, e.2) ∈ graph.1.map Node.identity :=
        (mem_identity_buildGraph drawing ctx oldNodes oldEdges).mpr (Or.inr ⟨e, he, rfl⟩)
      obtain ⟨n, hn, hidentity⟩ := List.mem_map.mp hnode
      exact ⟨n, hn, (congrArg Prod.fst hidentity).trans (congrArg some hid)⟩
    · have hsome : m.parent = some e.1 := congrArg Prod.fst heq
      exact absurd (hsome.symm.trans (Node.isSubnet_iff.mp hsubnet)) (Option.some_ne_none _)

/-- A host with an interface and a service on it. -/
def oneHost : TopologyContext := { emptyContext with
  hosts := [⟨11, 0, 0, ⟨"printer", 9, none, none, .manual, none, false, []⟩⟩]
  interfaces := [⟨21, 0, 0, ⟨9, 11, 1, .v4 (0x0A000005#32), none, none, 0⟩⟩]
  subnets := [⟨1, 0, 0, ⟨⟨.v4 (0x0A000000#32), 8⟩, 9, "office", none, .lan, .manual, []⟩⟩]
  services := [⟨31, 0, 0, ⟨11, 9, ⟨"CUPS", false, false, false⟩, "CUPS", [⟨41, 0, 0, ⟨31, 9, .port 51 (some 21)⟩⟩], none, .manual, [], 0⟩⟩] }

theorem one_host_closed :
    let graph := buildGraph oneSweep oneHost [] []
    Closed (EdgeBuilder.createEdges oneHost oneSweep.drawn) graph.1 graph.2 :=
  built_graph_closed oneSweep oneHost [] [] (by decide) (by decide)

end closed

end VantageNet.Graph
