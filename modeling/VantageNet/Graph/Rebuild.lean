import VantageNet.Graph.Existence

/-! A topology is built again, with the old one as it has been edited. -/

namespace VantageNet.Graph

open Inventory

section kinds

variable {ctx : TopologyContext} {nodes nodes' : List Node} {edges : List Edge} {e : Edge}

/-- The endpoints and the type of an edge. -/
def Edge.kind (e : Edge) : Uuid × Uuid × EdgeType := (e.source, e.target, e.edgeType)

def Edge.handles (e : Edge) : EdgeHandle × EdgeHandle := (e.sourceHandle, e.targetHandle)

theorem kind_bare : Edge.kind ∘ Edge.bare = Edge.kind := rfl

theorem kinds_of_bare {edges' : List Edge} (h : edges.map Edge.bare = edges'.map Edge.bare) :
    edges.map Edge.kind = edges'.map Edge.kind := by
  have hkinds := congrArg (List.map Edge.kind) h
  rwa [List.map_map, List.map_map, kind_bare] at hkinds

theorem kinds_createEdges (drawn drawn' : ℕ → Uuid) :
    (EdgeBuilder.createEdges ctx drawn).map Edge.kind = (EdgeBuilder.createEdges ctx drawn').map Edge.kind := by
  rw [EdgeBuilder.createEdges, EdgeBuilder.createEdges, List.mapIdx_eq_zipIdx_map, List.mapIdx_eq_zipIdx_map,
    List.map_map,
    List.map_map]
  rfl

theorem kinds_addEdgesToGraph : (addEdgesToGraph nodes edges).map Edge.kind =
    (edges.map Edge.kind).filter (fun k => nodes.any (fun n => n.id = k.1) && nodes.any (fun n => n.id = k.2.1)) := by
  rw [addEdgesToGraph, List.filter_map]
  rfl

theorem outgoingCount_eq (nodeId : Uuid) : outgoingCount edges nodeId = ((edges.map Edge.kind).filter (fun k => k.1 = nodeId)).length := by
  rw [List.filter_map, List.length_map]
  rfl

/-- The handles of the last edge between these nodes. -/
def lastHandles (edges : List Edge) (k : Uuid × Uuid × EdgeType) : Option (EdgeHandle × EdgeHandle) :=
  (edges.reverse.find? (fun old => old.source = k.1 && old.target = k.2.1)).map Edge.handles

theorem lastHandles_spec (he : e ∈ edges) :
    ∃ last ∈ edges, last.source = e.source ∧ last.target = e.target ∧ lastHandles edges e.kind = some last.handles := by
  unfold lastHandles
  cases hfind : edges.reverse.find? (fun old => old.source = e.kind.1 && old.target = e.kind.2.1) with
  | none => exact absurd (List.find?_eq_none.mp hfind e (List.mem_reverse.mpr he)) (by simp [Edge.kind])
  | some last =>
    have hends := List.find?_some hfind
    rw [Bool.and_eq_true, decide_eq_true_eq, decide_eq_true_eq] at hends
    exact ⟨last, List.mem_reverse.mp (List.mem_of_find?_eq_some hfind), hends.1, hends.2, rfl⟩

end kinds

section rebuild

variable {drawing drawing' : Drawing} {ctx : TopologyContext} {oldNodes oldNodes' : List Node}
  {oldEdges oldEdges' edited : List Edge}

/-- The nodes of the same entities have the same ids. -/
theorem any_id_buildGraph (id : Uuid) : (buildGraph drawing ctx oldNodes oldEdges).1.any (fun n => n.id = id) =
    (buildGraph drawing' ctx oldNodes' oldEdges').1.any (fun n => n.id = id) := by
  have hany : ∀ (drawing : Drawing) oldNodes oldEdges,
    (buildGraph drawing ctx oldNodes oldEdges).1.any (fun n => n.id = id) = true ↔
      ∃ p, ((p.1 = none ∧ p.2 ∈ ctx.subnets.map (fun s => s.id) ∧ p.2 ∈ (nodePlaces ctx).map Prod.fst) ∨
        ∃ e ∈ nodePlaces ctx, p = (some e.1, e.2)) ∧ p.2 = id := by
    intro drawing oldNodes oldEdges
    rw [List.any_eq_true]
    constructor
    · rintro ⟨n, hn, hid⟩
      exact ⟨n.identity, (mem_identity_buildGraph drawing ctx oldNodes oldEdges).mp (List.mem_map_of_mem hn),
        of_decide_eq_true hid⟩
    · rintro ⟨p, hp, hid⟩
      obtain ⟨n, hn, rfl⟩ := List.mem_map.mp ((mem_identity_buildGraph drawing ctx oldNodes oldEdges).mpr hp)
      exact ⟨n, hn, decide_eq_true hid⟩
  rw [Bool.eq_iff_iff, hany, hany]

theorem kinds_buildGraph : (buildGraph drawing ctx oldNodes oldEdges).2.map Edge.kind =
    (buildGraph drawing' ctx oldNodes' oldEdges').2.map Edge.kind := by
  rw [kinds_of_bare (bare_buildGraph drawing ctx oldNodes oldEdges),
    kinds_of_bare (bare_buildGraph drawing' ctx oldNodes' oldEdges'),
    kinds_addEdgesToGraph, kinds_addEdgesToGraph, kinds_createEdges drawing.drawn drawing'.drawn]
  refine List.filter_congr (fun k _ => ?_)
  rw [any_id_buildGraph k.1, any_id_buildGraph k.2.1]

/-- The edges with their endpoints, types and handles. -/
def Edge.summary (e : Edge) : (Uuid × Uuid × EdgeType) × EdgeHandle × EdgeHandle := (e.kind, e.handles)

theorem any_id_of_mem_nodePlaces {id : Uuid} (h : id ∈ (nodePlaces ctx).map Prod.snd) :
    (buildGraph drawing ctx oldNodes oldEdges).1.any (fun n => n.id = id) = true := by
  obtain ⟨e, he, rfl⟩ := List.mem_map.mp h
  obtain ⟨n, hn, hidentity⟩ := List.mem_map.mp ((mem_identity_buildGraph drawing ctx oldNodes oldEdges).mpr (Or.inr ⟨e, he, rfl⟩))
  exact List.any_eq_true.mpr ⟨n, hn, decide_eq_true (congrArg Prod.snd hidentity)⟩

theorem mem_kinds_buildGraph {k : Uuid × Uuid × EdgeType}
    (hk : k ∈ (EdgeBuilder.createEdges ctx drawing.drawn).map Edge.kind)
    (hsource : k.1 ∈ (nodePlaces ctx).map Prod.snd) (htarget : k.2.1 ∈ (nodePlaces ctx).map Prod.snd) :
    k ∈ (buildGraph drawing ctx oldNodes oldEdges).2.map Edge.kind := by
  rw [kinds_of_bare (bare_buildGraph drawing ctx oldNodes oldEdges), kinds_addEdgesToGraph]
  refine List.mem_filter.mpr ⟨hk, ?_⟩
  rw [any_id_of_mem_nodePlaces hsource, any_id_of_mem_nodePlaces htarget]
  rfl

/-- The edges of a graph are between its nodes. -/
theorem ends_of_mem_kinds {k : Uuid × Uuid × EdgeType}
    (hk : k ∈ (buildGraph drawing ctx oldNodes oldEdges).2.map Edge.kind) :
    ((buildGraph drawing ctx oldNodes oldEdges).1.any (fun n => n.id = k.1) &&
      (buildGraph drawing ctx oldNodes oldEdges).1.any (fun n => n.id = k.2.1)) = true := by
  rw [kinds_of_bare (bare_buildGraph drawing ctx oldNodes oldEdges), kinds_addEdgesToGraph] at hk
  exact (List.mem_filter.mp hk).2

theorem addEdgesToGraph_self (h : edited.map Edge.kind = (buildGraph drawing ctx oldNodes oldEdges).2.map Edge.kind) :
    addEdgesToGraph (buildGraph drawing ctx oldNodes oldEdges).1 edited = edited :=
  List.filter_eq_self.mpr (fun _ he => ends_of_mem_kinds (h ▸ List.mem_map_of_mem he))

/-- An edge of the new graph gets the handles of the last old one between its nodes. -/
theorem summary_preserveHandles {nodes : List Node} {edges : List Edge} (h : edited.map Edge.kind = edges.map Edge.kind)
    (hnodes : ∀ e ∈ edges, nodes.any (fun n => n.id = e.source) = true) {e : Edge} (he : e ∈ edges) :
    some (preserveHandles nodes edited edges e).handles = lastHandles edited e.kind ∧
      (preserveHandles nodes edited edges e).kind = e.kind := by
  have hcount : outgoingCount edited e.source = outgoingCount edges e.source := by
    rw [outgoingCount_eq, outgoingCount_eq, h]
  obtain ⟨e', he', hkind⟩ := List.mem_map.mp (h ▸ List.mem_map_of_mem he : e.kind ∈ edited.map Edge.kind)
  obtain ⟨last, -, -, -, hlast⟩ := lastHandles_spec he'
  rw [hkind] at hlast
  rw [hlast]
  unfold lastHandles at hlast
  obtain ⟨found, hfound, hhandles⟩ := Option.map_eq_some_iff.mp hlast
  have hfound' : edited.reverse.find? (fun old => old.source = e.source && old.target = e.target) = some found := hfound
  rw [preserveHandles, hnodes e he, hcount, if_pos (by simp), hfound']
  exact ⟨congrArg some hhandles, rfl⟩

theorem exists_kept (drawing : Drawing) (ctx : TopologyContext) (oldNodes : List Node) (oldEdges : List Edge) :
    ∃ kept : List Edge, (buildGraph drawing ctx oldNodes oldEdges).2 = kept.map
      (preserveHandles oldNodes (addEdgesToGraph oldNodes oldEdges) kept) ∧
      kept.map Edge.kind = (buildGraph drawing ctx oldNodes oldEdges).2.map Edge.kind := by
  refine ⟨_, rfl, kinds_of_bare ?_⟩
  unfold buildGraph
  rw [List.map_map, bare_preserveHandles]
  rfl

/-- The edges of a rebuilt graph have the handles of the last edited edges between their nodes. -/
theorem summaries_rebuild (drawing' : Drawing)
    (hedited : edited.map Edge.kind = (buildGraph drawing ctx oldNodes oldEdges).2.map Edge.kind) :
    (buildGraph drawing' ctx (buildGraph drawing ctx oldNodes oldEdges).1 edited).2.map (fun e =>
      (e.kind, some e.handles)) =
      edited.map (fun e => (e.kind, lastHandles edited e.kind)) := by
  set old := buildGraph drawing ctx oldNodes oldEdges with hold
  obtain ⟨kept, heq, hkinds⟩ := exists_kept drawing' ctx old.1 edited
  have hsame : edited.map Edge.kind = kept.map Edge.kind := hedited.trans ((kinds_buildGraph).trans hkinds.symm)
  have hnodes : ∀ e ∈ kept, old.1.any (fun n => n.id = e.source) = true := by
    intro e he
    have hk : e.kind ∈ old.2.map Edge.kind := hedited ▸ hsame ▸ List.mem_map_of_mem he
    exact ((Bool.and_eq_true _ _).mp (ends_of_mem_kinds hk)).1
  rw [heq, addEdgesToGraph_self hedited, List.map_map]
  calc kept.map ((fun e => (e.kind, some e.handles)) ∘ preserveHandles old.1 edited kept)
      = kept.map (fun e => (e.kind, lastHandles edited e.kind)) := by
        refine List.map_congr_left (fun e he => ?_)
        obtain ⟨hhandles, hkind⟩ := summary_preserveHandles hsame hnodes he
        rw [Function.comp_apply, hhandles, hkind]
    _ = (kept.map Edge.kind).map (fun k => (k, lastHandles edited k)) := by rw [List.map_map]; rfl
    _ = edited.map (fun e => (e.kind, lastHandles edited e.kind)) := by rw [← hsame, List.map_map]; rfl

theorem rebuild_keeps_iff_last (drawing' : Drawing)
    (hedited : edited.map Edge.kind = (buildGraph drawing ctx oldNodes oldEdges).2.map Edge.kind) :
    (buildGraph drawing' ctx (buildGraph drawing ctx oldNodes oldEdges).1 edited).2.map Edge.summary = edited.map Edge.summary ↔
      ∀ e ∈ edited, lastHandles edited e.kind = some e.handles := by
  have hinjective : Function.Injective (fun s : (Uuid × Uuid × EdgeType) × EdgeHandle × EdgeHandle =>
    (s.1, some s.2)) := by
    intro s t h
    exact Prod.ext (Prod.mk.inj h).1 (Option.some.inj (Prod.mk.inj h).2)
  rw [← (List.map_injective_iff.mpr hinjective).eq_iff, List.map_map, List.map_map]
  refine (Eq.congr_left (summaries_rebuild drawing' hedited)).trans (List.map_inj_left.trans ?_)
  exact forall₂_congr (fun e _ => (Prod.mk_right_injective e.kind).eq_iff)

theorem handles_eq_of_last (h : ∀ e ∈ edited, lastHandles edited e.kind = some e.handles) {e e' : Edge}
    (he : e ∈ edited)
    (he' : e' ∈ edited) (hsource : e.source = e'.source) (htarget : e.target = e'.target) : e.handles = e'.handles := by
  have hlast : lastHandles edited e.kind = lastHandles edited e'.kind := by
    unfold lastHandles
    rw [show e.kind.1 = e'.kind.1 from hsource, show e.kind.2.1 = e'.kind.2.1 from htarget]
  rw [h e he, h e' he'] at hlast
  exact Option.some.inj hlast

/-- Edits of handles are kept when and only when edges between the same nodes have been given the same ones. -/
theorem rebuild_keeps_edits_iff (drawing drawing' : Drawing) (ctx : TopologyContext) (oldNodes : List Node)
    (oldEdges edited : List Edge) (hedited : edited.map Edge.bare = (buildGraph drawing ctx oldNodes oldEdges).2.map Edge.bare) :
    (buildGraph drawing' ctx (buildGraph drawing ctx oldNodes oldEdges).1 edited).2.map Edge.summary = edited.map Edge.summary ↔
      ∀ e ∈ edited, ∀ e' ∈ edited, e.source = e'.source → e.target = e'.target → e.handles = e'.handles := by
  rw [rebuild_keeps_iff_last drawing' (kinds_of_bare hedited)]
  constructor
  · exact fun h e he e' he' hsource htarget => handles_eq_of_last h he he' hsource htarget
  · intro h e he
    obtain ⟨last, hlast, hsource, htarget, heq⟩ := lastHandles_spec he
    rw [heq, h last hlast e he hsource htarget]

end rebuild

/-- Two hosts, and two groups that go from one to the other. -/
def twoGroups : TopologyContext := { oneHost with
  hosts := oneHost.hosts ++ [⟨12, 0, 0, ⟨"scanner", 9, none, none, .manual, none, false, []⟩⟩]
  interfaces := oneHost.interfaces ++ [⟨22, 0, 0, ⟨9, 12, 1, .v4 (0x0A000006#32), none, none, 0⟩⟩]
  services := oneHost.services ++
    [⟨32, 0, 0, ⟨12, 9, ⟨"SANE", false, false, false⟩, "SANE", [⟨42, 0, 0, ⟨32, 9, .port 52 (some 22)⟩⟩], none, .manual, [], 0⟩⟩]
  groups := [⟨61, "printing", [41, 42], .requestPath⟩, ⟨62, "scanning", [41, 42], .requestPath⟩] }

theorem two_groups_rebuilt :
    (buildGraph oneSweep twoGroups (buildGraph oneSweep twoGroups [] []).1 (buildGraph oneSweep twoGroups [] []).2).2.map Edge.summary =
        (buildGraph oneSweep twoGroups [] []).2.map Edge.summary ↔
      ∀ e ∈ (buildGraph oneSweep twoGroups [] []).2, ∀ e' ∈ (buildGraph oneSweep twoGroups [] []).2,
        e.source = e'.source → e.target = e'.target → e.handles = e'.handles :=
  rebuild_keeps_edits_iff oneSweep oneSweep twoGroups [] [] _ rfl

/-- The edge of the first group leaves to the left, and that of the other one to the right. -/
def partedHandles (e : Edge) : Edge :=
  e.withHandles (if e.edgeType = .requestPath 61 41 42 then (.left, .left) else (.right, .right))

theorem edits_of_parallel_edges_lost : ¬ ∀ (drawing drawing' : Drawing) (ctx : TopologyContext) (oldNodes : List Node)
    (oldEdges edited : List Edge), edited.map Edge.bare = (buildGraph drawing ctx oldNodes oldEdges).2.map Edge.bare →
    (buildGraph drawing' ctx (buildGraph drawing ctx oldNodes oldEdges).1 edited).2.map Edge.summary = edited.map Edge.summary := by
  intro h
  have hedited : ((buildGraph oneSweep twoGroups [] []).2.map partedHandles).map Edge.bare =
      (buildGraph oneSweep twoGroups [] []).2.map Edge.bare := by
    rw [List.map_map]
    rfl
  have hkept := h oneSweep oneSweep twoGroups [] [] _ hedited
  have hbuilt : (21, 22, EdgeType.requestPath 61 41 42) ∈ (EdgeBuilder.createEdges twoGroups oneSweep.drawn).map Edge.kind ∧
      (21, 22, EdgeType.requestPath 62 41 42) ∈ (EdgeBuilder.createEdges twoGroups oneSweep.drawn).map Edge.kind ∧
      21 ∈ (nodePlaces twoGroups).map Prod.snd ∧ 22 ∈ (nodePlaces twoGroups).map Prod.snd := by decide +kernel
  obtain ⟨hfirst, hsecond, hsource, htarget⟩ := hbuilt
  obtain ⟨e, he, hkind⟩ := List.mem_map.mp (mem_kinds_buildGraph hfirst hsource htarget :
    _ ∈ (buildGraph oneSweep twoGroups [] []).2.map Edge.kind)
  obtain ⟨e', he', hkind'⟩ := List.mem_map.mp (mem_kinds_buildGraph hsecond hsource htarget :
    _ ∈ (buildGraph oneSweep twoGroups [] []).2.map Edge.kind)
  obtain ⟨hs, ht, htype⟩ := (Prod.mk.inj hkind).imp_right Prod.mk.inj
  obtain ⟨hs', ht', htype'⟩ := (Prod.mk.inj hkind').imp_right Prod.mk.inj
  have hhandles : (partedHandles e).handles = (partedHandles e').handles :=
    handles_eq_of_last ((rebuild_keeps_iff_last oneSweep (kinds_of_bare hedited)).mp hkept) (List.mem_map_of_mem he)
      (List.mem_map_of_mem he') (hs.trans hs'.symm) (ht.trans ht'.symm)
  simp [partedHandles, Edge.handles, Edge.withHandles, htype, htype'] at hhandles

end VantageNet.Graph
