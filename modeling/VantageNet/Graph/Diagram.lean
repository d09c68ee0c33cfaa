import Mathlib
import VantageNet.Graph.Closure

/-! The finished diagram: its rectangles meet only where a node is inside of its own subnet. -/

namespace VantageNet.Graph

open Inventory
open SubnetPositioner

section shown

variable {nodes : List Node} {n m : Node}

/-- Where the position of a node is counted from: for one of an interface it is the position of its subnet. -/
def origin (nodes : List Node) (n : Node) : Ixy :=
  ((n.parent.bind (find nodes)).map Node.position).getD ⟨0, 0⟩

/-- The rectangle of a node on the canvas. -/
def shown (nodes : List Node) (n : Node) : Set (ℤ × ℤ) :=
  {p | (p.1 - (origin nodes n).x, p.2 - (origin nodes n).y) ∈ n.area}

theorem shown_of_isSubnet (h : n.isSubnet = true) : shown nodes n = n.area := by
  ext p
  have horigin : origin nodes n = ⟨0, 0⟩ := by
    rw [origin, Node.isSubnet_iff.mp h]
    rfl
  simp [shown, horigin]

theorem origin_of_parent (hids : (nodes.map Node.id).Nodup) (hm : m ∈ nodes) (h : n.parent = some m.id) :
    origin nodes n = m.position := by
  have hfind : find nodes m.id = some m := by
    apply Interaction.find?_eq_some_of_unique hm
    · simp
    · intro m' hm' hid
      exact List.inj_on_of_nodup_map hids hm' hm (of_decide_eq_true hid)
  simp [origin, h, hfind]

theorem disjoint_shown {a b : Node} (horigin : origin nodes a = origin nodes b) (h : Disjoint a.area b.area) :
    Disjoint (shown nodes a) (shown nodes b) := by
  apply Set.disjoint_left.mpr
  intro p ha hb
  simp only [shown, Set.mem_ofPred_eq, horigin] at ha hb
  exact Set.disjoint_left.mp h ha hb

/-- Rectangles are apart, but for a node and the subnet that it is in, where the one is inside of the other. -/
structure Legible (nodes : List Node) : Prop where
  apart : nodes.Pairwise (fun a b => Disjoint (shown nodes a) (shown nodes b) ∨ a.parent = some b.id ∨ b.parent = some a.id)
  within : ∀ n ∈ nodes, ∀ subnetId, n.parent = some subnetId →
    ∃ m ∈ nodes, m.isSubnet = true ∧ m.id = subnetId ∧ shown nodes n ⊆ shown nodes m

/-- Subnets are apart, and the nodes in each of them are apart and inside of it. -/
structure Composed (nodes : List Node) : Prop where
  ids : (nodes.map Node.id).Nodup
  boxes : ∀ a ∈ nodes, ∀ b ∈ nodes, a.isSubnet = true → b.isSubnet = true → a.id ≠ b.id → Disjoint a.area b.area
  zoned : ∀ n ∈ nodes, ∀ subnetId, n.parent = some subnetId → ∃ m ∈ nodes, m.isSubnet = true ∧ m.id = subnetId ∧
    ∃ children, Zoned subnetId children 0 m.size (nodes.filter (fun n => n.parent = some subnetId))

theorem Composed.within (h : Composed nodes) (hn : n ∈ nodes) {subnetId : Uuid} (hparent : n.parent = some subnetId) :
    ∃ m ∈ nodes, m.isSubnet = true ∧ m.id = subnetId ∧ shown nodes n ⊆ m.area := by
  obtain ⟨m, hm, hsubnet, rfl, children, hzone⟩ := h.zoned n hn subnetId hparent
  have hinside := hzone.inside n (List.mem_filter.mpr ⟨hn, by simpa using hparent⟩)
  refine ⟨m, hm, hsubnet, rfl, ?_⟩
  rintro ⟨x, y⟩ hp
  simp only [shown, Set.mem_ofPred_eq, origin_of_parent h.ids hm hparent, Node.area, Set.mem_Icc, Prod.mk_le_mk,
    nodePadding] at hp hinside ⊢
  omega

/-- Every node is a subnet or within one. -/
theorem Composed.box (h : Composed nodes) (hn : n ∈ nodes) :
    ∃ m ∈ nodes, m.isSubnet = true ∧ (n = m ∨ n.parent = some m.id) ∧ shown nodes n ⊆ m.area := by
  cases hparent : n.parent with
  | none =>
    have hsubnet := Node.isSubnet_iff.mpr hparent
    exact ⟨n, hn, hsubnet, Or.inl rfl, (shown_of_isSubnet hsubnet).le⟩
  | some subnetId =>
    obtain ⟨m, hm, hsubnet, rfl, hsub⟩ := h.within hn hparent
    exact ⟨m, hm, hsubnet, Or.inr rfl, hsub⟩

/-- Two nodes of one subnet. -/
theorem Composed.siblings (h : Composed nodes) {a b : Node} (ha : a ∈ nodes) (hb : b ∈ nodes) (hne : a ≠ b)
    {subnetId : Uuid} (hparent : a.parent = some subnetId) (hparent' : b.parent = some subnetId) :
    Disjoint (shown nodes a) (shown nodes b) := by
  obtain ⟨m, hm, -, rfl, children, hzone⟩ := h.zoned a ha subnetId hparent
  apply disjoint_shown
  · rw [origin_of_parent h.ids hm hparent, origin_of_parent h.ids hm hparent']
  · have hmem : a ∈ nodes.filter (fun n => n.parent = some m.id) := List.mem_filter.mpr ⟨ha, by simpa using hparent⟩
    have hmem' : b ∈ nodes.filter (fun n => n.parent = some m.id) := List.mem_filter.mpr ⟨hb, by simpa using hparent'⟩
    rcases pairwise_either hzone.spaced hmem hmem' hne with hspaced | hspaced
    · exact hspaced.disjoint
    · exact hspaced.disjoint.symm

theorem Composed.legible (h : Composed nodes) : Legible nodes := by
  constructor
  · apply (List.pairwise_map.mp h.ids).imp_of_mem
    intro a b ha hb hne
    obtain ⟨m, hm, hsubnet, hbox, hsub⟩ := h.box ha
    obtain ⟨m', hm', hsubnet', hbox', hsub'⟩ := h.box hb
    by_cases hid : m.id = m'.id
    · cases List.inj_on_of_nodup_map h.ids hm hm' hid
      rcases hbox with rfl | hparent
      · rcases hbox' with rfl | hparent'
        · exact absurd rfl hne
        · exact Or.inr (Or.inr hparent')
      · rcases hbox' with rfl | hparent'
        · exact Or.inr (Or.inl hparent)
        · left
          apply h.siblings ha hb _ hparent hparent'
          rintro rfl
          exact hne rfl
    · left
      exact (h.boxes m hm m' hm' hsubnet hsubnet' hid).mono hsub hsub'
  · intro n hn subnetId hparent
    obtain ⟨m, hm, hsubnet, hid, hsub⟩ := h.within hn hparent
    refine ⟨m, hm, hsubnet, hid, ?_⟩
    rwa [shown_of_isSubnet hsubnet]

end shown

section created

variable {guidance : Guidance} {iteration : HashOrder} {ctx : TopologyContext} {grouping : Grouping} {subnetId : Uuid}
  {layouts : List (Uuid × SubnetLayout)} {consolidated : Uuid → Option (List Uuid)} {showCidr : Scanning.IpCidr → String}

/-- Of the pieces with different keys only the one of a key has what is under that key. -/
theorem filter_flatMap {α : Type} {keyOf : α → Option Uuid} {f : Uuid → List α} {keys : List Uuid}
    (hf : ∀ k, ∀ a ∈ f k, keyOf a = some k) (hkeys : keys.Nodup) (hmem : subnetId ∈ keys) :
    (keys.flatMap f).filter (fun a => keyOf a = some subnetId) = f subnetId := by
  have hother : ∀ k, k ≠ subnetId → (f k).filter (fun a => keyOf a = some subnetId) = [] := by
    intro k hne
    apply List.filter_eq_nil_iff.mpr
    intro a ha
    simp [hf k a ha, hne]
  have hself : (f subnetId).filter (fun a => keyOf a = some subnetId) = f subnetId := by
    apply List.filter_eq_self.mpr
    intro a ha
    simp [hf subnetId a ha]
  induction keys with
  | nil => exact absurd hmem List.not_mem_nil
  | cons k keys ih =>
    rw [List.nodup_cons] at hkeys
    rw [List.flatMap_cons, List.filter_append]
    by_cases hk : k = subnetId
    · subst hk
      have hrest : (keys.flatMap f).filter (fun a => keyOf a = some k) = [] := by
        rw [List.filter_flatMap]
        apply List.flatMap_eq_nil_iff.mpr
        intro k' hk'
        apply hother
        rintro rfl
        exact hkeys.1 hk'
      rw [hself, hrest, List.append_nil]
    · rw [hother k hk, List.nil_append]
      apply ih hkeys.2
      simpa [Ne.symm hk] using hmem

theorem parent_of_mem_zoneNodes {isInfra : Bool} {shift : ℤ} {children : List SubnetChild} {n : Node}
    (h : n ∈ zoneNodes guidance subnetId isInfra shift children) : n.parent = some subnetId := by
  obtain ⟨child, -, hsome⟩ := List.mem_filterMap.mp h
  obtain ⟨layout, -, rfl⟩ := Option.map_eq_some_iff.mp hsome
  rfl

theorem parent_of_mem_calculateSubnetSize {children : List SubnetChild} {n : Node}
    (h : n ∈ (calculateSubnetSize guidance ctx subnetId children).2) : n.parent = some subnetId := by
  unfold calculateSubnetSize at h
  rcases List.mem_append.mp h with h | h
  · exact parent_of_mem_zoneNodes h
  · exact parent_of_mem_zoneNodes h

theorem nodup_iterated (iteration : HashOrder) (grouping : Grouping) : (iteration.order grouping.keys).Nodup :=
  (iteration.perm _).nodup_iff.mpr (List.nodup_dedup _)

/-- The nodes in one subnet are those that its size was calculated with. -/
theorem filter_createSubnetChildNodes (hmem : subnetId ∈ grouping.keys) :
    (createSubnetChildNodes guidance iteration ctx grouping).2.filter (fun n => n.parent = some subnetId) =
      (calculateSubnetSize guidance ctx subnetId (grouping.childrenOf subnetId)).2 := by
  unfold createSubnetChildNodes
  dsimp only
  rw [List.flatMap_map]
  apply filter_flatMap (f := fun k => (calculateSubnetSize guidance ctx k (grouping.childrenOf k)).2)
  · intro k n hn
    exact parent_of_mem_calculateSubnetSize hn
  · exact nodup_iterated iteration grouping
  · exact (iteration.perm _).mem_iff.mpr hmem

theorem keys_layouts : (createSubnetChildNodes guidance iteration ctx grouping).1.map Prod.fst = iteration.order grouping.keys := by
  simp [createSubnetChildNodes, Function.comp_def]

theorem layout_of_mem {layout : SubnetLayout}
    (h : (createSubnetChildNodes guidance iteration ctx grouping).1.lookup subnetId = some layout) :
    layout = (calculateSubnetSize guidance ctx subnetId (grouping.childrenOf subnetId)).1 := by
  have hmem := mem_of_lookup h
  unfold createSubnetChildNodes at hmem
  dsimp only at hmem
  rw [List.map_map] at hmem
  obtain ⟨k, -, heq⟩ := List.mem_map.mp hmem
  obtain ⟨rfl, rfl⟩ := Prod.mk.inj heq
  rfl

theorem size_of_mem_createSubnetNodes {n : Node} (h : n ∈ createSubnetNodes iteration ctx consolidated showCidr layouts) :
    ∃ layout, layouts.lookup n.id = some layout ∧ n.size = layout.size := by
  obtain ⟨-, e, he, hid, -, hsize⟩ := of_mem_createSubnetNodes h
  obtain ⟨layout, hlookup, hlayout⟩ := lookup_of_mem_gridPositions ((hashed_sublist _).subset he)
  exact ⟨layout, hid ▸ hlookup, hsize.symm.trans hlayout⟩

end created

section built

variable {drawing : Drawing} {ctx : TopologyContext} {oldNodes : List Node} {oldEdges : List Edge} {subnets others : List Node}
  {f : Uuid → ℤ}

/-- What subnets are left apart when their rows have been compressed. -/
theorem disjoint_movedTo {iteration : HashOrder} {consolidated : Uuid → Option (List Uuid)} {showCidr : Scanning.IpCidr → String}
    {layouts : List (Uuid × SubnetLayout)} (hf : RowsApart 77 (createSubnetNodes iteration ctx consolidated showCidr layouts) f)
    {a b : Node} (ha : a ∈ createSubnetNodes iteration ctx consolidated showCidr layouts)
    (hb : b ∈ createSubnetNodes iteration ctx consolidated showCidr layouts) (hne : a.id ≠ b.id) :
    Disjoint (movedTo f a).area (movedTo f b).area := by
  apply Set.disjoint_left.mpr
  rintro ⟨x, y⟩ hpa hpb
  simp only [Node.area, movedTo, Set.mem_Icc, Prod.mk_le_mk] at hpa hpb
  have hrows := createSubnetNodes_apart ha hb hne
  by_cases hy : a.position.y = b.position.y
  · have hapart := hf a ha b hb hne hy
    unfold KeepsGap at hapart
    omega
  · unfold padding at hrows
    omega

/-- The subnets and the nodes in them, before anything is moved. -/
abbrev groupingOf (drawing : Drawing) (ctx : TopologyContext) : Grouping :=
  groupChildrenBySubnet drawing.guidance ctx (EdgeBuilder.createEdges ctx drawing.drawn)

abbrev childNodesOf (drawing : Drawing) (ctx : TopologyContext) : List (Uuid × SubnetLayout) × List Node :=
  createSubnetChildNodes drawing.guidance drawing.childrenIteration ctx (groupingOf drawing ctx)

abbrev subnetNodesOf (drawing : Drawing) (ctx : TopologyContext) : List Node :=
  createSubnetNodes drawing.layoutsIteration ctx ((groupingOf drawing ctx).consolidated drawing.childrenIteration) drawing.showCidr
    (childNodesOf drawing ctx).1

theorem isSubnet_of_mem_childNodesOf {n : Node} (hn : n ∈ (childNodesOf drawing ctx).2) : n.isSubnet = false := by
  unfold childNodesOf createSubnetChildNodes at hn
  dsimp only at hn
  rw [List.flatMap_map] at hn
  obtain ⟨k, -, hn⟩ := List.mem_flatMap.mp hn
  have hparent := parent_of_mem_calculateSubnetSize hn
  apply Bool.eq_false_iff.mpr
  intro hsubnet
  rw [Node.isSubnet_iff.mp hsubnet] at hparent
  cases hparent

theorem boxes_created : Boxes (subnetNodesOf drawing ctx) (childNodesOf drawing ctx).2 := by
  apply boxes_createSubnetNodes
  · rw [keys_layouts]
    exact nodup_iterated _ _
  · intro n hn
    exact isSubnet_of_mem_childNodesOf hn

/-- The optimizer moves the subnets to the left and to the right, and closes up the columns of the others. -/
theorem exists_moved (drawing : Drawing) (ctx : TopologyContext) (oldNodes : List Node) (oldEdges : List Edge) :
    ∃ f, RowsApart 77 (subnetNodesOf drawing ctx) f ∧ (buildGraph drawing ctx oldNodes oldEdges).1 =
      compressVerticalSpacing (arrangement (subnetNodesOf drawing ctx) (childNodesOf drawing ctx).2 f) := by
  have hlayouts : ((childNodesOf drawing ctx).1.map Prod.fst).Nodup := by
    rw [keys_layouts]
    exact nodup_iterated _ _
  have hpositioned := List.foldlRecOn drawing.passes (fun nodes sweeps => optimizePositions sweeps nodes)
    (createSubnetNodes_arranged hlayouts) (fun nodes hnodes sweeps _ => optimizePositions_arranged boxes_created sweeps hnodes)
  obtain ⟨f, heq, hf⟩ := compressHorizontalSpacing_arranged boxes_created ctx (groupingOf drawing ctx).edges hpositioned
  refine ⟨f, hf, ?_⟩
  rw [← heq]
  rfl

theorem filter_isSubnet_moved (hboxes : Boxes subnets others) :
    (compressVerticalSpacing (arrangement subnets others f)).filter Node.isSubnet = subnets.map (movedTo f) := by
  rw [filter_isSubnet_compressVerticalSpacing, filter_arrangement hboxes]

theorem filter_parent_arrangement (hboxes : Boxes subnets others) (subnetId : Uuid) :
    (arrangement subnets others f).filter (fun n => n.parent = some subnetId) = others.filter (fun n => n.parent = some subnetId) := by
  have hnone : (subnets.map (movedTo f)).filter (fun n => n.parent = some subnetId) = [] := by
    apply List.filter_eq_nil_iff.mpr
    intro n hn
    obtain ⟨m, hm, rfl⟩ := List.mem_map.mp hn
    have hparent : (movedTo f m).parent = none := Node.isSubnet_iff.mp (hboxes.isSubnet m hm)
    simp [hparent]
  rw [arrangement, List.filter_append, hnone, List.nil_append]

theorem nodup_childrenOf (drawing : Drawing) (hids : (ctx.interfaces.map (fun i => i.id)).Nodup) (subnetId : Uuid) :
    (((groupingOf drawing ctx).childrenOf subnetId).map SubnetChild.id).Nodup := by
  have hplaces := (groupChildrenBySubnet_spec drawing.guidance ctx (EdgeBuilder.createEdges ctx drawing.drawn)).2
  have hnodup : ((groupingOf drawing ctx).children.map (fun e => e.2.id)).Nodup := by
    have hall := (ids_nodePlaces_sublist ctx).nodup hids
    rw [← hplaces, List.map_map] at hall
    exact hall
  rw [Grouping.childrenOf, List.map_map]
  exact (List.filter_sublist.map _).nodup hnodup

/-- The nodes of one subnet in the finished diagram fill the size that its box has. -/
theorem zoned_buildGraph (oldNodes : List Node) (oldEdges : List Edge) (hids : (ctx.interfaces.map (fun i => i.id)).Nodup)
    {subnetId : Uuid}
    (hmem : subnetId ∈ (groupingOf drawing ctx).keys) :
    ∃ children, Zoned subnetId children 0
      (calculateSubnetSize drawing.guidance ctx subnetId ((groupingOf drawing ctx).childrenOf subnetId)).1.size
        ((buildGraph drawing ctx oldNodes oldEdges).1.filter (fun n => n.parent = some subnetId)) := by
  obtain ⟨f, -, heq⟩ := exists_moved drawing ctx oldNodes oldEdges
  obtain ⟨placed, -, hzoned⟩ := zoned_calculateSubnetSize drawing.guidance ctx subnetId (nodup_childrenOf drawing hids subnetId)
  refine ⟨placed, ?_⟩
  rw [heq]
  apply Zoned.compressVerticalSpacing
  rw [filter_parent_arrangement boxes_created, filter_createSubnetChildNodes hmem]
  exact hzoned

theorem exists_subnetNode (drawing : Drawing) (oldNodes : List Node) (oldEdges : List Edge)
    (hsubnets : ∀ i ∈ ctx.interfaces, ∃ s ∈ ctx.subnets, s.id = i.base.subnetId) {subnetId : Uuid}
    (hmem : subnetId ∈ (nodePlaces ctx).map Prod.fst) :
    ∃ m ∈ (buildGraph drawing ctx oldNodes oldEdges).1, m.isSubnet = true ∧ m.id = subnetId := by
  have hlisted : subnetId ∈ ctx.subnets.map (fun s => s.id) := by
    obtain ⟨e, he, rfl⟩ := List.mem_map.mp hmem
    exact listed_of_mem_nodePlaces hsubnets he
  have hnode := (mem_identity_buildGraph drawing ctx oldNodes oldEdges (p := (none, subnetId))).mpr (Or.inl ⟨rfl, hlisted, hmem⟩)
  obtain ⟨m, hm, hidentity⟩ := List.mem_map.mp hnode
  obtain ⟨hparent, hid⟩ := Prod.mk.inj hidentity
  exact ⟨m, hm, Node.isSubnet_iff.mpr hparent, hid⟩

theorem composed_buildGraph (hids : (ctx.interfaces.map (fun i => i.id) ++ ctx.subnets.map (fun s => s.id)).Nodup)
    (hsubnets : ∀ i ∈ ctx.interfaces, ∃ s ∈ ctx.subnets, s.id = i.base.subnetId) :
    Composed (buildGraph drawing ctx oldNodes oldEdges).1 := by
  obtain ⟨f, hf, heq⟩ := exists_moved drawing ctx oldNodes oldEdges
  have hmoved : ∀ m ∈ (buildGraph drawing ctx oldNodes oldEdges).1, m.isSubnet = true →
      ∃ s ∈ subnetNodesOf drawing ctx, m = movedTo f s := by
    intro m hm hsubnet
    have hfilter := List.mem_filter.mpr ⟨hm, hsubnet⟩
    rw [heq, filter_isSubnet_moved boxes_created] at hfilter
    obtain ⟨s, hs, rfl⟩ := List.mem_map.mp hfilter
    exact ⟨s, hs, rfl⟩
  refine ⟨nodup_ids_buildGraph hids, ?_, ?_⟩
  · intro a ha b hb hsubnet hsubnet' hne
    obtain ⟨s, hs, rfl⟩ := hmoved a ha hsubnet
    obtain ⟨s', hs', rfl⟩ := hmoved b hb hsubnet'
    exact disjoint_movedTo hf hs hs' hne
  · intro n hn subnetId hparent
    have hplace : subnetId ∈ (nodePlaces ctx).map Prod.fst := by
      rcases (mem_identity_buildGraph drawing ctx oldNodes oldEdges).mp (List.mem_map_of_mem hn) with ⟨hnone, -⟩ | ⟨e, he, heq'⟩
      · exact absurd (hparent.symm.trans hnone) (Option.some_ne_none _)
      · have hid : some subnetId = some e.1 := hparent.symm.trans (congrArg Prod.fst heq')
        exact Option.some.inj hid ▸ List.mem_map_of_mem he
    have hkey : subnetId ∈ (groupingOf drawing ctx).keys := by
      rw [← (groupChildrenBySubnet_spec drawing.guidance ctx (EdgeBuilder.createEdges ctx drawing.drawn)).2, List.map_map] at hplace
      exact List.mem_dedup.mpr hplace
    obtain ⟨m, hm, hsubnet, rfl⟩ := exists_subnetNode drawing oldNodes oldEdges hsubnets hplace
    obtain ⟨children, hzoned⟩ := zoned_buildGraph oldNodes oldEdges (List.nodup_append.mp hids).1 hkey
    refine ⟨m, hm, hsubnet, rfl, children, ?_⟩
    obtain ⟨s, hs, rfl⟩ := hmoved m hm hsubnet
    obtain ⟨layout, hlookup, hsize⟩ := size_of_mem_createSubnetNodes hs
    have hlayout := layout_of_mem hlookup
    have hsize' : (movedTo f s).size = layout.size := hsize
    rw [hsize', hlayout]
    exact hzoned

/-- Whatever is drawn, no node of the diagram covers another one but for a subnet those in it, which do not stick out of it. -/
theorem built_diagram_legible (drawing : Drawing) (ctx : TopologyContext) (oldNodes : List Node) (oldEdges : List Edge)
    (hids : (ctx.interfaces.map (fun i => i.id) ++ ctx.subnets.map (fun s => s.id)).Nodup)
    (hsubnets : ∀ i ∈ ctx.interfaces, ∃ s ∈ ctx.subnets, s.id = i.base.subnetId) :
    Legible (buildGraph drawing ctx oldNodes oldEdges).1 :=
  (composed_buildGraph hids hsubnets).legible

theorem one_host_legible : Legible (buildGraph oneSweep oneHost [] []).1 :=
  built_diagram_legible oneSweep oneHost [] [] (by decide) (by decide)

end built

end VantageNet.Graph
