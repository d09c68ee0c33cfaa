import Mathlib
import VantageNet.Graph.Rows
import VantageNet.Graph.Compression
import VantageNet.Interaction.Table

/-! The boxes of subnets are laid out in rows and do not touch each other wherever they are moved to. -/

namespace VantageNet.Graph

open Inventory
open SubnetPositioner

section rows

variable {x y : ℕ} {row : List (Uuid × NodeLayout)} {rows : List (List (Uuid × NodeLayout))} {e : Uuid × NodeLayout}

/-- To the left in the same row, or in a row above. -/
def Precedes (a b : Uuid × NodeLayout) : Prop :=
  (a.2.position.y = b.2.position.y ∧ a.2.position.x + a.2.size.x + subnetPadding.x ≤ b.2.position.x) ∨
    a.2.position.y + a.2.size.y + subnetPadding.y ≤ b.2.position.y

theorem of_mem_rowPositions (h : e ∈ rowPositions subnetPadding y x row) :
    (x : ℤ) ≤ e.2.position.x ∧ e.2.position.y = y ∧ e.2.size.y ≤ maxHeight row ∧ ∃ layout, (e.1, layout) ∈ row ∧
    e.2.size = layout.size := by
  induction row generalizing x with
  | nil => exact absurd h List.not_mem_nil
  | cons first rest ih =>
    have hmax : maxHeight (first :: rest) = max first.2.size.y (maxHeight rest) := rfl
    rcases List.mem_cons.mp h with rfl | h
    · exact ⟨le_rfl, rfl, by rw [hmax]; exact le_max_left _ _, first.2, List.mem_cons_self, rfl⟩
    · obtain ⟨hx, hy, hheight, layout, hlayout, hsize⟩ := ih h
      exact ⟨by omega, hy, by rw [hmax]; exact hheight.trans (le_max_right _ _), layout, List.mem_cons_of_mem _ hlayout, hsize⟩

theorem pairwise_rowPositions : (rowPositions subnetPadding y x row).Pairwise Precedes := by
  induction row generalizing x with
  | nil => exact List.Pairwise.nil
  | cons first rest ih =>
    refine List.pairwise_cons.mpr ⟨fun e he => Or.inl ?_, ih⟩
    obtain ⟨hx, hy, -⟩ := of_mem_rowPositions he
    exact ⟨hy.symm, by dsimp only; omega⟩

theorem of_mem_calculateContainerSize (h : e ∈ calculateContainerSize subnetPadding y rows) :
    (y : ℤ) ≤ e.2.position.y ∧ ∃ row ∈ rows, ∃ layout, (e.1, layout) ∈ row ∧ e.2.size = layout.size := by
  induction rows generalizing y with
  | nil => exact absurd h List.not_mem_nil
  | cons row rows ih =>
    rw [calculateContainerSize] at h
    split at h
    · obtain ⟨hy, row', hrow', hlayout⟩ := ih h
      exact ⟨hy, row', List.mem_cons_of_mem _ hrow', hlayout⟩
    · rcases List.mem_append.mp h with h | h
      · obtain ⟨-, hy, -, hlayout⟩ := of_mem_rowPositions h
        exact ⟨hy.ge, row, List.mem_cons_self, hlayout⟩
      · obtain ⟨hy, row', hrow', hlayout⟩ := ih h
        exact ⟨by omega, row', List.mem_cons_of_mem _ hrow', hlayout⟩

theorem pairwise_calculateContainerSize : (calculateContainerSize subnetPadding y rows).Pairwise Precedes := by
  induction rows generalizing y with
  | nil => exact List.Pairwise.nil
  | cons row rows ih =>
    rw [calculateContainerSize]
    split
    · exact ih
    · refine List.pairwise_append.mpr ⟨pairwise_rowPositions, ih, fun a ha b hb => Or.inr ?_⟩
      obtain ⟨-, hy, hheight, -⟩ := of_mem_rowPositions ha
      have hbelow := (of_mem_calculateContainerSize hb).1
      omega

end rows

section created

variable {iteration : HashOrder} {ctx : TopologyContext} {consolidated : Uuid → Option (List Uuid)}
  {showCidr : Scanning.IpCidr → String}
  {layouts : List (Uuid × SubnetLayout)} {n : Node}

/-- The positions of the subnets, before they are entered in a map. -/
abbrev gridPositions (ctx : TopologyContext) (layouts : List (Uuid × SubnetLayout)) : List (Uuid × NodeLayout) :=
  calculateContainerSize subnetPadding subnetPadding.y (calculateSubnetGridPositionsByLayer ctx layouts)

theorem lookup_of_mem_gridPositions {e : Uuid × NodeLayout} (h : e ∈ gridPositions ctx layouts) :
    ∃ layout, layouts.lookup e.1 = some layout ∧ e.2.size = layout.size := by
  obtain ⟨-, row, hrow, layout, hlayout, hsize⟩ := of_mem_calculateContainerSize h
  obtain ⟨group, hgroup, rfl⟩ := List.mem_map.mp hrow
  obtain ⟨_, -, rfl⟩ := mem_grouped.mp hgroup
  obtain ⟨⟨s, layout'⟩, hs, heq⟩ := List.mem_map.mp hlayout
  obtain ⟨hid, rfl⟩ := Prod.mk.inj heq
  obtain ⟨s', -, hs'⟩ := List.mem_filterMap.mp (List.mem_of_mem_filter hs)
  obtain ⟨found, hfound, heq⟩ := Option.map_eq_some_iff.mp hs'
  obtain ⟨rfl, rfl⟩ := Prod.mk.inj heq
  exact ⟨found, hid ▸ hfound, hsize⟩

theorem of_mem_createSubnetNodes (h : n ∈ createSubnetNodes iteration ctx consolidated showCidr layouts) :
    n.isSubnet = true ∧ ∃ e ∈ hashed (gridPositions ctx layouts), e.1 = n.id ∧ e.2.position = n.position ∧
      e.2.size = n.size := by
  obtain ⟨subnetId, -, heq⟩ := List.mem_filterMap.mp h
  obtain ⟨layout, hlayout, heq⟩ := Option.bind_eq_some_iff.mp heq
  obtain ⟨placed, hplaced, heq⟩ := Option.bind_eq_some_iff.mp heq
  cases Option.some.inj heq
  have hmem := mem_of_lookup hplaced
  obtain ⟨layout', hlayout', hsize⟩ := lookup_of_mem_gridPositions ((hashed_sublist _).subset hmem)
  rw [hlayout] at hlayout'
  cases Option.some.inj hlayout'
  exact ⟨rfl, _, hmem, rfl, rfl, hsize⟩

theorem nodup_createSubnetNodes (h : (layouts.map Prod.fst).Nodup) :
    ((createSubnetNodes iteration ctx consolidated showCidr layouts).map Node.id).Nodup := by
  refine List.pairwise_map.mpr (List.pairwise_filterMap.mpr ?_)
  refine ((iteration.perm _).nodup_iff.mpr h).imp (fun hne n hn n' hn' heq => hne ?_)
  obtain ⟨_, -, hn⟩ := Option.bind_eq_some_iff.mp hn
  obtain ⟨_, -, hn⟩ := Option.bind_eq_some_iff.mp hn
  obtain ⟨_, -, hn'⟩ := Option.bind_eq_some_iff.mp hn'
  obtain ⟨_, -, hn'⟩ := Option.bind_eq_some_iff.mp hn'
  cases Option.some.inj hn
  cases Option.some.inj hn'
  exact heq

/-- The boxes as they are created are to the left and right of each other, or above. -/
theorem createSubnetNodes_apart {a b : Node} (ha : a ∈ createSubnetNodes iteration ctx consolidated showCidr layouts)
    (hb : b ∈ createSubnetNodes iteration ctx consolidated showCidr layouts) (hne : a.id ≠ b.id) :
    (a.position.y = b.position.y ∧ (a.position.x + a.size.x + padding ≤ b.position.x ∨ b.position.x + b.size.x + padding ≤ a.position.x)) ∨
      a.position.y + a.size.y + padding ≤ b.position.y ∨ b.position.y + b.size.y + padding ≤ a.position.y := by
  obtain ⟨-, e, he, hid, hposition, hsize⟩ := of_mem_createSubnetNodes ha
  obtain ⟨-, e', he', hid', hposition', hsize'⟩ := of_mem_createSubnetNodes hb
  have hne' : e ≠ e' := fun heq => hne (hid.symm.trans (heq ▸ hid'))
  have heither := pairwise_either (pairwise_calculateContainerSize.sublist (hashed_sublist _)) he he' hne'
  simp only [Precedes, hposition, hposition', hsize, hsize', subnetPadding] at heither
  unfold padding
  omega

end created

section optimized

variable {subnets others nodes : List Node}

theorem optimizePositions_arranged (h : Boxes subnets others) (sweeps : List Proposals)
    (hnodes : Arranged subnets others (Settled subnets) nodes) :
    Arranged subnets others (Settled subnets) (optimizePositions sweeps nodes) := by
  obtain ⟨f, rfl, hf⟩ := hnodes
  unfold optimizePositions
  rw [subnetIds_arrangement h]
  have hlayers : ∀ layer ∈ groupSubnetsByLayer (arrangement subnets others f) (subnets.map Node.id),
      ∀ id ∈ layer, id ∈ subnets.map Node.id := by
    intro layer hlayer id hid
    obtain ⟨y, rfl⟩ := mem_groupSubnetsByLayer h hlayer
    exact (List.filter_sublist.map Node.id).subset hid
  refine snapped_arranged h (List.foldlRecOn sweeps _ ⟨f, rfl, hf⟩ (fun nodes hnodes proposals _ => ?_))
  exact sweep_arranged h proposals hlayers hnodes

theorem compressHorizontalSpacing_arranged (h : Boxes subnets others) (ctx : TopologyContext) (edges : List Edge)
    (hnodes : Arranged subnets others (Settled subnets) nodes) :
    Arranged subnets others (RowsApart 77 subnets) (compressHorizontalSpacing ctx nodes edges) := by
  obtain ⟨f, rfl, hf⟩ := hnodes
  unfold compressHorizontalSpacing
  rw [subnetIds_arrangement h]
  obtain ⟨g, heq, hg⟩ : Arranged subnets others (RowsApart 101 subnets)
      ((groupSubnetsByLayer (arrangement subnets others f) (subnets.map Node.id)).foldl
        (compressLayer (findLockedSubnets ctx (arrangement subnets others f) edges))
          (arrangement subnets others f)) := by
    refine List.foldlRecOn _ _ ⟨f, rfl, hf.rowsApart⟩ (fun nodes hnodes layer hlayer => ?_)
    obtain ⟨y, hy⟩ := mem_groupSubnetsByLayer h hlayer
    exact compressLayer_arranged h _ hy hnodes
  dsimp only
  rw [heq]
  refine ⟨fun id => snapToGrid (g id), ?_, hg.snap⟩
  unfold arrangement
  rw [List.map_append, List.map_map]
  refine congrArg₂ (· ++ ·) (List.map_congr_left (fun n hn => ?_)) ?_
  · have hsubnet : (movedTo g n).isSubnet = true := h.isSubnet n hn
    rw [Function.comp_apply, if_pos hsubnet]
    rfl
  · conv_rhs => rw [← List.map_id others]
    exact List.map_congr_left (fun n hn => if_neg (by simp [h.others n hn]))

end optimized

section disjoint

variable {iteration : HashOrder} {ctx : TopologyContext} {consolidated : Uuid → Option (List Uuid)}
  {showCidr : Scanning.IpCidr → String}
  {layouts : List (Uuid × SubnetLayout)} {others subnets : List Node} {f : Uuid → ℤ}

theorem boxes_createSubnetNodes (hlayouts : (layouts.map Prod.fst).Nodup) (hothers : ∀ n ∈ others, n.isSubnet = false) :
    Boxes (createSubnetNodes iteration ctx consolidated showCidr layouts) others :=
  ⟨nodup_createSubnetNodes hlayouts, fun _ hn => (of_mem_createSubnetNodes hn).1, hothers⟩

theorem createSubnetNodes_arranged (hlayouts : (layouts.map Prod.fst).Nodup) :
    Arranged (createSubnetNodes iteration ctx consolidated showCidr layouts) others
      (Settled (createSubnetNodes iteration ctx consolidated showCidr layouts))
      (createSubnetNodes iteration ctx consolidated showCidr layouts ++ others) := by
  set subnets := createSubnetNodes iteration ctx consolidated showCidr layouts with hsubnets
  let f : Uuid → ℤ := fun id => ((find subnets id).map (fun n => n.position.x)).getD 0
  have hf : ∀ n ∈ subnets, f n.id = n.position.x := by
    intro n hn
    have hfind : find subnets n.id = some n := Interaction.find?_eq_some_of_unique hn
      (decide_eq_true rfl) (fun m hm hid =>
      List.inj_on_of_nodup_map (nodup_createSubnetNodes hlayouts) hm hn (of_decide_eq_true hid))
    simp only [f, hfind, Option.map_some, Option.getD_some]
  refine ⟨f, ?_, fun a ha b hb hne hy => Or.inl ?_⟩
  · conv_lhs => rw [← List.map_id subnets]
    refine congrArg (· ++ others) (List.map_congr_left (fun n hn => ?_))
    rw [movedTo, hf n hn]
    rfl
  · rw [KeepsGap, hf a ha, hf b hb]
    rcases createSubnetNodes_apart ha hb hne with ⟨-, hx⟩ | hrow
    · exact hx
    · unfold padding at hrow
      omega

/-- The boxes of the subnets do not touch each other, whatever positions are proposed for them in whatever number of sweeps. -/
theorem subnet_boxes_disjoint (drawing : Drawing) (ctx : TopologyContext) (consolidated : Uuid → Option (List Uuid))
    (layouts : List (Uuid × SubnetLayout)) (others : List Node) (edges : List Edge)
    (hlayouts : (layouts.map Prod.fst).Nodup)
    (hothers : ∀ n ∈ others, n.isSubnet = false) :
    let nodes := createSubnetNodes drawing.layoutsIteration ctx consolidated drawing.showCidr layouts ++ others
    ((optimizeGraph drawing ctx nodes edges).1.filter Node.isSubnet).Pairwise (fun a b => Disjoint a.area b.area) := by
  intro nodes
  have h : Boxes (createSubnetNodes drawing.layoutsIteration ctx consolidated drawing.showCidr layouts) others :=
    boxes_createSubnetNodes hlayouts hothers
  have hpositioned := List.foldlRecOn drawing.passes (fun nodes sweeps => optimizePositions sweeps nodes)
    (createSubnetNodes_arranged hlayouts) (fun nodes hnodes sweeps _ => optimizePositions_arranged h sweeps hnodes)
  obtain ⟨f, heq, hf⟩ := compressHorizontalSpacing_arranged h ctx edges hpositioned
  unfold optimizeGraph
  dsimp only
  rw [filter_isSubnet_compressVerticalSpacing, heq, filter_arrangement h, List.pairwise_map]
  refine (List.pairwise_map.mp h.ids).imp_of_mem (fun {a b} ha hb hne => Set.disjoint_left.mpr ?_)
  rintro ⟨x, y⟩ ⟨⟨hax, hay⟩, hax', hay'⟩ ⟨⟨hbx, hby⟩, hbx', hby'⟩
  dsimp only [movedTo] at hax hay hax' hay' hbx hby hbx' hby'
  rcases createSubnetNodes_apart ha hb hne with ⟨hy, -⟩ | hrow
  · have hapart := hf a ha b hb hne hy
    unfold KeepsGap at hapart
    omega
  · unfold padding at hrow
    omega

def unordered : HashOrder := ⟨id, fun _ => .refl _⟩

/-- One sweep that proposes the same position for all subnets. -/
def oneSweep : Drawing := ⟨unguided, unordered, unordered, fun i => Fin.ofNat _ i, fun _ => "", [[fun _ _ _ _ => 125]], fun _ _ => (.left, .right)⟩

def twoSubnets : TopologyContext := { emptyContext with
  subnets := [⟨1, 0, 0, ⟨⟨.v4 (0x0A000000#32), 8⟩, 9, "office", none, .lan, .manual, []⟩⟩,
    ⟨2, 0, 0, ⟨⟨.v4 (0xC0A80000#32), 16⟩, 9, "home", none, .lan, .manual, []⟩⟩] }

theorem two_boxes_disjoint :
    let nodes := createSubnetNodes oneSweep.layoutsIteration twoSubnets (fun _ => none) oneSweep.showCidr
      [(1, ⟨⟨350, 175⟩, 0⟩), (2, ⟨⟨333, 275⟩, 0⟩)] ++ []
    ((optimizeGraph oneSweep twoSubnets nodes []).1.filter Node.isSubnet).Pairwise (fun a b =>
      Disjoint a.area b.area) :=
  subnet_boxes_disjoint oneSweep twoSubnets (fun _ => none) [(1, ⟨⟨350, 175⟩, 0⟩), (2, ⟨⟨333, 275⟩, 0⟩)] []
    [] (by decide)
    (fun _ h => absurd h List.not_mem_nil)

end disjoint

end VantageNet.Graph
