import Mathlib
import VantageNet.Graph.Placement

/-! The children of a subnet are all placed, apart from each other and inside of it. -/

namespace VantageNet.Graph

open Inventory

section spiral

variable {n width height : ℕ}

theorem clampTo_lt (hn : 0 < n) (v : ℤ) : clampTo n v < n := by
  unfold clampTo
  omega

theorem clampTo_of_lt {i : ℕ} (h : i < n) : clampTo n i = i := by
  unfold clampTo
  omega

theorem mem_offsets {radius : ℕ} {v : ℤ} : v ∈ offsets radius ↔ -(radius : ℤ) ≤ v ∧ v ≤ radius := by
  rw [offsets, List.mem_map]
  constructor
  · rintro ⟨k, hk, rfl⟩
    have hlt := List.mem_range.mp hk
    omega
  · rintro ⟨hl, hr⟩
    exact ⟨(v + radius).toNat, List.mem_range.mpr (by omega), by omega⟩

theorem lt_of_mem_spiral {ideal cell : Cell} (hw : 0 < width) (hh : 0 < height) (h : cell ∈ spiral width height ideal) :
    cell.1 < width ∧ cell.2 < height := by
  simp only [spiral, List.mem_flatMap, List.mem_map] at h
  obtain ⟨_, -, dy, -, dx, -, rfl⟩ := h
  exact ⟨clampTo_lt hw _, clampTo_lt hh _⟩

/-- Within a radius less than the longer side every cell is looked at. -/
theorem mem_spiral {ideal cell : Cell} (hi : ideal.1 < width ∧ ideal.2 < height)
    (hc : cell.1 < width ∧ cell.2 < height) :
    cell ∈ spiral width height ideal := by
  simp only [spiral, List.mem_flatMap, List.mem_map, List.mem_range, mem_offsets]
  refine ⟨max width height - 1, by omega, (cell.2 : ℤ) - ideal.2, by omega, (cell.1 : ℤ) - ideal.1, by omega, ?_⟩
  rw [add_sub_cancel, add_sub_cancel, clampTo_of_lt hc.1, clampTo_of_lt hc.2]

theorem le_gridWidth_mul_gridHeight (n : ℕ) : n ≤ gridWidth n * gridHeight n := by
  have hw : 0 < gridWidth n := lt_of_lt_of_le one_pos (le_max_right _ _)
  have hdiv := Nat.lt_div_mul_add (a := n + gridWidth n - 1) hw
  have hle : (n + gridWidth n - 1) / gridWidth n * gridWidth n ≤ gridHeight n * gridWidth n :=
    Nat.mul_le_mul_right _ (le_max_left _ _)
  rw [Nat.mul_comm]
  omega

end spiral

section placing

variable {width height : ℕ} {grid : Grid} {children : List SubnetChild}

/-- These children have been placed, each in a cell of its own. -/
structure Tiled (width height : ℕ) (children : List SubnetChild) (grid : Grid) : Prop where
  placed : grid.map Prod.snd = children
  nodup : (grid.map Prod.fst).Nodup
  within : ∀ e ∈ grid, e.1.1 < width ∧ e.1.2 < height

/-- While there are fewer children than cells, one of the cells is free. -/
theorem Tiled.exists_free (h : Tiled width height children grid) (hlt : children.length < width * height) :
    ∃ cell : Cell, (cell.1 < width ∧ cell.2 < height) ∧ ∀ e ∈ grid, e.1 ≠ cell := by
  have hcard : (grid.map Prod.fst).toFinset.card < (Finset.range width ×ˢ Finset.range height).card := by
    rw [List.toFinset_card_of_nodup h.nodup, List.length_map, Finset.card_product, Finset.card_range, Finset.card_range,
      ← List.length_map (f := Prod.snd), h.placed]
    exact hlt
  obtain ⟨cell, hcell, hfree⟩ := Finset.exists_mem_notMem_of_card_lt_card hcard
  simp only [Finset.mem_product, Finset.mem_range] at hcell
  refine ⟨cell, hcell, fun e he heq => hfree ?_⟩
  rw [List.mem_toFinset, ← heq]
  exact List.mem_map_of_mem he

theorem Tiled.placeChild (h : Tiled width height children grid) (hlt : children.length < width * height)
    (ideal : SubnetChild → ℤ × ℤ) (child : SubnetChild) :
    Tiled width height (children ++ [child]) (placeChild width height ideal grid child) := by
  obtain ⟨cell, hcell, hfree⟩ := h.exists_free hlt
  have hw : 0 < width := Nat.zero_lt_of_lt hcell.1
  have hh : 0 < height := Nat.zero_lt_of_lt hcell.2
  unfold Graph.placeChild
  cases hfind : (spiral width height (clampTo width (ideal child).1, clampTo height (ideal child).2)).find?
      (fun cell => !grid.any (fun e => e.1 = cell)) with
  | none =>
    have hnone := List.find?_eq_none.mp hfind cell (mem_spiral ⟨clampTo_lt hw _, clampTo_lt hh _⟩ hcell)
    exact absurd (by simpa using hfree) hnone
  | some found =>
    have hfound : ∀ e ∈ grid, e.1 ≠ found := by simpa using List.find?_some hfind
    refine ⟨by simp [h.placed], ?_, fun e he => ?_⟩
    · rw [List.map_append]
      refine List.nodup_append.mpr ⟨h.nodup, List.nodup_singleton _, ?_⟩
      rintro _ hmem _ hsingle rfl
      obtain ⟨e, he, rfl⟩ := List.mem_map.mp hmem
      exact hfound e he (List.mem_singleton.mp hsingle)
    · rcases List.mem_append.mp he with he | he
      · exact h.within e he
      · rw [List.mem_singleton.mp he]
        exact lt_of_mem_spiral hw hh (List.mem_of_find?_eq_some hfind)

theorem tiled_foldl (ideal : SubnetChild → ℤ × ℤ) (hle : children.length ≤ width * height) :
    Tiled width height children (children.foldl (Graph.placeChild width height ideal) []) := by
  induction children using List.reverseRecOn with
  | nil => exact ⟨rfl, .nil, fun e he => absurd he List.not_mem_nil⟩
  | append_singleton children child ih =>
    rw [List.length_append, List.length_singleton] at hle
    rw [List.foldl_append]
    exact (ih (by omega)).placeChild (by omega) ideal child

theorem sortedChildren_perm (guidance : Guidance) (children : List SubnetChild) :
    (sortedChildren guidance children).Perm children := by
  have hperm := (List.mergeSort_perm (children.map (fun c => (c, guidance.force children c))) comesBefore).map Prod.fst
  rwa [List.map_map, show Prod.fst ∘ (fun c => (c, guidance.force children c)) = id from rfl, List.map_id] at hperm

theorem tiled_placedGrid (guidance : Guidance) (children : List SubnetChild) :
    Tiled (gridWidth children.length) (gridHeight children.length) (sortedChildren guidance children)
      (placedGrid guidance children) :=
  tiled_foldl _ ((sortedChildren_perm guidance children).length_eq ▸ le_gridWidth_mul_gridHeight _)

end placing

section positions

variable {grid : Grid} {cell : Cell} {extent : ℕ → ℕ} {padding : ℕ}

theorem le_colWidth {e : Cell × SubnetChild} (he : e ∈ grid) : e.2.size.x ≤ colWidth grid e.1.1 :=
  List.le_max_of_le (List.mem_map_of_mem (f := fun e => e.2.size.x) (List.mem_filter.mpr ⟨he, by simp⟩)) le_rfl

theorem le_rowHeight {e : Cell × SubnetChild} (he : e ∈ grid) : e.2.size.y ≤ rowHeight grid e.1.2 :=
  List.le_max_of_le (List.mem_map_of_mem (f := fun e => e.2.size.y) (List.mem_filter.mpr ⟨he, by simp⟩)) le_rfl

theorem offsetOf_succ (i : ℕ) : offsetOf extent padding (i + 1) = offsetOf extent padding i + extent i + padding := by
  simp only [offsetOf, List.range_succ, List.map_append, List.sum_append, List.map_singleton, List.sum_singleton]
  omega

theorem le_offsetOf (extent : ℕ → ℕ) (padding i : ℕ) : padding ≤ offsetOf extent padding i := Nat.le_add_right _ _

/-- A later column begins after the end of an earlier one and the padding. -/
theorem offsetOf_add_le (extent : ℕ → ℕ) (padding : ℕ) {i j : ℕ} (h : i < j) :
    offsetOf extent padding i + extent i + padding ≤ offsetOf extent padding j := by
  induction j, h using Nat.le_induction with
  | base => rw [offsetOf_succ]
  | succ j _ ih =>
    rw [offsetOf_succ]
    omega

theorem nodup_rowMajor {width height : ℕ} (h : (grid.map Prod.fst).Nodup) : (rowMajor width height grid).Nodup := by
  have hgrid := h.of_map
  refine List.nodup_flatMap.mpr ⟨fun row _ => List.nodup_flatMap.mpr ⟨fun col _ => hgrid.filter _, ?_⟩, ?_⟩
  · refine List.nodup_range.imp (fun hne e he he' => hne ?_)
    simp only [List.mem_filter, decide_eq_true_eq] at he he'
    exact (Prod.mk.inj (he.2.symm.trans he'.2)).1
  · refine List.nodup_range.imp (fun hne e he he' => hne ?_)
    simp only [List.mem_flatMap, List.mem_filter, decide_eq_true_eq] at he he'
    obtain ⟨_, -, -, he⟩ := he
    obtain ⟨_, -, -, he'⟩ := he'
    exact (Prod.mk.inj (he.symm.trans he')).2

theorem rowMajor_perm {width height : ℕ} {children : List SubnetChild} (h : Tiled width height children grid) :
    (rowMajor width height grid).Perm grid := by
  refine (List.perm_ext_iff_of_nodup (nodup_rowMajor h.nodup) h.nodup.of_map).mpr (fun e => ?_)
  simp only [rowMajor, List.mem_flatMap, List.mem_range, List.mem_filter, decide_eq_true_eq]
  constructor
  · rintro ⟨_, -, _, -, he, -⟩
    exact he
  · intro he
    exact ⟨e.1.2, (h.within e he).2, e.1.1, (h.within e he).1, he, rfl⟩

theorem pairwise_mergeSort_key {α κ : Type} [LinearOrder κ] (key : α → κ) (l : List α) :
    (l.mergeSort (fun a b => key a ≤ key b)).Pairwise (fun a b => key a ≤ key b) := by
  refine (List.pairwise_mergeSort ?_ ?_ l).imp of_decide_eq_true
  · intro a b c hab hbc
    exact decide_eq_true ((of_decide_eq_true hab).trans (of_decide_eq_true hbc))
  · intro a b
    rw [Bool.or_eq_true, decide_eq_true_eq, decide_eq_true_eq]
    exact le_total _ _

theorem pairwise_either {α : Type} {R : α → α → Prop} {l : List α} (h : l.Pairwise R) {a b : α} (ha : a ∈ l)
    (hb : b ∈ l) (hne : a ≠ b) : R a b ∨ R b a := by
  have hsymm : Std.Symm (fun a b => R a b ∨ R b a) := ⟨fun _ _ h => h.symm⟩
  exact (h.imp Or.inl : l.Pairwise (fun a b => R a b ∨ R b a)).forall ha hb hne

end positions

section zones

variable {guidance : Guidance} {subnetId : Uuid} {isInfra : Bool} {shift : ℤ} {children : List SubnetChild} {a b : Node}

/-- The rectangle of a node with its border. -/
def Node.area (n : Node) : Set (ℤ × ℤ) := Set.Icc (n.position.x, n.position.y) (n.position.x + n.size.x, n.position.y + n.size.y)

/-- Next to each other with the padding between them, or in one column with the padding between them. -/
def Spaced (a b : Node) : Prop :=
  a.position.x + a.size.x + nodePadding.x ≤ b.position.x ∨ b.position.x + b.size.x + nodePadding.x ≤ a.position.x ∨
    (a.position.x = b.position.x ∧ (a.position.y + a.size.y + nodePadding.y ≤ b.position.y ∨
      b.position.y + b.size.y + nodePadding.y ≤ a.position.y))

theorem Spaced.symm (h : Spaced a b) : Spaced b a := by
  unfold Spaced at *
  omega

theorem Spaced.disjoint (h : Spaced a b) : Disjoint a.area b.area := by
  rw [Set.disjoint_left]
  rintro ⟨x, y⟩ ⟨⟨hax, hay⟩, hax', hay'⟩ ⟨⟨hbx, hby⟩, hbx', hby'⟩
  simp only at hax hay hax' hay' hbx hby hbx' hby'
  simp only [Spaced, nodePadding] at h
  omega

/-- The cells of the children, as they are placed. -/
theorem exists_cell (guidance : Guidance) {child : SubnetChild} (h : child ∈ children) :
    ∃ cell, (cell, child) ∈ placedGrid guidance children := by
  have hmem : child ∈ (placedGrid guidance children).map Prod.snd := by
    rw [(tiled_placedGrid guidance children).placed]
    exact (sortedChildren_perm guidance children).mem_iff.mpr h
  obtain ⟨⟨cell, _⟩, he, rfl⟩ := List.mem_map.mp hmem
  exact ⟨cell, he⟩

/-- The layouts of the children at their cells. -/
def gridLayouts (guidance : Guidance) (children : List SubnetChild) : List (Uuid × NodeLayout) :=
  (placedGrid guidance children).map (fun e => (e.2.id, ⟨e.2.size, cellPosition (placedGrid guidance children) nodePadding e.1⟩))

theorem ids_gridLayouts_perm (guidance : Guidance) (children : List SubnetChild) :
    ((gridLayouts guidance children).map Prod.fst).Perm (children.map SubnetChild.id) := by
  have hids : (gridLayouts guidance children).map Prod.fst = ((placedGrid guidance children).map Prod.snd).map SubnetChild.id := by
    simp only [gridLayouts, List.map_map]
    rfl
  rw [hids, (tiled_placedGrid guidance children).placed]
  exact (sortedChildren_perm guidance children).map _

theorem zonePositions_perm (guidance : Guidance) (hnodup : (children.map SubnetChild.id).Nodup) :
    (zonePositions guidance children).Perm (gridLayouts guidance children) := by
  cases children with
  | nil =>
    have hnil := (tiled_placedGrid guidance []).placed.trans (sortedChildren_perm guidance []).eq_nil
    simp only [gridLayouts, List.map_eq_nil_iff.mp hnil]
    rfl
  | cons child rest =>
    have hperm := rowMajor_perm (tiled_placedGrid guidance (child :: rest))
    have hnodup' := (((hperm.map (fun e => (e.2.id, (⟨e.2.size, cellPosition (placedGrid guidance (child :: rest)) nodePadding e.1⟩ :
      NodeLayout)))).map Prod.fst).trans (ids_gridLayouts_perm guidance _)).nodup_iff.mpr hnodup
    have heq : zonePositions guidance (child :: rest) = _ := hashed_eq_self hnodup'
    rw [heq]
    exact hperm.map _

/-- The children get the places of their cells. -/
theorem zoneNodes_eq_map (subnetId : Uuid) (isInfra : Bool) (shift : ℤ) (guidance : Guidance)
    (hnodup : (children.map SubnetChild.id).Nodup) :
    ∃ cellOf : SubnetChild → Cell, (∀ c ∈ children, (cellOf c, c) ∈ placedGrid guidance children) ∧
      zoneNodes guidance subnetId isInfra shift children = children.map (fun c =>
        ⟨.interfaceNode subnetId c.hostId c.interfaceId isInfra, c.id,
          ⟨(cellPosition (placedGrid guidance children) nodePadding (cellOf c)).x + shift,
            (cellPosition (placedGrid guidance children) nodePadding (cellOf c)).y⟩, c.size, c.header⟩) := by
  have hcell : ∀ c, ∃ cell, c ∈ children → (cell, c) ∈ placedGrid guidance children := fun c =>
    if hc : c ∈ children then (exists_cell guidance hc).imp (fun _ h _ => h) else ⟨(0, 0), fun h => absurd h hc⟩
  choose cellOf hcellOf using hcell
  refine ⟨cellOf, hcellOf, ?_⟩
  have hperm := zonePositions_perm guidance hnodup
  have hkeys : ((zonePositions guidance children).map Prod.fst).Nodup :=
    ((hperm.map Prod.fst).trans (ids_gridLayouts_perm guidance children)).nodup_iff.mpr hnodup
  unfold zoneNodes
  rw [← List.filterMap_eq_map]
  refine List.filterMap_congr (fun c hc => ?_)
  have hmem := hperm.mem_iff.mpr (List.mem_map_of_mem (hcellOf c hc))
  rw [lookup_of_mem hkeys hmem]
  rfl

theorem le_zoneSize (guidance : Guidance) (hnodup : (children.map SubnetChild.id).Nodup) {cell : Cell} {c : SubnetChild}
    (h : (cell, c) ∈ placedGrid guidance children) :
    let position := cellPosition (placedGrid guidance children) nodePadding cell
    position.x + c.size.x + nodePadding.x ≤ (zoneSize guidance children).x ∧
      position.y + c.size.y + nodePadding.y ≤ (zoneSize guidance children).y := by
  intro position
  have hmem : (c.id, (⟨c.size, position⟩ : NodeLayout)) ∈ zonePositions guidance children :=
    (zonePositions_perm guidance hnodup).mem_iff.mpr (List.mem_map_of_mem h)
  have hchildren : children ≠ [] := by
    rintro rfl
    exact absurd hmem List.not_mem_nil
  have hlayouts : zonePositions guidance children ≠ [] := List.ne_nil_of_mem hmem
  simp only [zoneSize, calculateContainerSizeFromLayouts, List.isEmpty_iff, hchildren, hlayouts, if_false]
  have hx := List.le_max_of_le (List.mem_map_of_mem (f := fun l : Uuid × NodeLayout =>
    Int.toNat (l.2.position.x + l.2.size.x + nodePadding.x)) hmem) le_rfl
  have hy := List.le_max_of_le (List.mem_map_of_mem (f := fun l : Uuid × NodeLayout =>
    Int.toNat (l.2.position.y + l.2.size.y + nodePadding.y)) hmem) le_rfl
  rw [bot_eq_zero] at hx hy
  dsimp only at hx hy
  exact ⟨by omega, by omega⟩

/-- The nodes of one zone of a subnet, that begins at `shift`. -/
structure Zoned (subnetId : Uuid) (children : List SubnetChild) (shift : ℤ) (size : Uxy) (nodes : List Node) : Prop where
  placed : nodes.map (fun n => (n.id, n.size)) = children.map (fun c => (c.id, c.size))
  parent : ∀ n ∈ nodes, n.parent = some subnetId
  spaced : nodes.Pairwise Spaced
  inside : ∀ n ∈ nodes, (shift + nodePadding.x ≤ n.position.x ∧ n.position.x + n.size.x + nodePadding.x ≤ shift + size.x) ∧
    nodePadding.y ≤ n.position.y ∧ n.position.y + n.size.y + nodePadding.y ≤ size.y

theorem Tiled.spaced {width height : ℕ} {grid : Grid} {children' : List SubnetChild}
    (h : Tiled width height children' grid)
    {cell cell' : Cell} {c c' : SubnetChild} (hc : (cell, c) ∈ grid) (hc' : (cell', c') ∈ grid) (hne : c ≠ c') :
    cell ≠ cell' := by
  rintro rfl
  exact hne (congrArg Prod.snd (List.inj_on_of_nodup_map h.nodup hc hc' rfl))

theorem zoned_zoneNodes (guidance : Guidance) (hnodup : (children.map SubnetChild.id).Nodup) :
    Zoned subnetId children shift (zoneSize guidance children)
      (zoneNodes guidance subnetId isInfra shift children) := by
  obtain ⟨cellOf, hcellOf, heq⟩ := zoneNodes_eq_map subnetId isInfra shift guidance hnodup
  have htiled := tiled_placedGrid guidance children
  rw [heq]
  refine ⟨by rw [List.map_map]; rfl, ?_, ?_, ?_⟩
  · intro n hn
    obtain ⟨c, -, rfl⟩ := List.mem_map.mp hn
    rfl
  · rw [List.pairwise_map]
    refine (hnodup.of_map.imp_of_mem (fun {c c'} hc hc' hne => ?_))
    have hcell := htiled.spaced (hcellOf c hc) (hcellOf c' hc') hne
    have hwidth := le_colWidth (hcellOf c hc)
    have hwidth' := le_colWidth (hcellOf c' hc')
    have hheight := le_rowHeight (hcellOf c hc)
    have hheight' := le_rowHeight (hcellOf c' hc')
    simp only [Spaced, cellPosition]
    dsimp only at hwidth hwidth' hheight hheight'
    rcases Nat.lt_trichotomy (cellOf c).1 (cellOf c').1 with hlt | hcol | hlt
    · have hoffset := offsetOf_add_le (colWidth (placedGrid guidance children)) nodePadding.x hlt
      omega
    · have hrow : (cellOf c).2 ≠ (cellOf c').2 := fun hrow => hcell (Prod.ext hcol hrow)
      rw [hcol]
      rcases Nat.lt_or_gt_of_ne hrow with hlt | hlt
      · have hoffset := offsetOf_add_le (rowHeight (placedGrid guidance children)) nodePadding.y hlt
        omega
      · have hoffset := offsetOf_add_le (rowHeight (placedGrid guidance children)) nodePadding.y hlt
        omega
    · have hoffset := offsetOf_add_le (colWidth (placedGrid guidance children)) nodePadding.x hlt
      omega
  · intro n hn
    obtain ⟨c, hc, rfl⟩ := List.mem_map.mp hn
    have hsize := le_zoneSize guidance hnodup (hcellOf c hc)
    have hx := le_offsetOf (colWidth (placedGrid guidance children)) nodePadding.x (cellOf c).1
    have hy := le_offsetOf (rowHeight (placedGrid guidance children)) nodePadding.y (cellOf c).2
    simp only [cellPosition] at hsize ⊢
    omega

theorem Zoned.append {infrastructure regular : List SubnetChild} {infraSize regularSize : Uxy}
    {infraNodes regularNodes : List Node}
    (hinfra : Zoned subnetId infrastructure 0 infraSize infraNodes)
    (hregular : Zoned subnetId regular infraSize.x regularSize regularNodes) :
    Zoned subnetId (infrastructure ++ regular) 0 ⟨regularSize.x + infraSize.x, max regularSize.y infraSize.y⟩
      (infraNodes ++ regularNodes) := by
  refine ⟨by rw [List.map_append, List.map_append, hinfra.placed, hregular.placed], ?_, ?_, ?_⟩
  · exact List.forall_mem_append.mpr ⟨hinfra.parent, hregular.parent⟩
  · refine List.pairwise_append.mpr ⟨hinfra.spaced, hregular.spaced, fun a ha b hb => Or.inl ?_⟩
    have hright := (hinfra.inside a ha).1
    have hleft := (hregular.inside b hb).1
    omega
  · refine List.forall_mem_append.mpr ⟨fun n hn => ?_, fun n hn => ?_⟩
    · have hinside := hinfra.inside n hn
      have hle := le_max_right regularSize.y infraSize.y
      push_cast
      omega
    · have hinside := hregular.inside n hn
      have hle := le_max_left regularSize.y infraSize.y
      push_cast
      omega

theorem partitionChildren_perm (ctx : TopologyContext) (subnetId : Uuid) (children : List SubnetChild) :
    ((partitionChildren ctx subnetId children).1 ++ (partitionChildren ctx subnetId children).2).Perm children := by
  unfold partitionChildren
  cases ctx.getSubnetById subnetId with
  | none => exact List.Perm.refl _
  | some subnet =>
    simp only [List.partition_eq_filter_filter]
    exact (List.filter_append_perm _ _).trans (List.mergeSort_perm _ _)

theorem dedup_length_pos {α : Type} [DecidableEq α] {l : List α} (h : l ≠ []) : 0 < l.dedup.length := by
  obtain ⟨a, ha⟩ := List.exists_mem_of_ne_nil l h
  exact List.length_pos_of_mem (List.mem_dedup.mpr ha)

theorem zonePositions_ne_nil (guidance : Guidance) (hnodup : (children.map SubnetChild.id).Nodup) (h : children ≠ []) :
    zonePositions guidance children ≠ [] := by
  intro hnil
  have hperm := ((zonePositions_perm guidance hnodup).map Prod.fst).trans (ids_gridLayouts_perm guidance children)
  rw [hnil] at hperm
  exact h (List.map_eq_nil_iff.mp hperm.nil_eq.symm)

/-- Where there is no infrastructure the other children are not moved. -/
theorem shift_eq (guidance : Guidance) {infrastructure : List SubnetChild}
    (hnodup : (infrastructure.map SubnetChild.id).Nodup) :
    (if 0 < ((zonePositions guidance infrastructure).map (fun l => l.2.position.x)).dedup.length then
      ((zoneSize guidance infrastructure).x : ℤ) else 0) = (zoneSize guidance infrastructure).x := by
  by_cases h : infrastructure = []
  · subst h
    rfl
  · exact if_pos (dedup_length_pos (mt List.map_eq_nil_iff.mp (zonePositions_ne_nil guidance hnodup h)))

theorem zoned_calculateSubnetSize (guidance : Guidance) (ctx : TopologyContext) (subnetId : Uuid)
    (hnodup : (children.map SubnetChild.id).Nodup) :
    ∃ placed, placed.Perm children ∧
      Zoned subnetId placed 0 (calculateSubnetSize guidance ctx subnetId children).1.size
        (calculateSubnetSize guidance ctx subnetId children).2 := by
  have hperm := partitionChildren_perm ctx subnetId children
  have hnodup' := (hperm.map SubnetChild.id).nodup_iff.mpr hnodup
  rw [List.map_append] at hnodup'
  have hinfra := List.Nodup.of_append_left hnodup'
  have hregular := List.Nodup.of_append_right hnodup'
  refine ⟨_, hperm, ?_⟩
  unfold calculateSubnetSize
  dsimp only
  rw [shift_eq guidance hinfra]
  exact (zoned_zoneNodes guidance hinfra).append (zoned_zoneNodes guidance hregular)

end zones

end VantageNet.Graph
