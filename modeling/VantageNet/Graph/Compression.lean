import Mathlib
import VantageNet.Graph.Tiling

/-! Its children are still apart and inside after the space between those of a column is closed up. -/

namespace VantageNet.Graph

open Inventory

section column

variable {y : ℤ} {column : List (Node × ℕ)} {e e' : Node × ℕ}

/-- The first one ends and leaves the padding before the second one begins. -/
def Above (a b : Node) : Prop := a.position.y + a.size.y + nodePadding.y ≤ b.position.y

theorem lookup_stacked (hkeys : (column.map Prod.snd).Nodup) (hstart : ∀ e ∈ column, y ≤ e.1.position.y)
    (habove : column.Pairwise (fun e e' => Above e.1 e'.1)) (he : e ∈ column) :
    ∃ y', (stacked y column).lookup e.2 = some y' ∧ y ≤ y' ∧ y' ≤ e.1.position.y := by
  induction column generalizing y with
  | nil => exact absurd he List.not_mem_nil
  | cons first rest ih =>
    rw [List.map_cons, List.nodup_cons] at hkeys
    rw [List.pairwise_cons] at habove
    have hfirst := hstart first List.mem_cons_self
    rcases List.mem_cons.mp he with rfl | he
    · exact ⟨y, by rw [stacked, List.lookup_cons_self], le_rfl, hfirst⟩
    · have hne : e.2 ≠ first.2 := fun heq => hkeys.1 (heq ▸ List.mem_map_of_mem he)
      have hstart' : ∀ e ∈ rest, y + first.1.size.y + nodePadding.y ≤ e.1.position.y := by
        intro e he
        have habove' := habove.1 e he
        unfold Above at habove'
        omega
      obtain ⟨y', hlookup, hle, hle'⟩ := ih hkeys.2 hstart' habove.2 he
      refine ⟨y', ?_, by omega, hle'⟩
      rw [stacked, List.lookup_cons, beq_false_of_ne hne]
      exact hlookup

theorem lookup_stacked_apart (hkeys : (column.map Prod.snd).Nodup) (hstart : ∀ e ∈ column, y ≤ e.1.position.y)
    (habove : column.Pairwise (fun e e' => Above e.1 e'.1)) (he : e ∈ column) (he' : e' ∈ column)
    (hne : e.2 ≠ e'.2) {z z' : ℤ}
    (hz : (stacked y column).lookup e.2 = some z) (hz' : (stacked y column).lookup e'.2 = some z') :
    z + e.1.size.y + nodePadding.y ≤ z' ∨ z' + e'.1.size.y + nodePadding.y ≤ z := by
  induction column generalizing y with
  | nil => exact absurd he List.not_mem_nil
  | cons first rest ih =>
    rw [List.map_cons, List.nodup_cons] at hkeys
    rw [List.pairwise_cons] at habove
    have hfirst := hstart first List.mem_cons_self
    have hstart' : ∀ e ∈ rest, y + first.1.size.y + nodePadding.y ≤ e.1.position.y := by
      intro e he
      have habove' := habove.1 e he
      unfold Above at habove'
      omega
    have hrest : ∀ e ∈ rest, (stacked y (first :: rest)).lookup e.2 =
        (stacked (y + first.1.size.y + nodePadding.y) rest).lookup e.2 := by
      intro e he
      have hne : e.2 ≠ first.2 := fun heq => hkeys.1 (heq ▸ List.mem_map_of_mem he)
      rw [stacked, List.lookup_cons, beq_false_of_ne hne]
    have hself : (stacked y (first :: rest)).lookup first.2 = some y := by
      rw [stacked, List.lookup_cons_self]
    rcases List.mem_cons.mp he with rfl | hmem <;> rcases List.mem_cons.mp he' with rfl | hmem'
    · exact absurd rfl hne
    · rw [hself, Option.some_inj] at hz
      rw [hrest e' hmem'] at hz'
      obtain ⟨_, hlookup, hle, -⟩ := lookup_stacked hkeys.2 hstart' habove.2 hmem'
      rw [hlookup, Option.some_inj] at hz'
      left
      omega
    · rw [hself, Option.some_inj] at hz'
      rw [hrest e hmem] at hz
      obtain ⟨_, hlookup, hle, -⟩ := lookup_stacked hkeys.2 hstart' habove.2 hmem
      rw [hlookup, Option.some_inj] at hz
      right
      omega
    · rw [hrest e hmem] at hz
      rw [hrest e' hmem'] at hz'
      exact ih hkeys.2 hstart' habove.2 hmem hmem' hz hz'

end column

section nodes

variable {nodes : List Node} {subnetId : Uuid} {size : Uxy} {shift : ℤ} {children : List SubnetChild}

/-- The interface nodes of a subnet, with their indices in the list. -/
def housed (nodes : List Node) (subnetId : Uuid) : List (Node × ℕ) := nodes.zipIdx.filter (fun e => e.1.parent = some subnetId)

theorem map_fst_filter_zipIdx (p : Node → Bool) (nodes : List Node) :
    (nodes.zipIdx.filter (fun e => p e.1)).map Prod.fst = nodes.filter p := by
  conv_rhs => rw [← List.zipIdx_map_fst 0 nodes, List.filter_map]
  rfl

theorem map_fst_housed : (housed nodes subnetId).map Prod.fst = nodes.filter (fun n => n.parent = some subnetId) :=
  map_fst_filter_zipIdx (fun n => n.parent = some subnetId) nodes

theorem nodup_housed : ((housed nodes subnetId).map Prod.snd).Nodup := by
  have hsub : ((housed nodes subnetId).map Prod.snd).Sublist (nodes.zipIdx.map Prod.snd) := List.filter_sublist.map _
  rw [List.zipIdx_map_snd] at hsub
  exact hsub.nodup List.nodup_range'

theorem pairwise_housed {R : Node → Node → Prop} (h : (nodes.filter (fun n => n.parent = some subnetId)).Pairwise R) :
    (housed nodes subnetId).Pairwise (fun e e' => R e.1 e'.1) := by
  rw [← map_fst_housed, List.pairwise_map] at h
  exact h

theorem columnOf_perm (x : ℤ) : (columnOf nodes subnetId x).Perm
    ((housed nodes subnetId).filter (fun e => e.1.position.x = x)) := by
  refine (List.mergeSort_perm _ _).trans (List.Perm.of_eq ?_)
  rw [housed, List.filter_filter]
  refine List.filter_congr (fun e _ => ?_)
  rw [Bool.and_comm]

theorem mem_columnOf {e : Node × ℕ} : e ∈ columnOf nodes subnetId e.1.position.x ↔ e ∈ housed nodes subnetId := by
  rw [(columnOf_perm _).mem_iff, List.mem_filter]
  simp

theorem nodup_columnOf (x : ℤ) : ((columnOf nodes subnetId x).map Prod.snd).Nodup :=
  ((columnOf_perm x).map Prod.snd).nodup_iff.mpr ((List.filter_sublist.map _).nodup nodup_housed)

/-- Nodes of one column come one below the other. -/
theorem pairwise_columnOf (h : (nodes.filter (fun n => n.parent = some subnetId)).Pairwise Spaced) (x : ℤ) :
    (columnOf nodes subnetId x).Pairwise (fun e e' => Above e.1 e'.1) := by
  have hspaced : (columnOf nodes subnetId x).Pairwise (fun e e' => Spaced e.1 e'.1) :=
    ((columnOf_perm x).pairwise_iff (fun h => h.symm)).mpr ((pairwise_housed h).filter _)
  have hsorted : (columnOf nodes subnetId x).Pairwise (fun e e' => e.1.position.y ≤ e'.1.position.y) :=
    pairwise_mergeSort_key (fun e : Node × ℕ => e.1.position.y) _
  refine (hspaced.and hsorted).imp_of_mem (fun {e e'} he he' hboth => ?_)
  have hx := List.of_mem_filter ((columnOf_perm x).mem_iff.mp he)
  have hx' := List.of_mem_filter ((columnOf_perm x).mem_iff.mp he')
  simp only [decide_eq_true_eq] at hx hx'
  simp only [Spaced, nodePadding] at hboth
  simp only [Above, nodePadding]
  omega

theorem minY_le {e : Node × ℕ} (he : e ∈ housed nodes subnetId) : minY nodes subnetId ≤ e.1.position.y := by
  have hmem : e.1.position.y ∈ (nodes.filter (fun n => n.parent = some subnetId)).map (fun n => n.position.y) :=
    List.mem_map_of_mem (map_fst_housed ▸ List.mem_map_of_mem he)
  unfold minY
  cases hmin : ((nodes.filter (fun n => n.parent = some subnetId)).map (fun n => n.position.y)).min? with
  | none => exact absurd (List.min?_eq_none_iff.mp hmin) (List.ne_nil_of_mem hmem)
  | some v => exact (List.min?_eq_some_iff.mp hmin).2 _ hmem

theorem le_minY {v : ℤ} {e : Node × ℕ} (he : e ∈ housed nodes subnetId)
    (h : ∀ n ∈ nodes, n.parent = some subnetId → v ≤ n.position.y) : v ≤ minY nodes subnetId := by
  have hmem : e.1.position.y ∈ (nodes.filter (fun n => n.parent = some subnetId)).map (fun n => n.position.y) :=
    List.mem_map_of_mem (map_fst_housed ▸ List.mem_map_of_mem he)
  unfold minY
  cases hmin : ((nodes.filter (fun n => n.parent = some subnetId)).map (fun n => n.position.y)).min? with
  | none => exact absurd (List.min?_eq_none_iff.mp hmin) (List.ne_nil_of_mem hmem)
  | some v =>
    obtain ⟨n, hn, rfl⟩ := List.mem_map.mp (List.min?_eq_some_iff.mp hmin).1
    exact h n (List.mem_of_mem_filter hn) (by simpa using List.of_mem_filter hn)

theorem parent_restacked (n : Node) (i : ℕ) : (restacked nodes n i).parent = n.parent := by
  unfold restacked
  split
  · split <;> rfl
  · rfl

theorem restacked_eq {n : Node} {i : ℕ} (hn : n.parent = some subnetId) {y : ℤ}
    (hy : (stacked (minY nodes subnetId) (columnOf nodes subnetId n.position.x)).lookup i = some y) :
    restacked nodes n i = { n with position := ⟨n.position.x, y⟩ } := by
  simp only [restacked, hn, hy]

theorem filter_compressVerticalSpacing : (compressVerticalSpacing nodes).filter (fun n => n.parent = some subnetId) =
    (housed nodes subnetId).map (fun e => restacked nodes e.1 e.2) := by
  rw [compressVerticalSpacing, List.mapIdx_eq_zipIdx_map, List.filter_map]
  refine congrArg (List.map _) (List.filter_congr (fun e _ => ?_))
  rw [Function.comp_apply, parent_restacked]

/-- Subnets are not moved. -/
theorem filter_isSubnet_compressVerticalSpacing (nodes : List Node) :
    (compressVerticalSpacing nodes).filter Node.isSubnet = nodes.filter Node.isSubnet := by
  have hsubnet : ∀ (n : Node) (i : ℕ), (restacked nodes n i).isSubnet = n.isSubnet := by
    intro n i
    unfold restacked
    split
    · split <;> rfl
    · rfl
  rw [compressVerticalSpacing, List.mapIdx_eq_zipIdx_map, List.filter_map, ← map_fst_filter_zipIdx Node.isSubnet nodes]
  have hfilter : (Node.isSubnet ∘ fun e : Node × ℕ => restacked nodes e.1 e.2) = fun e => e.1.isSubnet :=
    funext (fun e => hsubnet e.1 e.2)
  rw [hfilter]
  refine List.map_congr_left (fun e he => ?_)
  have hnone := Node.isSubnet_iff.mp (List.mem_filter.mp he).2
  simp only [restacked, hnone]

theorem Zoned.compressVerticalSpacing
    (h : Zoned subnetId children shift size (nodes.filter (fun n => n.parent = some subnetId))) :
    Zoned subnetId children shift size ((compressVerticalSpacing nodes).filter (fun n => n.parent = some subnetId)) := by
  have hlookup : ∀ e ∈ housed nodes subnetId, ∃ y,
      (stacked (minY nodes subnetId) (columnOf nodes subnetId e.1.position.x)).lookup e.2 = some y ∧
        minY nodes subnetId ≤ y ∧ y ≤ e.1.position.y := fun e he =>
    lookup_stacked (nodup_columnOf _)
      (fun e' he' => minY_le (List.mem_of_mem_filter ((columnOf_perm _).mem_iff.mp he')))
      (pairwise_columnOf h.spaced _) (mem_columnOf.mpr he)
  have hparent : ∀ e ∈ housed nodes subnetId, e.1.parent = some subnetId :=
    fun e he => by simpa using List.of_mem_filter he
  have hmoved : (housed nodes subnetId).map (fun e => restacked nodes e.1 e.2) = (housed nodes subnetId).map (fun e =>
      { e.1 with position := ⟨e.1.position.x,
        ((stacked (minY nodes subnetId) (columnOf nodes subnetId e.1.position.x)).lookup e.2).getD 0⟩ }) := by
    refine List.map_congr_left (fun e he => ?_)
    obtain ⟨y, hy, -, -⟩ := hlookup e he
    rw [restacked_eq (hparent e he) hy, hy]
    rfl
  rw [filter_compressVerticalSpacing, hmoved]
  refine ⟨?_, ?_, ?_, ?_⟩
  · rw [← h.placed, ← map_fst_housed, List.map_map, List.map_map]
    rfl
  · intro n hn
    obtain ⟨e, he, rfl⟩ := List.mem_map.mp hn
    exact hparent e he
  · rw [List.pairwise_map]
    refine ((pairwise_housed h.spaced).and (List.pairwise_map.mp nodup_housed)).imp_of_mem (fun {e e'} he he' hboth => ?_)
    obtain ⟨y, hy, -, -⟩ := hlookup e he
    obtain ⟨y', hy', -, -⟩ := hlookup e' he'
    simp only [Spaced, hy, hy', Option.getD_some]
    rcases hboth.1 with hleft | hright | ⟨hx, -⟩
    · exact Or.inl hleft
    · exact Or.inr (Or.inl hright)
    · refine Or.inr (Or.inr ⟨hx, ?_⟩)
      rw [hx] at hy
      exact lookup_stacked_apart (nodup_columnOf _)
        (fun e' he' => minY_le (List.mem_of_mem_filter ((columnOf_perm _).mem_iff.mp he')))
        (pairwise_columnOf h.spaced _) (hx ▸ mem_columnOf.mpr he) (mem_columnOf.mpr he') hboth.2 hy hy'
  · intro n hn
    obtain ⟨e, he, rfl⟩ := List.mem_map.mp hn
    obtain ⟨y, hy, hle, hle'⟩ := hlookup e he
    have hinside := h.inside e.1 (map_fst_housed ▸ List.mem_map_of_mem he)
    have hmin : (nodePadding.y : ℤ) ≤ minY nodes subnetId := by
      refine le_minY he (fun n hn hparent => (h.inside n ?_).2.1)
      exact List.mem_filter.mpr ⟨hn, by simpa using hparent⟩
    simp only [hy, Option.getD_some]
    omega

end nodes

section housed

variable {subnetId : Uuid} {children placed : List SubnetChild} {size : Uxy} {nodes : List Node}

/-- There is one interface node for each child, of its size. They do not touch each other and are within the subnet. -/
structure Housed (subnetId : Uuid) (children : List SubnetChild) (size : Uxy) (nodes : List Node) : Prop where
  placed : (nodes.map (fun n => (n.id, n.size))).Perm (children.map (fun c => (c.id, c.size)))
  parent : ∀ n ∈ nodes, n.parent = some subnetId
  disjoint : nodes.Pairwise (fun a b => Disjoint a.area b.area)
  inside : ∀ n ∈ nodes, n.area ⊆ Set.Icc (0, 0) ((size.x : ℤ), (size.y : ℤ))

theorem Zoned.housed (h : Zoned subnetId placed 0 size nodes) (hperm : placed.Perm children) :
    Housed subnetId children size nodes := by
  refine ⟨h.placed ▸ hperm.map _, h.parent, h.spaced.imp (fun h => h.disjoint), fun n hn => ?_⟩
  rintro ⟨x, y⟩ ⟨⟨hx, hy⟩, hx', hy'⟩
  have hinside := h.inside n hn
  simp only [nodePadding] at hinside
  dsimp only at hx hy hx' hy'
  exact ⟨⟨by dsimp only; omega, by dsimp only; omega⟩, by dsimp only; omega, by dsimp only; omega⟩

/-- Every child of a subnet is placed once and inside of it, also after the columns of a list with its nodes are closed up. -/
theorem subnet_children_are_housed (guidance : Guidance) (ctx : TopologyContext) (subnetId : Uuid)
    (children : List SubnetChild)
    (hids : (children.map SubnetChild.id).Nodup) :
    let placement := calculateSubnetSize guidance ctx subnetId children
    Housed subnetId children placement.1.size placement.2 ∧
      ∀ all : List Node, all.filter (fun n => n.parent = some subnetId) = placement.2 →
        Housed subnetId children placement.1.size ((compressVerticalSpacing all).filter (fun n => n.parent = some subnetId)) := by
  intro placement
  obtain ⟨placed, hperm, hzoned⟩ := zoned_calculateSubnetSize guidance ctx subnetId hids
  refine ⟨hzoned.housed hperm, fun all hall => ?_⟩
  rw [← hall] at hzoned
  exact hzoned.compressVerticalSpacing.housed hperm

/-- Two children, of different heights. -/
def twoChildren : List SubnetChild := [⟨1, none, 7, some 1, ⟨250, 75⟩, []⟩, ⟨2, some "printer", 8, some 2, ⟨250, 125⟩, []⟩]

def unguided : Guidance := ⟨fun _ _ => ⟨0, 0⟩, fun _ _ => (0, 0), fun _ _ _ _ => none⟩

def emptyContext : TopologyContext := ⟨[], [], [], [], [], .default, fun _ => .unknown⟩

theorem two_children_are_housed :
    let placement := calculateSubnetSize unguided emptyContext 3 twoChildren
    Housed 3 twoChildren placement.1.size placement.2 ∧
      ∀ all : List Node, all.filter (fun n => n.parent = some 3) = placement.2 →
        Housed 3 twoChildren placement.1.size ((compressVerticalSpacing all).filter (fun n => n.parent = some 3)) :=
  subnet_children_are_housed unguided emptyContext 3 twoChildren (by decide)

end housed

end VantageNet.Graph
