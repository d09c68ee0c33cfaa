import VantageNet.Geometry.Segments
import VantageNet.Graph.Placement
import Mathlib.Data.Real.Basic

/-!
Which edges of a topology cross: `topology/service/optimizer/utils.rs`. Coordinates are exact integers, and what is computed
from them as well.
-/

namespace VantageNet.Graph

open Inventory Geometry

namespace OptimizerUtils

section segments

def epsilon : ℚ := 1 / 2 ^ 52

def direction (x₁ y₁ x₂ y₂ x₃ y₃ : ℤ) : ℤ := (x₃ - x₁) * (y₂ - y₁) - (y₃ - y₁) * (x₂ - x₁)

def onSegment (x₁ y₁ x₂ y₂ x y : ℤ) : Bool := x ≤ max x₁ x₂ && min x₁ x₂ ≤ x && y ≤ max y₁ y₂ && min y₁ y₂ ≤ y

/-- `d.abs() < f64::EPSILON`. -/
def isZero (d : ℤ) : Bool := decide (|(d : ℚ)| < epsilon)

def segmentsIntersect (p₁ p₂ p₃ p₄ : Ixy) : Bool :=
  let d₁ := direction p₃.x p₃.y p₄.x p₄.y p₁.x p₁.y
  let d₂ := direction p₃.x p₃.y p₄.x p₄.y p₂.x p₂.y
  let d₃ := direction p₁.x p₁.y p₂.x p₂.y p₃.x p₃.y
  let d₄ := direction p₁.x p₁.y p₂.x p₂.y p₄.x p₄.y
  if ((0 < d₁ && d₂ < 0) || (d₁ < 0 && 0 < d₂)) && ((0 < d₃ && d₄ < 0) || (d₃ < 0 && 0 < d₄)) then true
  else if isZero d₁ && onSegment p₃.x p₃.y p₄.x p₄.y p₁.x p₁.y then true
  else if isZero d₂ && onSegment p₃.x p₃.y p₄.x p₄.y p₂.x p₂.y then true
  else if isZero d₃ && onSegment p₁.x p₁.y p₂.x p₂.y p₃.x p₃.y then true
  else if isZero d₄ && onSegment p₁.x p₁.y p₂.x p₂.y p₄.x p₄.y then true
  else false

end segments

section crossings

def buildSubnetPositionsMap (nodes : List Node) : List (Uuid × Ixy) :=
  hashed ((nodes.filter Node.isSubnet).map (fun n => (n.id, n.position)))

def buildNodeMap (nodes : List Node) : List (Uuid × Node) := hashed (nodes.map (fun n => (n.id, n)))

/-- The center of a node, with the place of its subnet added. -/
def getAbsoluteNodeCenter (node : Node) (subnetPositions : List (Uuid × Ixy)) : Ixy :=
  let center : Ixy := ⟨node.position.x + node.size.x / 2, node.position.y + node.size.y / 2⟩
  match node.parent.bind (fun subnetId => subnetPositions.lookup subnetId) with
  | some position => ⟨center.x + position.x, center.y + position.y⟩
  | none => center

def edgesCross (edge₁ edge₂ : Edge) (nodeMap : List (Uuid × Node)) (subnetPositions : List (Uuid × Ixy)) : Bool :=
  if edge₁.source = edge₂.source || edge₁.source = edge₂.target || edge₁.target = edge₂.source ||
      edge₁.target = edge₂.target || edge₁.isMultiHop || edge₂.isMultiHop then false
  else
    match nodeMap.lookup edge₁.source, nodeMap.lookup edge₁.target, nodeMap.lookup edge₂.source, nodeMap.lookup edge₂.target with
    | some source₁, some target₁, some source₂, some target₂ =>
      segmentsIntersect (getAbsoluteNodeCenter source₁ subnetPositions) (getAbsoluteNodeCenter target₁ subnetPositions)
        (getAbsoluteNodeCenter source₂ subnetPositions) (getAbsoluteNodeCenter target₂ subnetPositions)
    | _, _, _, _ => false

/-- For how many pairs of elements `r` holds, an earlier one and a later one. -/
def countPairs {α : Type} (r : α → α → Bool) : List α → ℕ
  | [] => 0
  | a :: rest => (rest.filter (r a)).length + countPairs r rest

def countEdgeCrossings (nodes : List Node) (edges : List Edge) : ℕ :=
  countPairs (fun edge₁ edge₂ => edgesCross edge₁ edge₂ (buildNodeMap nodes) (buildSubnetPositionsMap nodes)) edges

end crossings

section geometry

def toPlane (p : Ixy) : ℝ × ℝ := (p.x, p.y)

theorem cross_toPlane (p q r : Ixy) : cross (toPlane p) (toPlane q) (toPlane r) = (direction p.x p.y q.x q.y r.x r.y : ℤ) := by
  simp only [cross, toPlane, direction]
  push_cast
  ring

theorem isZero_iff {d : ℤ} : isZero d = true ↔ d = 0 := by
  rw [isZero, decide_eq_true_iff, epsilon]
  constructor
  · intro h
    by_contra hne
    have hone : (1 : ℚ) ≤ |(d : ℚ)| := by exact_mod_cast Int.one_le_abs hne
    norm_num at h
    linarith
  · rintro rfl
    norm_num

theorem onSegment_iff {p q r : Ixy} :
    onSegment p.x p.y q.x q.y r.x r.y = true ↔ InBox (toPlane p) (toPlane q) (toPlane r) := by
  simp only [onSegment, InBox, toPlane, Bool.and_eq_true, decide_eq_true_iff, and_assoc]
  norm_cast

theorem touches_iff {p q r : Ixy} :
    (isZero (direction p.x p.y q.x q.y r.x r.y) && onSegment p.x p.y q.x q.y r.x r.y) = true ↔
      toPlane r ∈ segment ℝ (toPlane p) (toPlane q) := by
  rw [Bool.and_eq_true, isZero_iff, onSegment_iff, mem_segment_iff, cross_toPlane, Int.cast_eq_zero]

theorem opposite_iff {p q r s : Ixy} :
    ((0 < direction p.x p.y q.x q.y r.x r.y && direction p.x p.y q.x q.y s.x s.y < 0) ||
      (direction p.x p.y q.x q.y r.x r.y < 0 && 0 < direction p.x p.y q.x q.y s.x s.y)) = true ↔
      Geometry.Opposite (cross (toPlane p) (toPlane q) (toPlane r)) (cross (toPlane p) (toPlane q) (toPlane s)) := by
  simp only [Geometry.Opposite, cross_toPlane, Int.cast_pos, Int.cast_lt_zero, Bool.or_eq_true, Bool.and_eq_true, decide_eq_true_iff]

/-- The test finds out whether two closed segments have a point in common. -/
theorem segmentsIntersect_iff (p₁ p₂ p₃ p₄ : Ixy) : segmentsIntersect p₁ p₂ p₃ p₄ = true ↔
    (segment ℝ (toPlane p₁) (toPlane p₂) ∩ segment ℝ (toPlane p₃) (toPlane p₄)).Nonempty := by
  rw [segments_meet_iff, ← opposite_iff, ← opposite_iff, ← touches_iff, ← touches_iff, ← touches_iff, ← touches_iff]
  simp only [segmentsIntersect, Bool.if_true_left, Bool.or_eq_true, decide_eq_true_iff, Bool.and_eq_true, Bool.false_eq_true,
    or_false]

theorem segmentsIntersect_comm (p₁ p₂ p₃ p₄ : Ixy) : segmentsIntersect p₁ p₂ p₃ p₄ = segmentsIntersect p₃ p₄ p₁ p₂ := by
  rw [Bool.eq_iff_iff, segmentsIntersect_iff, segmentsIntersect_iff, Set.inter_comm]

theorem segmentsIntersect_swap (p₁ p₂ p₃ p₄ : Ixy) : segmentsIntersect p₂ p₁ p₃ p₄ = segmentsIntersect p₁ p₂ p₃ p₄ := by
  rw [Bool.eq_iff_iff, segmentsIntersect_iff, segmentsIntersect_iff, segment_symm]

end geometry

section edges

variable (nodeMap : List (Uuid × Node)) (subnetPositions : List (Uuid × Ixy))

/-- An edge with its ends exchanged. -/
def swapped (e : Edge) : Edge := { e with source := e.target, target := e.source }

/-- Edges with a common end do not cross. -/
def Apart (edge₁ edge₂ : Edge) : Prop :=
  edge₁.source ≠ edge₂.source ∧ edge₁.source ≠ edge₂.target ∧ edge₁.target ≠ edge₂.source ∧ edge₁.target ≠ edge₂.target

/-- An edge is drawn between two places. -/
def Drawn (e : Edge) (p q : Ixy) : Prop :=
  e.isMultiHop = false ∧ (∃ source, nodeMap.lookup e.source = some source ∧ getAbsoluteNodeCenter source subnetPositions = p) ∧
    ∃ target, nodeMap.lookup e.target = some target ∧ getAbsoluteNodeCenter target subnetPositions = q

variable {nodeMap subnetPositions}

theorem edgesCross_iff {edge₁ edge₂ : Edge} : edgesCross edge₁ edge₂ nodeMap subnetPositions = true ↔
    Apart edge₁ edge₂ ∧ ∃ p₁ p₂ p₃ p₄, Drawn nodeMap subnetPositions edge₁ p₁ p₂ ∧ Drawn nodeMap subnetPositions edge₂ p₃ p₄ ∧
      segmentsIntersect p₁ p₂ p₃ p₄ = true := by
  constructor
  · intro h
    rw [edgesCross] at h
    split_ifs at h with hshared
    simp only [Bool.or_eq_true, decide_eq_true_iff, not_or, Bool.not_eq_true] at hshared
    obtain ⟨⟨⟨⟨⟨h₁, h₂⟩, h₃⟩, h₄⟩, hsingle₁⟩, hsingle₂⟩ := hshared
    split at h
    · rename_i source₁ target₁ source₂ target₂ hsource₁ htarget₁ hsource₂ htarget₂
      exact ⟨⟨h₁, h₂, h₃, h₄⟩, _, _, _, _, ⟨hsingle₁, ⟨source₁, hsource₁, rfl⟩, target₁, htarget₁, rfl⟩,
        ⟨hsingle₂, ⟨source₂, hsource₂, rfl⟩, target₂, htarget₂, rfl⟩, h⟩
    · exact absurd h nofun
  · rintro ⟨⟨h₁, h₂, h₃, h₄⟩, _, _, _, _, ⟨hsingle₁, ⟨source₁, hsource₁, rfl⟩, target₁, htarget₁, rfl⟩,
      ⟨hsingle₂, ⟨source₂, hsource₂, rfl⟩, target₂, htarget₂, rfl⟩, h⟩
    simp only [edgesCross, h₁, h₂, h₃, h₄, hsingle₁, hsingle₂, decide_false, Bool.or_self, Bool.false_eq_true, if_false,
      hsource₁, htarget₁, hsource₂, htarget₂, h]

theorem Apart.symm {edge₁ edge₂ : Edge} (h : Apart edge₁ edge₂) : Apart edge₂ edge₁ :=
  ⟨h.1.symm, h.2.2.1.symm, h.2.1.symm, h.2.2.2.symm⟩

theorem Apart.swapped {edge₁ edge₂ : Edge} (h : Apart edge₁ edge₂) : Apart (swapped edge₁) edge₂ :=
  ⟨h.2.2.1, h.2.2.2, h.1, h.2.1⟩

theorem Drawn.swapped {e : Edge} {p q : Ixy} (h : Drawn nodeMap subnetPositions e p q) :
    Drawn nodeMap subnetPositions (swapped e) q p := ⟨h.1, h.2.2, h.2.1⟩

theorem edgesCross_comm (edge₁ edge₂ : Edge) :
    edgesCross edge₁ edge₂ nodeMap subnetPositions = edgesCross edge₂ edge₁ nodeMap subnetPositions := by
  have h {a b : Edge} (h : edgesCross a b nodeMap subnetPositions = true) : edgesCross b a nodeMap subnetPositions = true := by
    obtain ⟨hapart, p₁, p₂, p₃, p₄, ha, hb, hmeet⟩ := edgesCross_iff.mp h
    exact edgesCross_iff.mpr ⟨hapart.symm, p₃, p₄, p₁, p₂, hb, ha, segmentsIntersect_comm p₁ p₂ p₃ p₄ ▸ hmeet⟩
  exact Bool.eq_iff_iff.mpr ⟨h, h⟩

theorem edgesCross_swapped (edge₁ edge₂ : Edge) :
    edgesCross (swapped edge₁) edge₂ nodeMap subnetPositions = edgesCross edge₁ edge₂ nodeMap subnetPositions := by
  have h {a : Edge} (h : edgesCross a edge₂ nodeMap subnetPositions = true) :
      edgesCross (swapped a) edge₂ nodeMap subnetPositions = true := by
    obtain ⟨hapart, p₁, p₂, p₃, p₄, ha, hb, hmeet⟩ := edgesCross_iff.mp h
    exact edgesCross_iff.mpr ⟨hapart.swapped, p₂, p₁, p₃, p₄, ha.swapped, hb, segmentsIntersect_swap p₁ p₂ p₃ p₄ ▸ hmeet⟩
  exact Bool.eq_iff_iff.mpr ⟨fun hcross => h hcross, h⟩

end edges

section pairs

variable {α : Type} {r : α → α → Bool}

/-- The order of the elements does not matter to a symmetric relation. -/
theorem countPairs_perm (hsymm : ∀ a b, r a b = r b a) {l l' : List α} (h : l.Perm l') : countPairs r l = countPairs r l' := by
  induction h with
  | nil => rfl
  | cons a hperm ih => rw [countPairs, countPairs, ih, (hperm.filter (r a)).length_eq]
  | swap a b l =>
    simp only [countPairs, List.filter_cons, hsymm a b]
    split
    · rw [List.length_cons, List.length_cons]
      omega
    · omega
  | trans _ _ ih₁ ih₂ => exact ih₁.trans ih₂

theorem countEdgeCrossings_perm (nodes : List Node) {edges edges' : List Edge} (h : edges.Perm edges') :
    countEdgeCrossings nodes edges = countEdgeCrossings nodes edges' := countPairs_perm edgesCross_comm h

end pairs

/-- The test of two segments is exact. So it does not matter in which order two edges are taken, nor where each of them begins,
nor how the edges are ordered. -/
theorem crossing_test_exact :
    (∀ p₁ p₂ p₃ p₄, segmentsIntersect p₁ p₂ p₃ p₄ = true ↔
      (segment ℝ (toPlane p₁) (toPlane p₂) ∩ segment ℝ (toPlane p₃) (toPlane p₄)).Nonempty) ∧
    (∀ edge₁ edge₂ nodeMap subnetPositions,
      edgesCross edge₁ edge₂ nodeMap subnetPositions = edgesCross edge₂ edge₁ nodeMap subnetPositions ∧
      edgesCross (swapped edge₁) edge₂ nodeMap subnetPositions = edgesCross edge₁ edge₂ nodeMap subnetPositions ∧
      edgesCross edge₁ (swapped edge₂) nodeMap subnetPositions = edgesCross edge₁ edge₂ nodeMap subnetPositions) ∧
    ∀ nodes (edges edges' : List Edge), edges.Perm edges' → countEdgeCrossings nodes edges = countEdgeCrossings nodes edges' := by
  refine ⟨segmentsIntersect_iff, fun edge₁ edge₂ nodeMap subnetPositions => ⟨edgesCross_comm _ _, edgesCross_swapped _ _, ?_⟩,
    fun nodes edges edges' h => countEdgeCrossings_perm nodes h⟩
  rw [edgesCross_comm, edgesCross_swapped, edgesCross_comm]

/-- Four subnets at the corners of a square. -/
def corners : List Node := [(1, 0, 0), (2, 500, 500), (3, 0, 500), (4, 500, 0)].map (fun (id, x, y) =>
  ⟨.subnetNode 0, id, ⟨x, y⟩, ⟨0, 0⟩, none⟩)

def diagonal (source target : Uuid) : Edge := ⟨0, source, target, .interface 0, none, .bottom, .top, false⟩

theorem crossing_test_exact_diagonals : countEdgeCrossings corners [diagonal 1 2, diagonal 3 4] = 1 ∧
    countEdgeCrossings corners [diagonal 1 2, diagonal 3 4] = countEdgeCrossings corners [diagonal 3 4, diagonal 1 2] :=
  ⟨by decide, crossing_test_exact.2.2 corners _ _ (.swap _ _ [])⟩

end OptimizerUtils

end VantageNet.Graph
