import VantageNet.Graph.Planner

/-!
The rows of subnets are moved to and fro: `topology/service/optimizer/subnet_positioner.rs`. Positions are integers, and what is
computed from them in floating point is proposed.
-/

namespace VantageNet.Graph

open Inventory

namespace SubnetPositioner

variable (ctx : TopologyContext)

/-- `(value / 25).round() * 25`. No multiple of 25 is as near as another one. -/
def snapToGrid (value : ℤ) : ℤ := (value + 12) / 25 * 25

def padding : ℤ := 125

/-- `nodes.iter_mut().find(..)`, and its `x` is set. -/
def setX (id : Uuid) (x : ℤ) : List Node → List Node
  | [] => []
  | n :: rest => if n.id = id then { n with position := ⟨x, n.position.y⟩ } :: rest else n :: setX id x rest

def find (nodes : List Node) (id : Uuid) : Option Node := nodes.find? (fun n => n.id = id)

def subnetIds (nodes : List Node) : List Uuid := (nodes.filter Node.isSubnet).map Node.id

def groupSubnetsByLayer (nodes : List Node) (ids : List Uuid) : List (List Uuid) :=
  (grouped Prod.fst (ids.filterMap (fun id => (find nodes id).map (fun n => (n.position.y, id))))).map (fun layer =>
    layer.map Prod.snd)

section constraint

def overlapsAt (width : ℕ) (others : List Node) (x : ℤ) : Bool :=
  others.any (fun other => x < other.position.x + other.size.x + padding && other.position.x < x + width + padding)

/-- The first one of the nearest. -/
def closest (proposed : ℤ) (candidates : List ℤ) : Option ℤ :=
  candidates.foldl (fun best candidate =>
    match best with
    | some x => if (proposed - candidate).natAbs < (proposed - x).natAbs then some candidate else some x
    | none => some candidate) none

/-- Where a subnet in a row goes that should go to `proposed`. Those that have been moved are where they were moved to. -/
def applyNonOverlapConstraint (nodes : List Node) (subnetId : Uuid) (proposed : ℤ) : ℤ :=
  match find nodes subnetId with
  | none => proposed
  | some current =>
    let others := (nodes.filter (fun n => n.isSubnet && n.id ≠ subnetId && n.position.y = current.position.y)).mergeSort
      (fun a b => a.position.x ≤ b.position.x)
    if overlapsAt current.size.x others proposed then
      let candidates := others.map (fun other => other.position.x - current.size.x - padding) ++
        others.map (fun other => other.position.x + other.size.x + padding)
      (closest proposed (candidates.filter (fun x => !overlapsAt current.size.x others x))).getD proposed
    else proposed

/-- `barycenter` is the position that `calculate_barycenter_position` proposes. -/
def optimizeLayer (barycenter : List Node → Uuid → ℤ) (layer : List Uuid) (nodes : List Node) : List Node :=
  layer.foldl (fun nodes subnetId => setX subnetId (applyNonOverlapConstraint nodes subnetId (barycenter nodes subnetId)) nodes) nodes

end constraint

section sweeps

/-- The proposed positions in a sweep, down or up, for a layer. -/
abbrev Proposals := Bool → ℕ → List Node → Uuid → ℤ

/-- Down over the layers but the first, then up over the layers but the last. -/
def sweep (proposals : Proposals) (layers : List (List Uuid)) (nodes : List Node) : List Node :=
  let down := (layers.zipIdx.tail).foldl (fun nodes (layer, i) => optimizeLayer (proposals true i) layer nodes) nodes
  (layers.zipIdx.dropLast.reverse).foldl (fun nodes (layer, i) => optimizeLayer (proposals false i) layer nodes) down

def snapped (ids : List Uuid) (nodes : List Node) : List Node :=
  ids.foldl (fun nodes id =>
    match find nodes id with
    | some n => setX id (snapToGrid n.position.x) nodes
    | none => nodes) nodes

/-- One element of `sweeps` for each iteration. -/
def optimizePositions (sweeps : List Proposals) (nodes : List Node) : List Node :=
  let ids := subnetIds nodes
  let layers := groupSubnetsByLayer nodes ids
  snapped ids (sweeps.foldl (fun nodes proposals => sweep proposals layers nodes) nodes)

end sweeps

section compression

structure SubnetInfo where
  id : Uuid
  x : ℤ
  width : ℕ
  isLocked : Bool
  deriving DecidableEq

def findLockedSubnets (nodes : List Node) (edges : List Edge) : List Uuid :=
  (edges.filter (fun e => !(ctx.edgeIsIntraSubnet e || e.isMultiHop) &&
    !(e.sourceHandle.isHorizontal && e.targetHandle.isHorizontal))).flatMap (fun e =>
      (TopologyContext.getNodeSubnet e.source nodes).toList ++ (TopologyContext.getNodeSubnet e.target nodes).toList)

/-- One after the other from `x` on. -/
def packed (x : ℤ) : List SubnetInfo → List SubnetInfo
  | [] => []
  | i :: rest => { i with x := x } :: packed (x + i.width + padding) rest

/-- Those are moved that are farther to the right than they need to be. -/
def pulled (x : ℤ) : List SubnetInfo → List SubnetInfo
  | [] => []
  | i :: rest => { i with x := min x i.x } :: pulled (min x i.x + i.width + padding) rest

/-- The unlocked subnets go where `moved` has them, unless the last one gets too near to the locked one on their right. -/
def unlessTooNear (right : SubnetInfo) (unlocked moved : List SubnetInfo) : List SubnetInfo :=
  match moved.getLast? with
  | some last => if right.x < last.x + last.width + padding then unlocked else moved
  | none => moved

/-- The unlocked subnets between two locked ones, or before the first, or after the last. -/
def compressSegment (left right : Option SubnetInfo) (unlocked : List SubnetInfo) : List SubnetInfo :=
  match left, right, unlocked with
  | some left, some right, unlocked => unlessTooNear right unlocked (pulled (left.x + left.width + padding) unlocked)
  | some left, none, unlocked => pulled (left.x + left.width + padding) unlocked
  | none, some right, first :: rest => unlessTooNear right (first :: rest) (packed first.x (first :: rest))
  | none, none, first :: rest => packed first.x (first :: rest)
  | none, _, [] => []

/-- Segment after segment; `unlocked` is the segment so far, and the locked ones stay. -/
def compressTowardLocked (left : Option SubnetInfo) (unlocked : List SubnetInfo) : List SubnetInfo → List SubnetInfo
  | [] => compressSegment left none unlocked
  | i :: rest =>
    if i.isLocked then compressSegment left (some i) unlocked ++ i :: compressTowardLocked (some i) [] rest
    else compressTowardLocked left (unlocked ++ [i]) rest

def compressTowardLeft : List SubnetInfo → List SubnetInfo
  | [] => []
  | first :: rest => packed first.x (first :: rest)

/-- A layer from left to right. -/
def subnetInfo (locked layer : List Uuid) (nodes : List Node) : List SubnetInfo :=
  (layer.filterMap (fun id => (find nodes id).map (fun n => (⟨id, n.position.x, n.size.x, locked.contains id⟩ : SubnetInfo)))).mergeSort
    (fun a b => a.x ≤ b.x)

def compressedLayer (info : List SubnetInfo) : List SubnetInfo :=
  if info.any SubnetInfo.isLocked then compressTowardLocked none [] info else compressTowardLeft info

def compressLayer (locked : List Uuid) (nodes : List Node) (layer : List Uuid) : List Node :=
  if layer.length < 2 then nodes
  else (compressedLayer (subnetInfo locked layer nodes)).foldl (fun nodes i => setX i.id i.x nodes) nodes

def compressHorizontalSpacing (nodes : List Node) (edges : List Edge) : List Node :=
  let layers := groupSubnetsByLayer nodes (subnetIds nodes)
  (layers.foldl (compressLayer (findLockedSubnets ctx nodes edges)) nodes).map (fun n =>
    if n.isSubnet then { n with position := ⟨snapToGrid n.position.x, n.position.y⟩ } else n)

end compression

end SubnetPositioner

end VantageNet.Graph
