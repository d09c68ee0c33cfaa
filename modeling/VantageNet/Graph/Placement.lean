import VantageNet.Graph.Edges

/-!
The children of a subnet in its grid: `topology/service/planner/child_planner.rs`, `topology/service/planner/utils.rs`,
`calculate_subnet_size` of `topology/service/planner/subnet_layout_planner.rs` and `compress_vertical_spacing` of
`topology/service/optimizer/child_positioner.rs`.
-/

namespace VantageNet.Graph

open Inventory
open Subnets (Subnet SubnetType)

def nodePadding : Uxy := ⟨50, 50⟩

def subnetPadding : Uxy := ⟨125, 125⟩

/-- What is computed in floating point or written above a child: the force on each of some children, the cell of their grid
that it points to, and the text. -/
structure Guidance where
  force : List SubnetChild → SubnetChild → Ixy
  idealCell : List SubnetChild → SubnetChild → ℤ × ℤ
  headerText : TopologyContext → Interface → Host → SubnetType → Option String

/-- What a hash map holds after these insertions. Where it is used its order does not matter. -/
def hashed {β : Type} : List (Uuid × β) → List (Uuid × β)
  | [] => []
  | x :: xs => if xs.any (fun y => y.1 = x.1) then hashed xs else x :: hashed xs

section entries

variable {α β : Type}

theorem hashed_sublist (l : List (Uuid × β)) : (hashed l).Sublist l := by
  induction l with
  | nil => exact List.Sublist.slnil
  | cons x l ih =>
    rw [hashed]
    split
    · exact ih.cons x
    · exact ih.cons_cons x

theorem mem_keys_hashed {l : List (Uuid × β)} {k : Uuid} :
    k ∈ (hashed l).map Prod.fst ↔ k ∈ l.map Prod.fst := by
  induction l with
  | nil => rfl
  | cons x l ih =>
    rw [hashed]
    split
    · rename_i hany
      obtain ⟨y, hy, hkey⟩ := List.any_eq_true.mp hany
      have hmem : x.1 ∈ l.map Prod.fst := of_decide_eq_true hkey ▸ List.mem_map_of_mem hy
      rw [ih, List.map_cons, List.mem_cons]
      exact ⟨Or.inr, fun h => h.elim (fun heq => heq ▸ hmem) id⟩
    · rw [List.map_cons, List.map_cons, List.mem_cons, List.mem_cons, ih]

theorem hashed_eq_self {l : List (Uuid × β)} (h : (l.map Prod.fst).Nodup) : hashed l = l := by
  induction l with
  | nil => rfl
  | cons x l ih =>
    rw [List.map_cons, List.nodup_cons] at h
    have hnone : l.any (fun y => y.1 = x.1) = false := by
      rw [List.any_eq_false]
      intro y hy heq
      exact h.1 (of_decide_eq_true heq ▸ List.mem_map_of_mem hy)
    rw [hashed, hnone, ih h.2]
    rfl

variable [DecidableEq α] {l : List (α × β)}

theorem mem_of_lookup {a : α} {b : β} (h : l.lookup a = some b) : (a, b) ∈ l := by
  obtain ⟨before, after, rfl, -⟩ := List.lookup_eq_some_iff.mp h
  exact List.mem_append_right _ List.mem_cons_self

theorem exists_lookup {k : α} (h : k ∈ l.map Prod.fst) : ∃ b, l.lookup k = some b := by
  cases hlookup : l.lookup k with
  | some b => exact ⟨b, rfl⟩
  | none =>
    obtain ⟨x, hx, rfl⟩ := List.mem_map.mp h
    have hne := List.lookup_eq_none_iff.mp hlookup x hx
    simp at hne

theorem lookup_of_mem (h : (l.map Prod.fst).Nodup) {x : α × β} (hx : x ∈ l) : l.lookup x.1 = some x.2 := by
  induction l with
  | nil => exact absurd hx List.not_mem_nil
  | cons y l ih =>
    rw [List.map_cons, List.nodup_cons] at h
    rcases List.mem_cons.mp hx with rfl | hx
    · rw [List.lookup_cons_self]
    · have hne : x.1 ≠ y.1 := fun heq => h.1 (heq ▸ List.mem_map_of_mem hx)
      rw [List.lookup_cons, beq_false_of_ne hne]
      exact ih h.2 hx

end entries

section grid

abbrev Cell := ℕ × ℕ

/-- The children that have been placed, with their columns and rows. -/
abbrev Grid := List (Cell × SubnetChild)

def ceilSqrt (n : ℕ) : ℕ := if n.sqrt * n.sqrt = n then n.sqrt else n.sqrt + 1

def gridWidth (n : ℕ) : ℕ := max (ceilSqrt n) 1

def gridHeight (n : ℕ) : ℕ := max ((n + gridWidth n - 1) / gridWidth n) 1

/-- `clamp(0, n - 1)`. -/
def clampTo (n : ℕ) (v : ℤ) : ℕ := (max 0 (min v (n - 1))).toNat

def offsets (radius : ℕ) : List ℤ := (List.range (2 * radius + 1)).map (fun k : ℕ => (k : ℤ) - radius)

/-- The cells around one in the order in which they are looked at. -/
def spiral (width height : ℕ) (ideal : Cell) : List Cell :=
  (List.range (max width height)).flatMap (fun radius => (offsets radius).flatMap (fun dy => (offsets radius).map (fun dx =>
    (clampTo width (ideal.1 + dx), clampTo height (ideal.2 + dy)))))

def placeChild (width height : ℕ) (ideal : SubnetChild → ℤ × ℤ) (grid : Grid) (child : SubnetChild) : Grid :=
  match (spiral width height (clampTo width (ideal child).1, clampTo height (ideal child).2)).find?
      (fun cell => !grid.any (fun e => e.1 = cell)) with
  | some cell => grid ++ [(cell, child)]
  | none => grid

def isProvider (child : SubnetChild) : Bool :=
  child.edges.any (fun e => (match e.edgeType with
    | .hostVirtualization _ => true
    | _ => false) && child.interfaceId = some e.source)

/-- Providers of virtual machines come first, then those with the greater forces. -/
def comesBefore (a b : SubnetChild × Ixy) : Bool :=
  if isProvider a.1 && !isProvider b.1 then true
  else if !isProvider a.1 && isProvider b.1 then false
  else max b.2.x.natAbs b.2.y.natAbs ≤ max a.2.x.natAbs a.2.y.natAbs

def sortedChildren (guidance : Guidance) (children : List SubnetChild) : List SubnetChild :=
  ((children.map (fun c => (c, guidance.force children c))).mergeSort comesBefore).map Prod.fst

def placedGrid (guidance : Guidance) (children : List SubnetChild) : Grid :=
  (sortedChildren guidance children).foldl
    (placeChild (gridWidth children.length) (gridHeight children.length) (guidance.idealCell children)) []

def colWidth (grid : Grid) (col : ℕ) : ℕ := ((grid.filter (fun e => e.1.1 = col)).map (fun e => e.2.size.x)).foldr max 0

def rowHeight (grid : Grid) (row : ℕ) : ℕ := ((grid.filter (fun e => e.1.2 = row)).map (fun e => e.2.size.y)).foldr max 0

/-- Where a column or a row begins that comes after others of these extents. -/
def offsetOf (extent : ℕ → ℕ) (padding i : ℕ) : ℕ := padding + ((List.range i).map (fun j => extent j + padding)).sum

def cellPosition (grid : Grid) (padding : Uxy) (cell : Cell) : Ixy :=
  ⟨offsetOf (colWidth grid) padding.x cell.1, offsetOf (rowHeight grid) padding.y cell.2⟩

/-- Row by row. -/
def rowMajor (width height : ℕ) (grid : Grid) : Grid :=
  (List.range height).flatMap (fun row => (List.range width).flatMap (fun col => grid.filter (fun e => e.1 = (col, row))))

def calculateAnchorBasedPositions (guidance : Guidance) (children : List SubnetChild) (padding : Uxy) : List (Uuid × NodeLayout) :=
  if children.isEmpty then []
  else
    let grid := placedGrid guidance children
    hashed ((rowMajor (gridWidth children.length) (gridHeight children.length) grid).map (fun e =>
      (e.2.id, ⟨e.2.size, cellPosition grid padding e.1⟩)))

end grid

section container

def calculateContainerSizeFromLayouts (layouts : List (Uuid × NodeLayout)) (padding : Uxy) : Uxy :=
  if layouts.isEmpty then ⟨padding.x * 2, padding.y * 2⟩
  else ⟨(layouts.map (fun l => Int.toNat (l.2.position.x + l.2.size.x + padding.x))).foldr max 0,
    (layouts.map (fun l => Int.toNat (l.2.position.y + l.2.size.y + padding.y))).foldr max 0⟩

/-- The infrastructure children of a subnet and the others, each from the lowest to the highest. -/
def partitionChildren (ctx : TopologyContext) (subnetId : Uuid) (children : List SubnetChild) : List SubnetChild × List SubnetChild :=
  match ctx.getSubnetById subnetId with
  | some subnet =>
    (children.mergeSort (fun a b => a.size.y ≤ b.size.y)).partition (fun c =>
      (ctx.getInterfacesWithInfraService subnet).contains c.interfaceId)
  | none => ([], children)

def zonePositions (guidance : Guidance) (children : List SubnetChild) : List (Uuid × NodeLayout) :=
  if children.isEmpty then [] else calculateAnchorBasedPositions guidance children nodePadding

def zoneSize (guidance : Guidance) (children : List SubnetChild) : Uxy :=
  if children.isEmpty then ⟨0, 0⟩ else calculateContainerSizeFromLayouts (zonePositions guidance children) nodePadding

/-- The nodes of the children that have got positions, moved to the right by `shift`. -/
def zoneNodes (guidance : Guidance) (subnetId : Uuid) (isInfra : Bool) (shift : ℤ) (children : List SubnetChild) : List Node :=
  children.filterMap (fun child => ((zonePositions guidance children).lookup child.id).map (fun layout =>
    ⟨.interfaceNode subnetId child.hostId child.interfaceId isInfra, child.id, ⟨layout.position.x + shift, layout.position.y⟩,
      child.size, child.header⟩))

/-- The size of a subnet with the width of its infrastructure zone, and the nodes in it. -/
def calculateSubnetSize (guidance : Guidance) (ctx : TopologyContext) (subnetId : Uuid) (children : List SubnetChild) :
    SubnetLayout × List Node :=
  let (infrastructure, regular) := partitionChildren ctx subnetId children
  let regularSize := zoneSize guidance regular
  let infraCols := ((zonePositions guidance infrastructure).map (fun l => l.2.position.x)).dedup.length
  let infraSize := zoneSize guidance infrastructure
  (⟨⟨regularSize.x + infraSize.x, max regularSize.y infraSize.y⟩, infraSize.x⟩,
    zoneNodes guidance subnetId true 0 infrastructure ++
      zoneNodes guidance subnetId false (if 0 < infraCols then infraSize.x else 0) regular)

end container

section compression

/-- The interface nodes of one subnet at one `x`, with their indices, from the top. -/
def columnOf (nodes : List Node) (subnetId : Uuid) (x : ℤ) : List (Node × ℕ) :=
  (nodes.zipIdx.filter (fun n => n.1.parent = some subnetId && n.1.position.x = x)).mergeSort
    (fun a b => a.1.position.y ≤ b.1.position.y)

def minY (nodes : List Node) (subnetId : Uuid) : ℤ :=
  (((nodes.filter (fun n => n.parent = some subnetId)).map (fun n => n.position.y)).min?).getD 0

/-- The indices of a column with the places of their nodes one below the other. -/
def stacked : ℤ → List (Node × ℕ) → List (ℕ × ℤ)
  | _, [] => []
  | y, (n, i) :: rest => (i, y) :: stacked (y + n.size.y + nodePadding.y) rest

/-- An interface node at its place in its column. -/
def restacked (nodes : List Node) (n : Node) (i : ℕ) : Node :=
  match n.parent with
  | some subnetId =>
    match (stacked (minY nodes subnetId) (columnOf nodes subnetId n.position.x)).lookup i with
    | some y => { n with position := ⟨n.position.x, y⟩ }
    | none => n
  | none => n

/-- Each column of interface nodes begins at the top of its subnet and leaves the padding between two of them. -/
def compressVerticalSpacing (nodes : List Node) : List Node := nodes.mapIdx (fun i n => restacked nodes n i)

end compression

end VantageNet.Graph
