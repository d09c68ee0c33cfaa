import VantageNet.Graph.Positioner

/-!
A topology is built: `topology/service/optimizer/main.rs`, `fix_intra_subnet_handles` of
`topology/service/optimizer/child_positioner.rs` and `build_graph` of `topology/service/main.rs`.
-/

namespace VantageNet.Graph

open Inventory
open Scanning (IpCidr)

/-- What one run draws: texts, forces, orders of hash maps, ids, and what is computed in floating point. There is one element
of `passes` for each pass of the optimizer, and it has one for each iteration of the sweeps. -/
structure Drawing where
  guidance : Guidance
  childrenIteration : HashOrder
  layoutsIteration : HashOrder
  drawn : ℕ → Uuid
  showCidr : IpCidr → String
  passes : List (List SubnetPositioner.Proposals)
  optimalHandles : Node → Node → EdgeHandle × EdgeHandle

variable (drawing : Drawing) (ctx : TopologyContext)

def fixIntraSubnetHandles (edges : List Edge) (nodes : List Node) : List Edge :=
  edges.map (fun e =>
    if ctx.edgeIsIntraSubnet e then
      match nodes.find? (fun n => n.id = e.source), nodes.find? (fun n => n.id = e.target) with
      | some source, some target => e.withHandles (drawing.optimalHandles source target)
      | _, _ => e
    else e)

def optimizeGraph (nodes : List Node) (edges : List Edge) : List Node × List Edge :=
  let positioned := drawing.passes.foldl (fun nodes sweeps => SubnetPositioner.optimizePositions sweeps nodes) nodes
  let compressed := compressVerticalSpacing (SubnetPositioner.compressHorizontalSpacing ctx positioned edges)
  (compressed, fixIntraSubnetHandles drawing ctx edges compressed)

/-- The edges between nodes of the graph. -/
def addEdgesToGraph (nodes : List Node) (edges : List Edge) : List Edge :=
  edges.filter (fun e => nodes.any (fun n => n.id = e.source) && nodes.any (fun n => n.id = e.target))

def outgoingCount (edges : List Edge) (nodeId : Uuid) : ℕ := (edges.filter (fun e => e.source = nodeId)).length

/-- An edge with the handles of the last old edge between its nodes, where as many edges go out from its source as before. -/
def preserveHandles (oldNodes : List Node) (oldEdges edges : List Edge) (e : Edge) : Edge :=
  if oldNodes.any (fun n => n.id = e.source) && outgoingCount oldEdges e.source = outgoingCount edges e.source then
    match oldEdges.reverse.find? (fun old => old.source = e.source && old.target = e.target) with
    | some old => e.withHandles (old.sourceHandle, old.targetHandle)
    | none => e
  else e

/-- The nodes with their first places. -/
def createNodes (edges : List Edge) : List Node :=
  let grouping := groupChildrenBySubnet drawing.guidance ctx edges
  let (layouts, childNodes) := createSubnetChildNodes drawing.guidance drawing.childrenIteration ctx grouping
  createSubnetNodes drawing.layoutsIteration ctx (grouping.consolidated drawing.childrenIteration) drawing.showCidr layouts ++
    childNodes

def buildGraph (oldNodes : List Node) (oldEdges : List Edge) : List Node × List Edge :=
  let allEdges := EdgeBuilder.createEdges ctx drawing.drawn
  let planned := (groupChildrenBySubnet drawing.guidance ctx allEdges).edges
  let (nodes, optimizedEdges) := optimizeGraph drawing ctx (createNodes drawing ctx allEdges) planned
  let edges := addEdgesToGraph nodes optimizedEdges
  (nodes, edges.map (preserveHandles oldNodes (addEdgesToGraph oldNodes oldEdges) edges))

end VantageNet.Graph
