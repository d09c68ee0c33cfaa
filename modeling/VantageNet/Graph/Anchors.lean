import VantageNet.Graph.Compression
import VantageNet.Graph.Planner
import VantageNet.Interaction.Program

/-!
When the children of the subnets are placed by the handles that are drawn: `plan_anchors` of
`topology/service/planner/anchor_planner.rs` in the turns of `group_children_by_subnet`.
-/

namespace VantageNet.Graph

open Inventory Interaction ChildAnchorPlanner

namespace ChildAnchorPlanner

/-- The handle that the edges of an interface to other subnets are given, if they are given one. -/
def overrideHandle (ctx : TopologyContext) (interfaceId : Uuid) (edges : List Edge) : Option EdgeHandle :=
  let interEdges := edges.filter (fun e => touches interfaceId e && !ctx.edgeIsIntraSubnet e)
  if interEdges.isEmpty then none
  else determineOverrideHandle ctx interEdges (ctx.isInterfaceInfra interfaceId) interfaceId edges

/-- What becomes of an edge in the turn of an interface. -/
def anchored (ctx : TopologyContext) (interfaceId : Uuid) (edges : List Edge) (e : Edge) : Edge :=
  match overrideHandle ctx interfaceId edges with
  | some handle => if touches interfaceId e && !ctx.edgeIsIntraSubnet e then e.withHandles (handle, handle) else e
  | none => e

theorem planAnchors_eq (ctx : TopologyContext) (interfaceId : Uuid) (edges : List Edge) :
    planAnchors ctx interfaceId edges = edges.map (anchored ctx interfaceId edges) := by
  have hanchored : anchored ctx interfaceId edges = match overrideHandle ctx interfaceId edges with
      | some handle => fun e => if touches interfaceId e && !ctx.edgeIsIntraSubnet e then e.withHandles (handle, handle) else e
      | none => id := by
    funext e
    unfold anchored
    cases overrideHandle ctx interfaceId edges <;> rfl
  rw [hanchored]
  unfold planAnchors overrideHandle
  dsimp only
  split_ifs
  · exact (List.map_id edges).symm
  · cases determineOverrideHandle ctx (edges.filter (fun e => touches interfaceId e && !ctx.edgeIsIntraSubnet e))
      (ctx.isInterfaceInfra interfaceId) interfaceId edges with
    | some handle => rfl
    | none => exact (List.map_id edges).symm

theorem ends_anchored (ctx : TopologyContext) (interfaceId : Uuid) (edges : List Edge) (e : Edge) :
    (anchored ctx interfaceId edges e).source = e.source ∧ (anchored ctx interfaceId edges e).target = e.target := by
  unfold anchored
  split
  · split_ifs
    · exact ⟨rfl, rfl⟩
    · exact ⟨rfl, rfl⟩
  · exact ⟨rfl, rfl⟩

theorem touches_congr {e e' : Edge} (h : e'.source = e.source ∧ e'.target = e.target) (interfaceId : Uuid) :
    touches interfaceId e' = touches interfaceId e := by
  rw [touches, touches, h.1, h.2]

/-- An edge is between two interfaces. -/
theorem not_touches_third {e : Edge} {a b c : Uuid} (ha : touches a e = true) (hb : touches b e = true) (hab : a ≠ b) (hac : a ≠ c)
    (hbc : b ≠ c) : touches c e = false := by
  simp only [touches, Bool.or_eq_true, Bool.or_eq_false_iff, decide_eq_true_eq, decide_eq_false_iff_not] at *
  constructor
  · rintro rfl
    exact hab ((ha.resolve_left hac.symm).symm.trans (hb.resolve_left hbc.symm))
  · rintro rfl
    exact hab ((ha.resolve_right hac.symm).symm.trans (hb.resolve_right hbc.symm))

end ChildAnchorPlanner

/-- What every child has recorded of its edges is, at the same places, what the list has of them. -/
def SeesFinalAnchors (grouping : Grouping) : Prop :=
  ∀ entry ∈ grouping.children, entry.2.edges = grouping.edges.filter (touches entry.2.id)

/-- An interface has a turn when it has a host and a service. -/
def hasTurn (ctx : TopologyContext) (interface : Interface) : Bool :=
  (ctx.getHostById interface.base.hostId).isSome && !(interfaceBoundServices ctx interface).isEmpty

/-- The handle that an interface is about to give to its edges is the one that those of the recorded children have already. -/
def LeavesRecorded (ctx : TopologyContext) (grouping : Grouping) (interface : Interface) : Prop :=
  hasTurn ctx interface = true → ∀ handle ∈ overrideHandle ctx interface.id grouping.edges,
    ∀ entry ∈ grouping.children, ∀ e ∈ grouping.edges, touches entry.2.id e = true → touches interface.id e = true →
      ctx.edgeIsIntraSubnet e = false → e.sourceHandle = handle ∧ e.targetHandle = handle

instance (ctx : TopologyContext) (grouping : Grouping) (interface : Interface) :
    Decidable (LeavesRecorded ctx grouping interface) := by
  unfold LeavesRecorded
  infer_instance

section turns

variable {guidance : Guidance} {ctx : TopologyContext} {grouping : Grouping} {interface : Interface}

/-- What becomes of an edge in a turn, if there is one. -/
def turned (ctx : TopologyContext) (grouping : Grouping) (interface : Interface) : Edge → Edge :=
  if hasTurn ctx interface then anchored ctx interface.id grouping.edges else id

theorem ends_turned (e : Edge) :
    (turned ctx grouping interface e).source = e.source ∧ (turned ctx grouping interface e).target = e.target := by
  unfold turned
  split_ifs
  · exact ends_anchored ctx interface.id grouping.edges e
  · exact ⟨rfl, rfl⟩

theorem turned_of_not_touches {e : Edge} (h : touches interface.id e = false) : turned ctx grouping interface e = e := by
  unfold turned anchored
  split_ifs
  · cases overrideHandle ctx interface.id grouping.edges with
    | none => rfl
    | some handle =>
      dsimp only
      rw [h, Bool.false_and, if_neg Bool.false_ne_true]
  · rfl

theorem edges_groupInterface : (groupInterface guidance ctx grouping interface).edges =
    grouping.edges.map (turned ctx grouping interface) := by
  unfold groupInterface turned hasTurn
  cases ctx.getHostById interface.base.hostId with
  | none => exact (List.map_id _).symm
  | some host =>
    dsimp only
    cases hempty : (interfaceBoundServices ctx interface).isEmpty with
    | true => exact (List.map_id _).symm
    | false =>
      rw [if_neg Bool.false_ne_true, Option.isSome_some, Bool.not_false, Bool.and_self, if_pos rfl, ← planAnchors_eq]
      cases groupingSubnet ctx interface host <;> rfl

/-- A turn keeps the children, and a new one sees the edges as they are after it. -/
theorem children_groupInterface (guidance : Guidance) (ctx : TopologyContext) (grouping : Grouping) (interface : Interface) :
    ∃ new, (groupInterface guidance ctx grouping interface).children = grouping.children ++ new ∧
    ∀ entry ∈ new, entry.2.id = interface.id ∧
      entry.2.edges = (groupInterface guidance ctx grouping interface).edges.filter (touches entry.2.id) := by
  unfold groupInterface
  cases ctx.getHostById interface.base.hostId with
  | none => exact ⟨[], (List.append_nil _).symm, nofun⟩
  | some host =>
    dsimp only
    by_cases hempty : (interfaceBoundServices ctx interface).isEmpty = true
    · rw [if_pos hempty]
      exact ⟨[], (List.append_nil _).symm, nofun⟩
    · rw [if_neg hempty]
      cases groupingSubnet ctx interface host with
      | none => exact ⟨[], (List.append_nil _).symm, nofun⟩
      | some subnetId =>
        refine ⟨_, rfl, fun entry hentry => ?_⟩
        obtain rfl := List.mem_singleton.mp hentry
        exact ⟨rfl, rfl⟩

theorem filter_turned (edges : List Edge) (interfaceId : Uuid) :
    (edges.map (turned ctx grouping interface)).filter (touches interfaceId) =
      (edges.filter (touches interfaceId)).map (turned ctx grouping interface) := by
  rw [List.filter_map]
  refine congrArg _ (List.filter_congr (fun e _ => ?_))
  exact touches_congr (ends_turned e) interfaceId

theorem leavesRecorded_iff : LeavesRecorded ctx grouping interface ↔
    ∀ entry ∈ grouping.children, ∀ e ∈ grouping.edges, touches entry.2.id e = true → turned ctx grouping interface e = e := by
  unfold LeavesRecorded turned anchored
  by_cases hturn : hasTurn ctx interface = true
  · rw [if_pos hturn]
    cases hoverride : overrideHandle ctx interface.id grouping.edges with
    | none => exact iff_of_true (fun _ _ h => nomatch h) (fun _ _ _ _ _ => rfl)
    | some handle =>
      dsimp only
      constructor
      · intro h entry hentry e he htouches
        split_ifs with hinter
        · obtain ⟨hinterface, hintra⟩ := Bool.and_eq_true_iff.mp hinter
          obtain ⟨hsource, htarget⟩ := h hturn handle rfl entry hentry e he htouches hinterface (by simpa using hintra)
          calc e.withHandles (handle, handle) = e.withHandles (e.sourceHandle, e.targetHandle) := by rw [hsource, htarget]
            _ = e := rfl
        · rfl
      · rintro h - _ ⟨⟩ entry hentry e he htouches hinterface hintra
        have hsame := h entry hentry e he htouches
        rw [hinterface, hintra, Bool.not_false, Bool.and_self, if_pos rfl] at hsame
        exact ⟨(congrArg Edge.sourceHandle hsame).symm, (congrArg Edge.targetHandle hsame).symm⟩
  · rw [if_neg hturn]
    exact iff_of_true (fun h => absurd h hturn) (fun _ _ _ _ _ => rfl)

/-- What a turn keeps. -/
theorem seesFinalAnchors_turn (h : SeesFinalAnchors grouping) :
    SeesFinalAnchors (groupInterface guidance ctx grouping interface) ↔ LeavesRecorded ctx grouping interface := by
  obtain ⟨new, hchildren, hnew⟩ := children_groupInterface guidance ctx grouping interface
  have hold : ∀ entry ∈ grouping.children,
      (entry.2.edges = (groupInterface guidance ctx grouping interface).edges.filter (touches entry.2.id) ↔
        ∀ e ∈ grouping.edges, touches entry.2.id e = true → turned ctx grouping interface e = e) := by
    intro entry hentry
    rw [edges_groupInterface, filter_turned, h entry hentry, eq_comm]
    constructor
    · intro hsame e he htouches
      exact List.map_inj_left.mp (hsame.trans (List.map_id _).symm) e (List.mem_filter.mpr ⟨he, htouches⟩)
    · intro hsame
      refine (List.map_congr_left (fun e he => ?_)).trans (List.map_id _)
      exact hsame e (List.mem_filter.mp he).1 (List.mem_filter.mp he).2
  rw [leavesRecorded_iff, SeesFinalAnchors, hchildren]
  constructor
  · intro hsees entry hentry
    exact (hold entry hentry).mp (hsees entry (List.mem_append_left _ hentry))
  · intro hleaves entry hentry
    rcases List.mem_append.mp hentry with hentry | hentry
    · exact (hold entry hentry).mpr (hleaves entry hentry)
    · exact (hnew entry hentry).2

/-- The edges after some turns. Those of no interface that had one are as they were. -/
theorem exists_turned (guidance : Guidance) (ctx : TopologyContext) (interfaces : List Interface) (grouping : Grouping) :
    ∃ turned : Edge → Edge, (interfaces.foldl (groupInterface guidance ctx) grouping).edges = grouping.edges.map turned ∧
      (∀ e, (turned e).source = e.source ∧ (turned e).target = e.target) ∧
      ∀ e, (∀ i ∈ interfaces, touches i.id e = false) → turned e = e := by
  induction interfaces generalizing grouping with
  | nil => exact ⟨id, (List.map_id _).symm, fun _ => ⟨rfl, rfl⟩, fun _ _ => rfl⟩
  | cons interface rest ih =>
    obtain ⟨later, hedges, hends, hsame⟩ := ih (groupInterface guidance ctx grouping interface)
    refine ⟨later ∘ turned ctx grouping interface, ?_, fun e => ?_, fun e he => ?_⟩
    · rw [List.foldl_cons, hedges, edges_groupInterface, List.map_map]
    · exact ⟨(hends _).1.trans (ends_turned e).1, (hends _).2.trans (ends_turned e).2⟩
    · rw [Function.comp_apply, turned_of_not_touches (he interface List.mem_cons_self)]
      exact hsame e (fun i hi => he i (List.mem_cons_of_mem _ hi))

theorem mem_children_run (interfaces : List Interface) {grouping : Grouping} {entry : Uuid × SubnetChild}
    (hentry : entry ∈ grouping.children) : entry ∈ (interfaces.foldl (groupInterface guidance ctx) grouping).children := by
  induction interfaces generalizing grouping with
  | nil => exact hentry
  | cons interface rest ih =>
    obtain ⟨new, hchildren, -⟩ := children_groupInterface guidance ctx grouping interface
    refine ih ?_
    rw [hchildren]
    exact List.mem_append_left _ hentry

/-- An edge between a recorded child and an interface has its last turn at that interface's. -/
theorem turned_eq_of_final {interfaces : List Interface} (hsees : SeesFinalAnchors grouping)
    (hids : ((interface :: interfaces).map Entity.id).Nodup)
    (hfinal : SeesFinalAnchors ((interface :: interfaces).foldl (groupInterface guidance ctx) grouping))
    {entry : Uuid × SubnetChild} (hentry : entry ∈ grouping.children)
    (hnew : ∀ i ∈ interface :: interfaces, entry.2.id ≠ i.id) {e : Edge} (he : e ∈ grouping.edges)
    (htouches : touches entry.2.id e = true) : turned ctx grouping interface e = e := by
  cases hinterface : touches interface.id e with
  | false => exact turned_of_not_touches hinterface
  | true =>
    obtain ⟨hnot, -⟩ := List.nodup_cons.mp hids
    obtain ⟨later, hedges, hends, hsame⟩ := exists_turned guidance ctx interfaces
      (groupInterface guidance ctx grouping interface)
    have hlast : later (turned ctx grouping interface e) = turned ctx grouping interface e := by
      refine hsame _ (fun i hi => (touches_congr (ends_turned e) i.id).trans ?_)
      refine not_touches_third htouches hinterface (hnew interface List.mem_cons_self) (hnew i (List.mem_cons_of_mem _ hi)) ?_
      exact fun heq => hnot (List.mem_map.mpr ⟨i, hi, heq.symm⟩)
    have hrecorded := hfinal entry (mem_children_run (interface :: interfaces) hentry)
    rw [List.foldl_cons, hedges, edges_groupInterface, List.map_map, hsees entry hentry, List.filter_map] at hrecorded
    have hfilter : grouping.edges.filter (touches entry.2.id ∘ later ∘ turned ctx grouping interface) =
        grouping.edges.filter (touches entry.2.id) :=
      List.filter_congr (fun e _ => touches_congr
        ⟨(hends _).1.trans (ends_turned e).1, (hends _).2.trans (ends_turned e).2⟩ entry.2.id)
    rw [hfilter] at hrecorded
    have hback := List.map_inj_left.mp ((List.map_id _).trans hrecorded) e (List.mem_filter.mpr ⟨he, htouches⟩)
    exact hlast.symm.trans hback.symm

theorem meets_of_final {interfaces : List Interface} (hsees : SeesFinalAnchors grouping)
    (hids : (interfaces.map Entity.id).Nodup) (hnew : ∀ entry ∈ grouping.children, ∀ i ∈ interfaces, entry.2.id ≠ i.id)
    (hfinal : SeesFinalAnchors (interfaces.foldl (groupInterface guidance ctx) grouping)) :
    Meets (groupInterface guidance ctx) (LeavesRecorded ctx) grouping interfaces := by
  induction interfaces generalizing grouping with
  | nil => trivial
  | cons interface rest ih =>
    have hleaves : LeavesRecorded ctx grouping interface := leavesRecorded_iff.mpr (fun entry hentry e he htouches =>
      turned_eq_of_final hsees hids hfinal hentry (hnew entry hentry) he htouches)
    obtain ⟨hnot, hrest⟩ := List.nodup_cons.mp hids
    refine ⟨hleaves, ih ((seesFinalAnchors_turn hsees).mpr hleaves) hrest (fun entry hentry i hi => ?_) hfinal⟩
    obtain ⟨new, hchildren, hadded⟩ := children_groupInterface guidance ctx grouping interface
    rw [hchildren] at hentry
    rcases List.mem_append.mp hentry with hentry | hentry
    · exact hnew entry hentry i (List.mem_cons_of_mem _ hi)
    · exact fun heq => hnot (List.mem_map.mpr ⟨i, hi, ((hadded entry hentry).1.symm.trans heq).symm⟩)

/-- The children see the final anchors when no turn changes an edge of a recorded child, and, as the ids of interfaces are
distinct, only then. -/
theorem seesFinalAnchors_iff (guidance : Guidance) (ctx : TopologyContext) (edges : List Edge) :
    (Meets (groupInterface guidance ctx) (LeavesRecorded ctx) ⟨edges, [], []⟩ ctx.interfaces →
      SeesFinalAnchors (groupChildrenBySubnet guidance ctx edges)) ∧
    ((ctx.interfaces.map Entity.id).Nodup → SeesFinalAnchors (groupChildrenBySubnet guidance ctx edges) →
      Meets (groupInterface guidance ctx) (LeavesRecorded ctx) ⟨edges, [], []⟩ ctx.interfaces) := by
  have hstart : SeesFinalAnchors ⟨edges, [], []⟩ := fun _ hentry => absurd hentry List.not_mem_nil
  constructor
  · intro h
    exact Meets.invariant SeesFinalAnchors (fun _ _ hsees hleaves => (seesFinalAnchors_turn hsees).mpr hleaves) hstart h
  · intro hids hfinal
    exact meets_of_final hstart hids (fun _ hentry => absurd hentry List.not_mem_nil) hfinal

end turns

section order

/-- A LAN with three interfaces; the first one has an edge up to the internet and one down to a management network. -/
def between (interfaces : List Interface) : TopologyContext := { emptyContext with
  hosts := [⟨11, 0, 0, ⟨"server", 9, none, none, .manual, none, false, []⟩⟩]
  interfaces
  subnets := [⟨1, 0, 0, ⟨⟨.v4 0x08000000, 8⟩, 9, "internet", none, .internet, .manual, []⟩⟩,
    ⟨2, 0, 0, ⟨⟨.v4 0x0A000000, 8⟩, 9, "office", none, .lan, .manual, []⟩⟩,
    ⟨3, 0, 0, ⟨⟨.v4 0xC0A80000, 16⟩, 9, "management", none, .management, .manual, []⟩⟩]
  services := [⟨31, 0, 0, ⟨11, 9, ⟨"ssh", false, false, false⟩, "ssh", [⟨41, 0, 0, ⟨31, 9, .port 51 none⟩⟩], none, .manual,
    [], 0⟩⟩] }

def above : Interface := ⟨21, 0, 0, ⟨9, 11, 1, .v4 0x08080808, none, none, 0⟩⟩

def inside : List Interface :=
  [⟨22, 0, 0, ⟨9, 11, 2, .v4 0x0A000001, none, none, 0⟩⟩, ⟨23, 0, 0, ⟨9, 11, 2, .v4 0x0A000002, none, none, 0⟩⟩,
    ⟨24, 0, 0, ⟨9, 11, 2, .v4 0x0A000003, none, none, 0⟩⟩]

def below : Interface := ⟨25, 0, 0, ⟨9, 11, 3, .v4 0xC0A80001, none, none, 0⟩⟩

def upAndDown : List Edge :=
  [⟨61, 21, 22, .interface 11, none, .bottom, .top, false⟩, ⟨62, 22, 25, .interface 11, none, .bottom, .top, false⟩]

/-- The edges are changed before any other child has recorded them. -/
theorem seesFinalAnchors_insideFirst :
    SeesFinalAnchors (groupChildrenBySubnet unguided (between (inside ++ [above, below])) upAndDown) :=
  (seesFinalAnchors_iff unguided (between (inside ++ [above, below])) upAndDown).1 (by decide)

/-- The interface on the internet has recorded its edge when the one on the LAN changes it. -/
theorem seesFinalAnchors_aboveFirst :
    ¬ ∀ guidance ctx edges, SeesFinalAnchors (groupChildrenBySubnet guidance ctx edges) := by
  intro h
  have hsees := h unguided (between (above :: inside ++ [below])) upAndDown
    (1, childOf unguided (between (above :: inside ++ [below])) above
      ⟨11, 0, 0, ⟨"server", 9, none, none, .manual, none, false, []⟩⟩ upAndDown) (by decide)
  exact absurd hsees (by decide)

end order

end VantageNet.Graph
