import VantageNet.Graph.Closure

/-! Which interfaces have nodes, and of which ones edges are drawn. -/

namespace VantageNet.Graph

open Inventory

section bound

variable {ctx : TopologyContext} {i : Interface} {s : Inventory.Service}

def isBoundTo (s : Inventory.Service) (interfaceId : Uuid) : Bool := (toBoundInterfaceIds s).contains (some interfaceId)

def isBoundToAll (s : Inventory.Service) : Bool := (toBoundInterfaceIds s).contains none

theorem isBoundTo_iff {interfaceId : Uuid} : isBoundTo s interfaceId = true ↔
    ∃ b ∈ s.base.bindings, b.base.bindingType.interfaceId = some interfaceId := by
  rw [isBoundTo, List.contains_iff_mem, toBoundInterfaceIds, List.mem_map]

theorem isBoundToAll_iff : isBoundToAll s = true ↔ ∃ b ∈ s.base.bindings, b.base.bindingType.interfaceId = none := by
  rw [isBoundToAll, List.contains_iff_mem, toBoundInterfaceIds, List.mem_map]

/-- A service of any host makes the node. -/
theorem isEmpty_interfaceBoundServices_iff : (interfaceBoundServices ctx i).isEmpty = false ↔
    ∃ s ∈ ctx.services, isBoundTo s i.id = true ∨ isBoundToAll s = true := by
  rw [List.isEmpty_eq_false_iff_exists_mem]
  refine exists_congr (fun s => ?_)
  rw [interfaceBoundServices, List.mem_filter, List.any_eq_true, isBoundTo_iff, isBoundToAll_iff]
  refine and_congr_right (fun _ => ?_)
  constructor
  · rintro ⟨b, hb, hbound⟩
    cases hid : b.base.bindingType.interfaceId with
    | none => exact Or.inr ⟨b, hb, hid⟩
    | some id =>
      rw [hid] at hbound
      exact Or.inl ⟨b, hb, hid.trans (congrArg some (of_decide_eq_true hbound))⟩
  · rintro (⟨b, hb, hid⟩ | ⟨b, hb, hid⟩)
    · exact ⟨b, hb, by rw [hid]; exact decide_eq_true rfl⟩
    · exact ⟨b, hb, by rw [hid]⟩

/-- Only a service that is bound to the interface itself makes its edges. -/
theorem interfaceWillHaveNode_iff {interfaceId : Uuid} : ctx.interfaceWillHaveNode interfaceId = true ↔
    ∃ s ∈ ctx.services, isBoundTo s interfaceId = true := by
  rw [TopologyContext.interfaceWillHaveNode, Bool.not_eq_true', List.isEmpty_eq_false_iff_exists_mem]
  refine exists_congr (fun s => ?_)
  rw [TopologyContext.getServicesBoundToInterface, List.mem_filter, List.any_eq_true, isBoundTo, List.contains_iff_mem]
  refine and_congr_right (fun _ => ⟨fun ⟨id, hid, heq⟩ => ?_, fun h => ⟨_, h, decide_eq_true rfl⟩⟩)
  exact of_decide_eq_true heq ▸ hid

def IsListed (ctx : TopologyContext) (i : Interface) : Prop := (ctx.getHostById i.base.hostId).isSome = true

/-- A service of its own host is bound to the interface or to all. -/
def HasOwnService (ctx : TopologyContext) (i : Interface) : Prop :=
  ∃ s ∈ ctx.services, s.base.hostId = i.base.hostId ∧ (isBoundTo s i.id = true ∨ isBoundToAll s = true)

def HasNode (nodes : List Node) (i : Interface) : Prop := ∃ n ∈ nodes, n.isSubnet = false ∧ n.id = i.id

theorem nodePlace_isSome (hgrouping : ctx.options.groupDockerBridgesByHost = false) :
    (∃ subnetId, nodePlace ctx i = some subnetId) ↔ IsListed ctx i ∧
      ∃ s ∈ ctx.services, isBoundTo s i.id = true ∨ isBoundToAll s = true := by
  rw [← isEmpty_interfaceBoundServices_iff, nodePlace, IsListed]
  cases ctx.getHostById i.base.hostId with
  | none => simp
  | some host => cases hempty : (interfaceBoundServices ctx i).isEmpty <;> simp [groupingSubnet, hgrouping]

theorem hasNode_iff (drawing : Drawing) (hgrouping : ctx.options.groupDockerBridgesByHost = false)
    (oldNodes : List Node)
    (oldEdges : List Edge) (hi : i ∈ ctx.interfaces) (hlisted : IsListed ctx i) :
    HasNode (buildGraph drawing ctx oldNodes oldEdges).1 i ↔
      ∃ s ∈ ctx.services, isBoundTo s i.id = true ∨ isBoundToAll s = true := by
  constructor
  · rintro ⟨n, hn, hsubnet, hid⟩
    rcases (mem_identity_buildGraph drawing ctx oldNodes oldEdges).mp
      (List.mem_map_of_mem hn) with ⟨hnone, -⟩ | ⟨e, he, heq⟩
    · exact absurd (Node.isSubnet_iff.mpr hnone) (by rw [hsubnet]; exact Bool.false_ne_true)
    · obtain ⟨j, -, hsome⟩ := List.mem_filterMap.mp he
      obtain ⟨subnetId, hplace, rfl⟩ := Option.map_eq_some_iff.mp hsome
      have hji : j.id = i.id := (congrArg Prod.snd heq).symm.trans hid
      exact hji ▸ ((nodePlace_isSome hgrouping).mp ⟨subnetId, hplace⟩).2
  · intro hbound
    obtain ⟨subnetId, hplace⟩ := (nodePlace_isSome hgrouping).mpr ⟨hlisted, hbound⟩
    have hmem : (subnetId, i.id) ∈ nodePlaces ctx := List.mem_filterMap.mpr ⟨i, hi, by rw [hplace]; rfl⟩
    obtain ⟨n, hn, hidentity⟩ := List.mem_map.mp
      ((mem_identity_buildGraph drawing ctx oldNodes oldEdges).mpr (Or.inr ⟨_, hmem, rfl⟩))
    refine ⟨n, hn, Bool.eq_false_iff.mpr (fun hsubnet => ?_), congrArg Prod.snd hidentity⟩
    exact Option.some_ne_none _ ((congrArg Prod.fst hidentity).symm.trans (Node.isSubnet_iff.mp hsubnet))

end bound

/-- Nodes and edges are for the same interfaces, those with services of their hosts, when and only when a service on all
interfaces comes with one on each of them, and one on an interface with one of its host. -/
theorem node_existence_agrees_iff (drawing : Drawing) (ctx : TopologyContext) (oldNodes : List Node)
    (oldEdges : List Edge)
    (hgrouping : ctx.options.groupDockerBridgesByHost = false) :
    (∀ i ∈ ctx.interfaces, (IsListed ctx i → (HasNode (buildGraph drawing ctx oldNodes oldEdges).1 i ↔ HasOwnService ctx i)) ∧
        (ctx.interfaceWillHaveNode i.id = true ↔ IsListed ctx i ∧ HasOwnService ctx i)) ↔
      (∀ i ∈ ctx.interfaces, IsListed ctx i → (∃ s ∈ ctx.services, isBoundToAll s = true) →
        ∃ s ∈ ctx.services, isBoundTo s i.id = true) ∧
      ∀ i ∈ ctx.interfaces, (∃ s ∈ ctx.services, isBoundTo s i.id = true) → IsListed ctx i ∧ HasOwnService ctx i := by
  constructor
  · intro h
    refine ⟨fun i hi hlisted hall => ?_, fun i hi hbound => (h i hi).2.mp (interfaceWillHaveNode_iff.mpr hbound)⟩
    obtain ⟨s, hs, hall⟩ := hall
    have hnode := (hasNode_iff drawing hgrouping oldNodes oldEdges hi hlisted).mpr ⟨s, hs, Or.inr hall⟩
    exact interfaceWillHaveNode_iff.mp ((h i hi).2.mpr ⟨hlisted, ((h i hi).1 hlisted).mp hnode⟩)
  · rintro ⟨hall, hown⟩ i hi
    have hbound : IsListed ctx i → (∃ s ∈ ctx.services, isBoundTo s i.id = true ∨ isBoundToAll s = true) →
        ∃ s ∈ ctx.services, isBoundTo s i.id = true := by
      rintro hlisted ⟨s, hs, hto | hto⟩
      · exact ⟨s, hs, hto⟩
      · exact hall i hi hlisted ⟨s, hs, hto⟩
    have hservice : HasOwnService ctx i → ∃ s ∈ ctx.services, isBoundTo s i.id = true ∨ isBoundToAll s = true :=
      fun ⟨s, hs, _, hto⟩ => ⟨s, hs, hto⟩
    refine ⟨fun hlisted => ?_, ?_⟩
    · rw [hasNode_iff drawing hgrouping oldNodes oldEdges hi hlisted]
      exact ⟨fun h => (hown i hi (hbound hlisted h)).2, hservice⟩
    · rw [interfaceWillHaveNode_iff]
      exact ⟨hown i hi, fun ⟨hlisted, h⟩ => hbound hlisted (hservice h)⟩

/-- The service of the host listens on all interfaces. -/
def anyAddress : TopologyContext := { oneHost with
  options := { oneHost.options with groupDockerBridgesByHost := false }
  services := [⟨31, 0, 0, ⟨11, 9, ⟨"CUPS", false, false, false⟩, "CUPS", [⟨41, 0, 0, ⟨31, 9, .port 51 none⟩⟩], none, .manual, [], 0⟩⟩] }

theorem node_existence_of_any_address :
    (∀ i ∈ anyAddress.interfaces,
        (IsListed anyAddress i → (HasNode (buildGraph oneSweep anyAddress [] []).1 i ↔ HasOwnService anyAddress i)) ∧
          (anyAddress.interfaceWillHaveNode i.id = true ↔ IsListed anyAddress i ∧ HasOwnService anyAddress i)) ↔
      (∀ i ∈ anyAddress.interfaces, IsListed anyAddress i → (∃ s ∈ anyAddress.services, isBoundToAll s = true) →
        ∃ s ∈ anyAddress.services, isBoundTo s i.id = true) ∧
      ∀ i ∈ anyAddress.interfaces, (∃ s ∈ anyAddress.services, isBoundTo s i.id = true) →
        IsListed anyAddress i ∧ HasOwnService anyAddress i :=
  node_existence_agrees_iff oneSweep anyAddress [] [] (by decide)

theorem node_without_edges : ¬ ∀ (drawing : Drawing) (ctx : TopologyContext) (oldNodes : List Node) (oldEdges : List Edge),
    ctx.options.groupDockerBridgesByHost = false → ∀ i ∈ ctx.interfaces,
      (IsListed ctx i → (HasNode (buildGraph drawing ctx oldNodes oldEdges).1 i ↔ HasOwnService ctx i)) ∧
        (ctx.interfaceWillHaveNode i.id = true ↔ IsListed ctx i ∧ HasOwnService ctx i) := by
  intro h
  have hnode : ∃ i ∈ anyAddress.interfaces, anyAddress.interfaceWillHaveNode i.id = false ∧ IsListed anyAddress i ∧
      ∃ s ∈ anyAddress.services, s.base.hostId = i.base.hostId ∧ (isBoundTo s i.id = true ∨ isBoundToAll s = true) := by
    unfold IsListed
    decide
  obtain ⟨i, hi, hwill, hown⟩ := hnode
  have hedges := (h oneSweep anyAddress [] [] (by decide) i hi).2.mpr hown
  exact absurd (hwill.symm.trans hedges) Bool.false_ne_true

end VantageNet.Graph
