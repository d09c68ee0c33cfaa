import VantageNet.Graph.Outline

/-!
Which updates make a topology stale: `triggers_staleness` of the entities it is built from (`shared/entities.rs`), and
what the diagram makes of the others.
-/

namespace VantageNet.Graph

open Inventory
open Subnets (Subnet)
open Topologies (ServiceCategory TopologyRequestOptions)

def Host.triggersStaleness (h : Host) : Option Host → Bool
  | some other => h.base.hostname ≠ other.base.hostname || h.base.virtualization ≠ other.base.virtualization ||
      h.base.hidden ≠ other.base.hidden
  | none => true

def Interface.triggersStaleness (i : Interface) : Option Interface → Bool
  | some other => i.base.ipAddress ≠ other.base.ipAddress || i.base.subnetId ≠ other.base.subnetId ||
      i.base.hostId ≠ other.base.hostId
  | none => true

/-- The type of a port and the `config` of it are one here. -/
def Port.triggersStaleness (p : Port) : Option Port → Bool
  | some other => p.base.portType ≠ other.base.portType || p.base.hostId ≠ other.base.hostId
  | none => true

/-- Bindings are equal when their types are. -/
def Service.triggersStaleness (s : Inventory.Service) : Option Inventory.Service → Bool
  | some other => s.base.bindings.map (fun b => b.base.bindingType) ≠ other.base.bindings.map (fun b => b.base.bindingType) ||
      s.base.hostId ≠ other.base.hostId || s.base.virtualization ≠ other.base.virtualization
  | none => true

def Subnet.triggersStaleness (_ : Subnet) (_ : Option Subnet) : Bool := false

def Group.triggersStaleness (g : Group) : Option Group → Bool
  | some other => g.bindingIds ≠ other.bindingIds
  | none => true

/-- One entity before and after an update. -/
inductive EntityUpdate where
  | host (old new : Host)
  | interface (old new : Interface)
  | port (old new : Port)
  | service (old new : Inventory.Service)
  | subnet (old new : Subnet)
  | group (old new : Group)

/-- A snapshot of a network: ids are primary keys. -/
structure Snapshot (ctx : TopologyContext) : Prop where
  hosts : (ctx.hosts.map (fun h => h.id)).Nodup
  interfaces : (ctx.interfaces.map (fun i => i.id)).Nodup
  subnets : (ctx.subnets.map (fun s => s.id)).Nodup
  services : (ctx.services.map (fun s => s.id)).Nodup
  bindings : ((ctx.services.flatMap (fun s => s.base.bindings)).map (fun b => b.id)).Nodup
  groups : (ctx.groups.map (fun g => g.id)).Nodup

namespace EntityUpdate

def triggersStaleness : EntityUpdate → Bool
  | host old new => Host.triggersStaleness new (some old)
  | interface old new => Interface.triggersStaleness new (some old)
  | port old new => Port.triggersStaleness new (some old)
  | service old new => Service.triggersStaleness new (some old)
  | subnet old new => Subnet.triggersStaleness new (some old)
  | group old new => new.triggersStaleness (some old)

/-- The entity keeps its id, and the bindings of a service have ids of their own. -/
def Valid : EntityUpdate → Prop
  | host old new => new.id = old.id
  | interface old new => new.id = old.id
  | port old new => new.id = old.id
  | service old new => new.id = old.id ∧ (old.base.bindings.map (fun b => b.id)).Nodup ∧
      (new.base.bindings.map (fun b => b.id)).Nodup
  | subnet old new => new.id = old.id
  | group old new => new.id = old.id

/-- The entity is in the snapshot. No diagram is built from ports. -/
def Of (ctx : TopologyContext) : EntityUpdate → Prop
  | host old _ => old ∈ ctx.hosts
  | interface old _ => old ∈ ctx.interfaces
  | port _ _ => True
  | service old _ => old ∈ ctx.services
  | subnet old _ => old ∈ ctx.subnets
  | group old _ => old ∈ ctx.groups

end EntityUpdate

/-- What becomes of a row. -/
def replaced {α : Type} (key : α → Uuid) (new row : α) : α := if key row = key new then new else row

namespace EntityUpdate

def apply (ctx : TopologyContext) : EntityUpdate → TopologyContext
  | host _ new => { ctx with hosts := ctx.hosts.map (replaced (fun h => h.id) new) }
  | interface _ new => { ctx with interfaces := ctx.interfaces.map (replaced (fun i => i.id) new) }
  | port _ _ => ctx
  | service _ new => { ctx with services := ctx.services.map (replaced (fun s => s.id) new) }
  | subnet _ new => { ctx with subnets := ctx.subnets.map (replaced (fun s => s.id) new) }
  | group _ new => { ctx with groups := ctx.groups.map (replaced (fun g => g.id) new) }

end EntityUpdate

/-- The interface that a service has a binding on, if it is on one. -/
def boundAt (s : Inventory.Service) (bindingId : Uuid) : Option Uuid :=
  (s.base.bindings.find? (fun b => b.id = bindingId)).bind (fun b => b.base.bindingType.interfaceId)

/-- What a diagram reads of the entity but `triggers_staleness` does not look at is as it was. -/
def EntityUpdate.Harmless (category : ServiceDefinition → ServiceCategory) : EntityUpdate → Prop
  | host _ _ => True
  | interface _ _ => True
  | port _ _ => True
  | service old new =>
    ((category new.base.serviceDefinition = category old.base.serviceDefinition ∧
        new.base.serviceDefinition.isGateway = old.base.serviceDefinition.isGateway) ∨
      ∀ b ∈ old.base.bindings, b.base.bindingType.interfaceId = none) ∧
      ∀ bindingId, boundAt new bindingId = boundAt old bindingId
  | subnet old new => new.base.subnetType.isDockerBridge = old.base.subnetType.isDockerBridge
  | group old new => new.groupType = old.groupType ∨ old.bindingIds.length < 2

section kept

variable {ctx : TopologyContext}

theorem map_replaced {α : Type} [DecidableEq α] {key : α → Uuid} {l : List α} {old new : α} (hnodup : (l.map key).Nodup)
    (hold : old ∈ l) (hkey : key new = key old) : l.map (replaced key new) = l.map (Function.update id old new) := by
  refine List.map_congr_left (fun a ha => ?_)
  by_cases heq : a = old
  · rw [heq, Function.update_self, replaced, if_pos hkey.symm]
  · have hne : key a ≠ key new := fun h => heq (List.inj_on_of_nodup_map hnodup ha hold (h.trans hkey))
    rw [Function.update_of_ne heq, replaced, if_neg hne, id]

/-- What holds of an entity and itself and of the new one and the old one. -/
theorem update_forall {α : Type} [DecidableEq α] {old new : α} (P : α → α → Prop) (hrefl : ∀ a, P a a) (hnew : P new old)
    (a : α) : P (Function.update id old new a) a := by
  by_cases heq : a = old
  · rw [heq, Function.update_self]
    exact hnew
  · rw [Function.update_of_ne heq]
    exact hrefl a

def Relabelled.refl (ctx : TopologyContext) : Relabelled ctx ctx where
  host := id
  interface := id
  subnet := id
  service := id
  group := id
  hosts := (List.map_id _).symm
  interfaces := (List.map_id _).symm
  subnets := (List.map_id _).symm
  services := (List.map_id _).symm
  groups := (List.map_id _).symm
  options := rfl
  host_reads _ := ⟨rfl, rfl⟩
  interface_reads _ := ⟨rfl, rfl, rfl⟩
  subnet_reads _ := ⟨rfl, rfl⟩
  service_reads _ := ⟨rfl, rfl, rfl, rfl⟩
  zones _ _ := ⟨rfl, rfl⟩
  group_reads _ := rfl
  bindings _ := rfl

theorem boundInterface_eq_some_iff (hbindings : ((ctx.services.flatMap (fun s => s.base.bindings)).map (fun b => b.id)).Nodup)
    {bindingId interfaceId : Uuid} : EdgeBuilder.boundInterface ctx bindingId = some interfaceId ↔
      ∃ s ∈ ctx.services, boundAt s bindingId = some interfaceId := by
  constructor
  · intro h
    obtain ⟨at_, hfound, rfl⟩ := Option.bind_eq_some_iff.mp h
    obtain ⟨s, hs, hmap⟩ := List.exists_of_findSome?_eq_some hfound
    obtain ⟨b, hb, hid⟩ := Option.map_eq_some_iff.mp hmap
    exact ⟨s, hs, by rw [boundAt, hb]; exact hid⟩
  · rintro ⟨s, hs, hbound⟩
    obtain ⟨b, hb, hid⟩ := Option.bind_eq_some_iff.mp hbound
    rw [EdgeBuilder.boundInterface]
    cases hfirst : ctx.services.findSome? (fun s => (s.base.bindings.find? (fun b => b.id = bindingId)).map
        (fun b => b.base.bindingType.interfaceId)) with
    | none =>
      have hnone := List.findSome?_eq_none_iff.mp hfirst s hs
      rw [hb] at hnone
      cases hnone
    | some at_ =>
      obtain ⟨s', hs', hmap⟩ := List.exists_of_findSome?_eq_some hfirst
      obtain ⟨b', hb', rfl⟩ := Option.map_eq_some_iff.mp hmap
      have hmem : b ∈ ctx.services.flatMap (fun s => s.base.bindings) :=
        List.mem_flatMap.mpr ⟨s, hs, List.mem_of_find?_eq_some hb⟩
      have hmem' : b' ∈ ctx.services.flatMap (fun s => s.base.bindings) :=
        List.mem_flatMap.mpr ⟨s', hs', List.mem_of_find?_eq_some hb'⟩
      have hkey : b.id = bindingId := by simpa using List.find?_some hb
      have hkey' : b'.id = bindingId := by simpa using List.find?_some hb'
      rw [List.inj_on_of_nodup_map hbindings hmem' hmem (hkey'.trans hkey.symm)]
      exact hid

theorem hops_eq {old new : Group} (hid : new.id = old.id) (hbindings : new.bindingIds = old.bindingIds)
    (h : new.groupType = old.groupType ∨ old.bindingIds.length < 2) : new.hops = old.hops := by
  rcases h with htype | hshort
  · rw [Group.hops, Group.hops, hid, hbindings, htype]
  · have hnone (g : Group) (hg : g.bindingIds = old.bindingIds) : g.hops = [] := by
      rw [Group.hops, hg]
      revert hshort
      rcases old.bindingIds with _ | ⟨hub, _ | ⟨spoke, rest⟩⟩ <;> intro hshort
      · cases g.groupType <;> rfl
      · cases g.groupType <;> rfl
      · simp only [List.length_cons] at hshort
        omega
    rw [hnone new hbindings, hnone old rfl]

/-- A quiet update that is harmless leaves all that a diagram reads. -/
theorem EntityUpdate.relabelled {u : EntityUpdate} (hvalid : u.Valid) (hquiet : u.triggersStaleness = false)
    (hharmless : u.Harmless ctx.category) (hctx : Snapshot ctx) (hof : u.Of ctx) (hctx' : Snapshot (u.apply ctx)) :
    Nonempty (Relabelled ctx (u.apply ctx)) := by
  classical
  cases u with
  | host old new =>
    have hvirtualization : new.base.virtualization = old.base.virtualization := by
      simp only [triggersStaleness, Host.triggersStaleness, Bool.or_eq_false_iff, decide_eq_false_iff_not, ne_eq, not_not] at hquiet
      exact hquiet.1.2
    exact ⟨{ Relabelled.refl ctx with
      host := Function.update id old new
      hosts := map_replaced hctx.hosts hof hvalid
      host_reads := update_forall (fun a b : Host => a.id = b.id ∧ a.base.virtualization = b.base.virtualization)
        (fun _ => ⟨rfl, rfl⟩) ⟨hvalid, hvirtualization⟩ }⟩
  | interface old new =>
    simp only [triggersStaleness, Interface.triggersStaleness, Bool.or_eq_false_iff, decide_eq_false_iff_not, ne_eq,
      not_not] at hquiet
    obtain ⟨⟨-, hsubnet⟩, hhost⟩ := hquiet
    exact ⟨{ Relabelled.refl ctx with
      interface := Function.update id old new
      interfaces := map_replaced hctx.interfaces hof hvalid
      interface_reads := update_forall (fun a b : Interface => a.id = b.id ∧ a.base.hostId = b.base.hostId ∧
        a.base.subnetId = b.base.subnetId) (fun _ => ⟨rfl, rfl, rfl⟩) ⟨hvalid, hhost, hsubnet⟩ }⟩
  | port old new => exact ⟨Relabelled.refl ctx⟩
  | service old new =>
    simp only [triggersStaleness, Service.triggersStaleness, Bool.or_eq_false_iff, decide_eq_false_iff_not, ne_eq,
      not_not] at hquiet
    obtain ⟨⟨htypes, hhost⟩, hvirtualization⟩ := hquiet
    have hbound : toBoundInterfaceIds new = toBoundInterfaceIds old := by
      have hmap := congrArg (List.map BindingType.interfaceId) htypes
      rwa [List.map_map, List.map_map] at hmap
    have hservices : ((service old new).apply ctx).services = ctx.services.map (Function.update id old new) :=
      map_replaced hctx.services hof hvalid.1
    refine ⟨{ Relabelled.refl ctx with
      service := Function.update id old new
      services := hservices
      service_reads := update_forall (fun a b : Inventory.Service => a.id = b.id ∧ a.base.hostId = b.base.hostId ∧
        a.base.virtualization = b.base.virtualization ∧ toBoundInterfaceIds a = toBoundInterfaceIds b)
        (fun _ => ⟨rfl, rfl, rfl, rfl⟩) ⟨hvalid.1, hhost, hvirtualization, hbound⟩
      zones := update_forall (fun a b : Inventory.Service => (∃ id, some id ∈ toBoundInterfaceIds b) →
        ctx.category a.base.serviceDefinition = ctx.category b.base.serviceDefinition ∧
          a.base.serviceDefinition.isGateway = b.base.serviceDefinition.isGateway) (fun _ _ => ⟨rfl, rfl⟩) ?_
      bindings := fun id => Option.ext (fun i => ?_) }⟩
    · rintro ⟨id, hid⟩
      refine hharmless.1.resolve_right (fun hnone => ?_)
      obtain ⟨b, hb, hbid⟩ := List.mem_map.mp hid
      rw [hnone b hb] at hbid
      cases hbid
    · rw [boundInterface_eq_some_iff hctx'.bindings, boundInterface_eq_some_iff hctx.bindings, hservices]
      simp only [List.mem_map, exists_exists_and_eq_and]
      refine exists_congr (fun s => and_congr_right (fun _ => ?_))
      rw [update_forall (fun a b => boundAt a id = boundAt b id) (fun _ => rfl) (hharmless.2 id) s]
  | subnet old new =>
    exact ⟨{ Relabelled.refl ctx with
      subnet := Function.update id old new
      subnets := map_replaced hctx.subnets hof hvalid
      subnet_reads := update_forall (fun a b : Subnet => a.id = b.id ∧ a.base.subnetType.isDockerBridge = b.base.subnetType.isDockerBridge)
        (fun _ => ⟨rfl, rfl⟩) ⟨hvalid, hharmless⟩ }⟩
  | group old new =>
    have hbindings : new.bindingIds = old.bindingIds := by
      simpa only [triggersStaleness, Group.triggersStaleness, decide_eq_false_iff_not, ne_eq, not_not] using hquiet
    exact ⟨{ Relabelled.refl ctx with
      group := Function.update id old new
      groups := map_replaced hctx.groups hof hvalid
      group_reads := update_forall (fun a b : Group => a.hops = b.hops) (fun _ => rfl) (hops_eq hvalid hbindings hharmless) }⟩

end kept

section shown

variable {ctx : TopologyContext} {drawing : Drawing} {oldNodes : List Node} {oldEdges : List Edge}

/-- Two bound interfaces of one host, with nodes of their own, are enough for what a diagram is to show. -/
theorem mem_nodePlaces_of_bound (hgrouping : ctx.options.groupDockerBridgesByHost = false) {i : Interface}
    (hi : i ∈ ctx.interfaces) (hlisted : IsListed ctx i) {s : Inventory.Service} (hs : s ∈ ctx.services)
    (hbound : isBoundTo s i.id = true) : (i.base.subnetId, i.id) ∈ nodePlaces ctx := by
  obtain ⟨subnetId, hplace⟩ := (nodePlace_isSome hgrouping).mpr ⟨hlisted, s, hs, .inl hbound⟩
  have hsubnet : subnetId = i.base.subnetId := by
    unfold nodePlace groupingSubnet at hplace
    rw [hgrouping] at hplace
    split at hplace
    · cases hplace
    · split at hplace
      · cases hplace
      · exact (Option.some.inj hplace).symm
  exact List.mem_filterMap.mpr ⟨i, hi, by rw [hplace, hsubnet]; rfl⟩

theorem mem_kinds_buildGraph_iff {k : Uuid × Uuid × EdgeType} (hsource : k.1 ∈ (nodePlaces ctx).map Prod.snd)
    (htarget : k.2.1 ∈ (nodePlaces ctx).map Prod.snd) :
    k ∈ (buildGraph drawing ctx oldNodes oldEdges).2.map Edge.kind ↔
      k ∈ (EdgeBuilder.createEdges ctx drawing.drawn).map Edge.kind := by
  refine ⟨fun h => ?_, fun h => mem_kinds_buildGraph h hsource htarget⟩
  rw [kinds_of_bare (bare_buildGraph drawing ctx oldNodes oldEdges), kinds_addEdgesToGraph] at h
  exact (List.mem_filter.mp h).1

theorem kind_of_edge {source targetInterface target : Uuid} {edgeType : EdgeType} {label : Option String} {e : Edge}
    (h : EdgeBuilder.edge ctx source targetInterface target edgeType label = some e) : e.kind = (source, target, edgeType) := by
  have hkind := EdgeBuilder.kind_edge ctx source targetInterface target edgeType label
  rw [h] at hkind
  split_ifs at hkind
  · exact Option.some.inj hkind
  · cases hkind

theorem edgeType_createInterfaceEdges {e : Edge} (he : e ∈ EdgeBuilder.createInterfaceEdges ctx) :
    ∃ hostId, e.edgeType = .interface hostId := by
  obtain ⟨host, -, he⟩ := List.mem_flatMap.mp he
  split at he
  · obtain ⟨i, -, hedge⟩ := List.mem_filterMap.mp he
    unfold EdgeBuilder.interfaceEdge at hedge
    dsimp only at hedge
    split_ifs at hedge <;> exact ⟨host.id, congrArg (fun k => k.2.2) (kind_of_edge hedge)⟩
  · cases he

theorem hopKind_eq_some_iff {hop : EdgeType × Uuid × Uuid} {k : Uuid × Uuid × EdgeType} :
    EdgeBuilder.hopKind ctx hop = some k ↔ EdgeBuilder.boundInterface ctx hop.2.1 = some k.1 ∧
      EdgeBuilder.boundInterface ctx hop.2.2 = some k.2.1 ∧ hop.1 = k.2.2 ∧
      (ctx.interfaceWillHaveNode k.1 = true ∧ ctx.interfaceWillHaveNode k.2.1 = true) ∧
      (ctx.getSubnetFromInterfaceId k.1).isSome = true ∧ (ctx.getSubnetFromInterfaceId k.2.1).isSome = true := by
  obtain ⟨source, target, edgeType⟩ := k
  unfold EdgeBuilder.hopKind
  cases hsource : EdgeBuilder.boundInterface ctx hop.2.1 with
  | none => simp
  | some i =>
    cases htarget : EdgeBuilder.boundInterface ctx hop.2.2 with
    | none => simp
    | some j =>
      simp only [Option.bind_eq_bind, Option.bind_some, Option.ite_none_right_eq_some, Bool.and_eq_true, Option.some.injEq,
        Prod.mk.injEq]
      constructor
      · rintro ⟨hwill, hsubnet, rfl, rfl, rfl⟩
        exact ⟨rfl, rfl, rfl, hwill, hsubnet⟩
      · rintro ⟨rfl, rfl, rfl, hwill, hsubnet⟩
        exact ⟨hwill, hsubnet, rfl, rfl, rfl⟩

theorem exists_hop {k : Uuid × Uuid × EdgeType} (hk : k ∈ (EdgeBuilder.createGroupEdges ctx).map Edge.kind) :
    ∃ g ∈ ctx.groups, ∃ hop ∈ g.hops, EdgeBuilder.hopKind ctx hop = some k := by
  rw [EdgeBuilder.kinds_createGroupEdges] at hk
  obtain ⟨hop, hhop, hsome⟩ := List.mem_filterMap.mp hk
  obtain ⟨g, hg, hhop⟩ := List.mem_flatMap.mp hhop
  exact ⟨g, hg, hop, hhop, hsome⟩

theorem edgeType_createVmHostEdges {e : Edge} (he : e ∈ EdgeBuilder.createVmHostEdges ctx) :
    ∃ serviceId, e.edgeType = .hostVirtualization serviceId := by
  obtain ⟨host, -, he⟩ := List.mem_flatMap.mp he
  split at he
  · rename_i serviceId _
    obtain ⟨i, -, hedge⟩ := List.mem_filterMap.mp he
    obtain ⟨source, -, hedge⟩ := Option.bind_eq_some_iff.mp hedge
    split_ifs at hedge
    · exact ⟨serviceId, congrArg (fun k => k.2.2) (kind_of_edge hedge)⟩
  · cases he

theorem edgeType_createContainerizedServiceEdges {e : Edge} (he : e ∈ EdgeBuilder.createContainerizedServiceEdges ctx) :
    ∃ hostId serviceId, e.edgeType = .serviceVirtualization hostId serviceId := by
  obtain ⟨⟨s, host, origin⟩, -, he⟩ := List.mem_flatMap.mp he
  dsimp only at he
  split at he
  · split at he
    · rename_i bridge subnetId hbridge
      obtain ⟨_, -, hbridge⟩ := Option.bind_eq_some_iff.mp hbridge
      obtain ⟨_, -, hbridge⟩ := Option.bind_eq_some_iff.mp hbridge
      obtain ⟨edge, hedge, hbridge⟩ := Option.bind_eq_some_iff.mp hbridge
      obtain ⟨rfl, -⟩ := Prod.mk.inj (Option.some.inj hbridge)
      split_ifs at he
      · obtain rfl := List.mem_singleton.mp he
        exact ⟨host.id, s.id, congrArg (fun k => k.2.2) (kind_of_edge hedge)⟩
      · cases he
    · cases he
  · obtain ⟨id, -, hcontainer⟩ := List.mem_filterMap.mp he
    obtain ⟨_, -, hcontainer⟩ := Option.bind_eq_some_iff.mp hcontainer
    obtain ⟨_, -, hcontainer⟩ := Option.bind_eq_some_iff.mp hcontainer
    obtain ⟨edge, hedge, hcontainer⟩ := Option.bind_eq_some_iff.mp hcontainer
    split_ifs at hcontainer
    · obtain rfl := Option.some.inj hcontainer
      exact ⟨host.id, s.id, congrArg (fun k => k.2.2) (kind_of_edge hedge)⟩

theorem type_of_createInterfaceEdges {k : Uuid × Uuid × EdgeType}
    (hk : k ∈ (EdgeBuilder.createInterfaceEdges ctx).map Edge.kind) : ∃ hostId, k.2.2 = .interface hostId := by
  obtain ⟨e, he, rfl⟩ := List.mem_map.mp hk
  exact edgeType_createInterfaceEdges he

theorem type_of_createGroupEdges {k : Uuid × Uuid × EdgeType} (hk : k ∈ (EdgeBuilder.createGroupEdges ctx).map Edge.kind) :
    (∃ groupId source target, k.2.2 = .requestPath groupId source target) ∨
      ∃ groupId source target, k.2.2 = .hubAndSpoke groupId source target := by
  obtain ⟨g, -, hop, hhop, hsome⟩ := exists_hop hk
  rw [← (hopKind_eq_some_iff.mp hsome).2.2.1]
  rw [Group.hops] at hhop
  split at hhop
  · obtain ⟨w, -, rfl⟩ := List.mem_map.mp hhop
    exact .inl ⟨g.id, w.1, w.2, rfl⟩
  · split at hhop
    · rename_i hub spokes _
      obtain ⟨spoke, -, rfl⟩ := List.mem_map.mp hhop
      exact .inr ⟨g.id, hub, spoke, rfl⟩
    · cases hhop

theorem type_of_others {k : Uuid × Uuid × EdgeType} (hk : k ∈ (EdgeBuilder.createVmHostEdges ctx).map Edge.kind ∨
    k ∈ (EdgeBuilder.createContainerizedServiceEdges ctx).map Edge.kind) :
    (∃ serviceId, k.2.2 = .hostVirtualization serviceId) ∨
      ∃ hostId serviceId, k.2.2 = .serviceVirtualization hostId serviceId := by
  rcases hk with hk | hk
  · obtain ⟨e, he, rfl⟩ := List.mem_map.mp hk
    exact .inl (edgeType_createVmHostEdges he)
  · obtain ⟨e, he, rfl⟩ := List.mem_map.mp hk
    exact .inr (edgeType_createContainerizedServiceEdges he)

theorem mem_kinds_createEdges {k : Uuid × Uuid × EdgeType} {drawn : ℕ → Uuid} :
    k ∈ (EdgeBuilder.createEdges ctx drawn).map Edge.kind ↔ k ∈ (EdgeBuilder.createInterfaceEdges ctx).map Edge.kind ∨
      k ∈ (EdgeBuilder.createGroupEdges ctx).map Edge.kind ∨ k ∈ (EdgeBuilder.createVmHostEdges ctx).map Edge.kind ∨
      k ∈ (EdgeBuilder.createContainerizedServiceEdges ctx).map Edge.kind := by
  rw [EdgeBuilder.kinds_createEdges]
  simp only [List.map_append, List.mem_append, or_assoc]

theorem mem_kinds_interface {source target hostId : Uuid} {drawn : ℕ → Uuid} :
    (source, target, .interface hostId) ∈ (EdgeBuilder.createEdges ctx drawn).map Edge.kind ↔
      (source, target, .interface hostId) ∈ (EdgeBuilder.createInterfaceEdges ctx).map Edge.kind := by
  rw [mem_kinds_createEdges]
  refine ⟨?_, .inl⟩
  rintro (h | h | h)
  · exact h
  · rcases type_of_createGroupEdges h with ⟨_, _, _, htype⟩ | ⟨_, _, _, htype⟩ <;> cases htype
  · rcases type_of_others h with ⟨_, htype⟩ | ⟨_, _, htype⟩ <;> cases htype

theorem mem_kinds_requestPath {source target groupId first second : Uuid} {drawn : ℕ → Uuid} :
    (source, target, .requestPath groupId first second) ∈ (EdgeBuilder.createEdges ctx drawn).map Edge.kind ↔
      ∃ g ∈ ctx.groups, ∃ hop ∈ g.hops, EdgeBuilder.hopKind ctx hop = some (source, target, .requestPath groupId first second) := by
  rw [mem_kinds_createEdges]
  constructor
  · rintro (h | h | h)
    · obtain ⟨_, htype⟩ := type_of_createInterfaceEdges h
      cases htype
    · exact exists_hop h
    · rcases type_of_others h with ⟨_, htype⟩ | ⟨_, _, htype⟩ <;> cases htype
  · rintro ⟨g, hg, hop, hhop, hsome⟩
    refine .inr (.inl ?_)
    rw [EdgeBuilder.kinds_createGroupEdges]
    exact List.mem_filterMap.mpr ⟨hop, List.mem_flatMap.mpr ⟨g, hg, hhop⟩, hsome⟩

end shown

/-- A host and interfaces of it on one subnet. -/
def probe (category : ServiceDefinition → ServiceCategory) (options : TopologyRequestOptions) (hostId : Uuid) (subnet : Subnet)
    (interfaceIds : List Uuid) (services : List Inventory.Service) (groups : List Group) : TopologyContext where
  hosts := [⟨hostId, 0, 0, ⟨"probe", 0, none, none, .manual, none, false, []⟩⟩]
  interfaces := interfaceIds.map (fun id => ⟨id, 0, 0, ⟨0, hostId, subnet.id, .v4 0, none, none, 0⟩⟩)
  subnets := [subnet]
  services
  groups
  options
  category

/-- No bridges are grouped; the infra zone is for these categories, and for gateways if they are shown there. -/
def probeOptions (leftZone : List ServiceCategory) (gateways : Bool) : TopologyRequestOptions :=
  ⟨false, false, false, leftZone, [], gateways⟩

section probes

variable {category : ServiceDefinition → ServiceCategory} {leftZone : List ServiceCategory} {gateways : Bool} {hostId : Uuid}
  {subnet : Subnet} {interfaceIds : List Uuid} {services : List Inventory.Service} {groups : List Group}

theorem snapshot_probe {options : TopologyRequestOptions} (hinterfaces : interfaceIds.Nodup)
    (hservices : (services.map (fun s => s.id)).Nodup)
    (hbindings : ((services.flatMap (fun s => s.base.bindings)).map (fun b => b.id)).Nodup)
    (hgroups : (groups.map (fun g => g.id)).Nodup) :
    Snapshot (probe category options hostId subnet interfaceIds services groups) := by
  refine ⟨List.nodup_singleton _, ?_, List.nodup_singleton _, hservices, hbindings, hgroups⟩
  rw [probe, List.map_map]
  exact (List.map_id interfaceIds).symm ▸ hinterfaces

theorem getSubnetById_probe {options : TopologyRequestOptions} :
    (probe category options hostId subnet interfaceIds services groups).getSubnetById subnet.id = some subnet := by
  simp [probe, TopologyContext.getSubnetById]

theorem getSubnetFromInterfaceId_probe {options : TopologyRequestOptions} {interfaceId : Uuid} (hi : interfaceId ∈ interfaceIds) :
    (probe category options hostId subnet interfaceIds services groups).getSubnetFromInterfaceId interfaceId = some subnet := by
  rw [TopologyContext.getSubnetFromInterfaceId]
  cases hfind : (probe category options hostId subnet interfaceIds services groups).interfaces.find?
      (fun i => i.id = interfaceId) with
  | none =>
    have hmem : (⟨interfaceId, 0, 0, ⟨0, hostId, subnet.id, .v4 0, none, none, 0⟩⟩ : Interface) ∈
        (probe category options hostId subnet interfaceIds services groups).interfaces := List.mem_map.mpr ⟨interfaceId, hi, rfl⟩
    exact absurd (List.find?_eq_none.mp hfind _ hmem) (by simp)
  | some i =>
    obtain ⟨id, -, rfl⟩ := List.mem_map.mp (List.mem_of_find?_eq_some hfind)
    exact getSubnetById_probe

theorem mem_nodePlaces_probe {interfaceId : Uuid} (hi : interfaceId ∈ interfaceIds) {s : Inventory.Service} (hs : s ∈ services)
    (hbound : isBoundTo s interfaceId = true) : (subnet.id, interfaceId) ∈
      nodePlaces (probe category (probeOptions leftZone gateways) hostId subnet interfaceIds services groups) := by
  let i : Interface := ⟨interfaceId, 0, 0, ⟨0, hostId, subnet.id, .v4 0, none, none, 0⟩⟩
  have hmem : i ∈ (probe category (probeOptions leftZone gateways) hostId subnet interfaceIds services groups).interfaces :=
    List.mem_map.mpr ⟨interfaceId, hi, rfl⟩
  have hlisted : IsListed (probe category (probeOptions leftZone gateways) hostId subnet interfaceIds services groups) i := by
    simp [IsListed, TopologyContext.getHostById, probe, i]
  exact mem_nodePlaces_of_bound rfl hmem hlisted hs hbound

theorem boundInterface_probe {options : TopologyRequestOptions} {s : Inventory.Service} (bindingId : Uuid) :
    EdgeBuilder.boundInterface (probe category options hostId subnet interfaceIds [s] groups) bindingId = boundAt s bindingId := by
  simp only [EdgeBuilder.boundInterface, probe, boundAt, List.findSome?_cons, List.findSome?_nil]
  cases s.base.bindings.find? (fun b => b.id = bindingId) <;> rfl

theorem interfaceWillHaveNode_probe {options : TopologyRequestOptions} {s : Inventory.Service} {interfaceId : Uuid}
    (hbound : isBoundTo s interfaceId = true) :
    (probe category options hostId subnet interfaceIds [s] groups).interfaceWillHaveNode interfaceId = true :=
  interfaceWillHaveNode_iff.mpr ⟨s, List.mem_singleton_self s, hbound⟩

/-- A service with these bindings on these interfaces. -/
def probeService (bindings : List (Uuid × Uuid)) : Inventory.Service :=
  ⟨1, 0, 0, ⟨1, 0, ⟨"probe", false, false, false⟩, "probe",
    bindings.map (fun b => ⟨b.1, 0, 0, ⟨1, 0, .port 1 (some b.2)⟩⟩), none, .manual, [], 0⟩⟩

theorem isBoundTo_probeService {bindings : List (Uuid × Uuid)} {b : Uuid × Uuid} (hb : b ∈ bindings) :
    isBoundTo (probeService bindings) b.2 = true :=
  isBoundTo_iff.mpr ⟨_, List.mem_map_of_mem hb, rfl⟩

/-- Two bound interfaces on one subnet. -/
def bridgeProbe (category : ServiceDefinition → ServiceCategory) (subnet : Subnet) : TopologyContext :=
  probe category (probeOptions [] false) 1 subnet [1, 2] [probeService [(1, 1), (2, 2)]] []

theorem kinds_bridgeProbe : (EdgeBuilder.createInterfaceEdges (bridgeProbe category subnet)).map Edge.kind =
    if subnet.base.subnetType.isDockerBridge then [] else [(1, 2, .interface 1)] := by
  have hwill (id : Uuid) (hid : (id, id) ∈ [((1 : Uuid), (1 : Uuid)), (2, 2)]) :
      (bridgeProbe category subnet).interfaceWillHaveNode id = true :=
    interfaceWillHaveNode_probe (isBoundTo_probeService hid)
  have hsubnet : (bridgeProbe category subnet).getSubnetById subnet.id = some subnet := getSubnetById_probe
  have hfrom (id : Uuid) (hid : id ∈ [(1 : Uuid), 2]) : (bridgeProbe category subnet).getSubnetFromInterfaceId id = some subnet :=
    getSubnetFromInterfaceId_probe hid
  have hinterfaces : (bridgeProbe category subnet).interfaces = [⟨1, 0, 0, ⟨0, 1, subnet.id, .v4 0, none, none, 0⟩⟩,
    ⟨2, 0, 0, ⟨0, 1, subnet.id, .v4 0, none, none, 0⟩⟩] := rfl
  have hhosts : (bridgeProbe category subnet).hosts = [⟨1, 0, 0, ⟨"probe", 0, none, none, .manual, none, false, []⟩⟩] := rfl
  rw [EdgeBuilder.createInterfaceEdges, hhosts, List.flatMap_singleton]
  cases hbridge : subnet.base.subnetType.isDockerBridge with
  | true =>
    have hnone : (bridgeProbe category subnet).getFirstNonDockerBridgeInterfaceForHost 1 = none := by
      simp [TopologyContext.getFirstNonDockerBridgeInterfaceForHost, hinterfaces, hsubnet, hbridge]
    simp [hnone]
  | false =>
    have hfirst : (bridgeProbe category subnet).getFirstNonDockerBridgeInterfaceForHost 1 =
        some ⟨1, 0, 0, ⟨0, 1, subnet.id, .v4 0, none, none, 0⟩⟩ := by
      simp [TopologyContext.getFirstNonDockerBridgeInterfaceForHost, hinterfaces, hsubnet, hbridge]
    simp [hfirst, TopologyContext.getInterfacesForHost, hinterfaces, hwill, List.map_filterMap, EdgeBuilder.interfaceEdge,
      hsubnet, hbridge, EdgeBuilder.kind_edge, hfrom]

variable (category) in
theorem joined_iff_not_bridge : (1, 2, EdgeType.interface 1) ∈
    (buildGraph oneSweep (bridgeProbe category subnet) [] []).2.map Edge.kind ↔ subnet.base.subnetType.isDockerBridge = false := by
  have hplace (id : Uuid) (hi : id ∈ [(1 : Uuid), 2]) (hb : (id, id) ∈ [((1 : Uuid), (1 : Uuid)), (2, 2)]) :
      id ∈ (nodePlaces (bridgeProbe category subnet)).map Prod.snd :=
    List.mem_map.mpr ⟨_, mem_nodePlaces_probe hi (List.mem_singleton_self _) (isBoundTo_probeService hb), rfl⟩
  rw [mem_kinds_buildGraph_iff (hplace 1 (by simp) (by simp)) (hplace 2 (by simp) (by simp)), mem_kinds_interface, kinds_bridgeProbe]
  cases subnet.base.subnetType.isDockerBridge <;> simp

def lan : Subnet := ⟨1, 0, 0, ⟨⟨.v4 (0x0A000000#32), 8⟩, 0, "probe", none, .lan, .manual, []⟩⟩

theorem boundAt_probeService {bindings : List (Uuid × Uuid)} {bindingId interfaceId : Uuid} (hmem : bindingId ∈ bindings.map Prod.fst)
    (hall : ∀ b ∈ bindings, b.2 = interfaceId) : boundAt (probeService bindings) bindingId = some interfaceId := by
  rw [boundAt]
  cases hfind : (probeService bindings).base.bindings.find? (fun b => b.id = bindingId) with
  | none =>
    obtain ⟨b, hb, rfl⟩ := List.mem_map.mp hmem
    exact absurd (List.find?_eq_none.mp hfind _ (List.mem_map_of_mem hb)) (by simp)
  | some found =>
    obtain ⟨b, hb, rfl⟩ := List.mem_map.mp (List.mem_of_find?_eq_some hfind)
    exact congrArg some (hall b hb)

/-- All bindings of a group are on one interface. -/
def groupProbe (category : ServiceDefinition → ServiceCategory) (g : Group) : TopologyContext :=
  probe category (probeOptions [] false) 1 lan [1] [probeService (g.bindingIds.dedup.map (fun id => (id, 1)))] [g]

variable (category) in
/-- The first edge of a group tells its type. -/
theorem path_iff_requestPath {g : Group} {first second : Uuid} {rest : List Uuid} (hids : g.bindingIds = first :: second :: rest) :
    (1, 1, EdgeType.requestPath g.id first second) ∈ (buildGraph oneSweep (groupProbe category g) [] []).2.map Edge.kind ↔
      g.groupType = .requestPath := by
  have hbound (id : Uuid) (hid : id ∈ g.bindingIds) :
      boundAt (probeService (g.bindingIds.dedup.map (fun id => (id, 1)))) id = some 1 := by
    refine boundAt_probeService ?_ (fun b hb => ?_)
    · rw [List.map_map]
      exact List.mem_map.mpr ⟨id, List.mem_dedup.mpr hid, rfl⟩
    · obtain ⟨_, -, rfl⟩ := List.mem_map.mp hb
      rfl
  have hto : isBoundTo (probeService (g.bindingIds.dedup.map (fun id => (id, 1)))) 1 = true :=
    isBoundTo_probeService (b := (first, 1)) (List.mem_map.mpr ⟨first, List.mem_dedup.mpr (by simp [hids]), rfl⟩)
  have hplace : (1 : Uuid) ∈ (nodePlaces (groupProbe category g)).map Prod.snd :=
    List.mem_map.mpr ⟨_, mem_nodePlaces_probe (List.mem_singleton_self 1) (List.mem_singleton_self _) hto, rfl⟩
  have hsubnet : (groupProbe category g).getSubnetFromInterfaceId 1 = some lan :=
    getSubnetFromInterfaceId_probe (List.mem_singleton_self 1)
  rw [mem_kinds_buildGraph_iff hplace hplace, mem_kinds_requestPath]
  constructor
  · rintro ⟨g', hg, hop, hhop, hsome⟩
    obtain rfl := List.mem_singleton.mp hg
    have htype := (hopKind_eq_some_iff.mp hsome).2.2.1
    cases hgroup : g'.groupType with
    | requestPath => rfl
    | hubAndSpoke =>
      rw [Group.hops, hgroup, hids] at hhop
      obtain ⟨_, -, rfl⟩ := List.mem_map.mp hhop
      cases htype
  · intro hgroup
    refine ⟨g, List.mem_singleton_self g, (.requestPath g.id first second, first, second), ?_, hopKind_eq_some_iff.mpr ?_⟩
    · rw [Group.hops, hgroup, hids]
      exact List.mem_cons_self
    · refine ⟨?_, ?_, rfl, ⟨interfaceWillHaveNode_probe hto, interfaceWillHaveNode_probe hto⟩, ?_, ?_⟩
      · exact (boundInterface_probe first).trans (hbound first (by simp [hids]))
      · exact (boundInterface_probe second).trans (hbound second (by simp [hids]))
      · rw [hsubnet]
        rfl
      · rw [hsubnet]
        rfl

/-- A group goes from a binding of the service to itself. -/
def bindingProbe (category : ServiceDefinition → ServiceCategory) (bindingId interfaceId : Uuid) (s : Inventory.Service) :
    TopologyContext :=
  probe category (probeOptions [] false) 1 lan [interfaceId] [s] [⟨1, "probe", [bindingId, bindingId], .requestPath⟩]

variable (category) in
/-- The edge of the group tells where the binding is. -/
theorem path_iff_boundAt {bindingId interfaceId : Uuid} {s : Inventory.Service} (hto : isBoundTo s interfaceId = true) :
    (interfaceId, interfaceId, EdgeType.requestPath 1 bindingId bindingId) ∈
        (buildGraph oneSweep (bindingProbe category bindingId interfaceId s) [] []).2.map Edge.kind ↔
      boundAt s bindingId = some interfaceId := by
  have hplace : interfaceId ∈ (nodePlaces (bindingProbe category bindingId interfaceId s)).map Prod.snd :=
    List.mem_map.mpr ⟨_, mem_nodePlaces_probe (List.mem_singleton_self interfaceId) (List.mem_singleton_self _) hto, rfl⟩
  have hsubnet : (bindingProbe category bindingId interfaceId s).getSubnetFromInterfaceId interfaceId = some lan :=
    getSubnetFromInterfaceId_probe (List.mem_singleton_self interfaceId)
  have hbound : EdgeBuilder.boundInterface (bindingProbe category bindingId interfaceId s) bindingId = boundAt s bindingId :=
    boundInterface_probe bindingId
  rw [mem_kinds_buildGraph_iff hplace hplace, mem_kinds_requestPath]
  constructor
  · rintro ⟨g, hg, hop, hhop, hsome⟩
    obtain rfl := List.mem_singleton.mp hg
    obtain rfl := List.mem_singleton.mp hhop
    rw [← hbound]
    exact (hopKind_eq_some_iff.mp hsome).1
  · intro hat
    refine ⟨_, List.mem_singleton_self _, (.requestPath 1 bindingId bindingId, bindingId, bindingId), List.mem_singleton_self _,
      hopKind_eq_some_iff.mpr ?_⟩
    refine ⟨hbound.trans hat, hbound.trans hat, rfl, ⟨interfaceWillHaveNode_probe hto, interfaceWillHaveNode_probe hto⟩, ?_, ?_⟩
    · rw [hsubnet]
      rfl
    · rw [hsubnet]
      rfl

/-- A service of the host with an interface. -/
def zoneProbe (category : ServiceDefinition → ServiceCategory) (leftZone : List ServiceCategory) (gateways : Bool) (hostId : Uuid)
    (interfaceId : Uuid) (s : Inventory.Service) : TopologyContext :=
  probe category (probeOptions leftZone gateways) hostId lan [interfaceId] [s] []

/-- The zone of the node tells the category of the service, or whether it is a gateway. -/
theorem zone_of_service {interfaceId : Uuid} {s : Inventory.Service} (hto : isBoundTo s interfaceId = true)
    {isInfra : Bool} : (interfaceId, some lan.id, some isInfra) ∈
        (buildGraph oneSweep (zoneProbe category leftZone gateways s.base.hostId interfaceId s) [] []).1.map Node.outline ↔
      (leftZone.contains (category s.base.serviceDefinition) || (gateways && s.base.serviceDefinition.isGateway)) = isInfra := by
  have hplace : (lan.id, interfaceId) ∈ nodePlaces (zoneProbe category leftZone gateways s.base.hostId interfaceId s) :=
    mem_nodePlaces_probe (List.mem_singleton_self interfaceId) (List.mem_singleton_self _) hto
  have hzone : infraAt (zoneProbe category leftZone gateways s.base.hostId interfaceId s) lan.id interfaceId =
      (leftZone.contains (category s.base.serviceDefinition) || (gateways && s.base.serviceDefinition.isGateway)) := by
    have hsubnet : (zoneProbe category leftZone gateways s.base.hostId interfaceId s).getSubnetById lan.id = some lan :=
      getSubnetById_probe
    have hmem : some interfaceId ∈ toBoundInterfaceIds s := List.contains_iff_mem.mp hto
    have hon : hasInterfaceWithService lan ((zoneProbe category leftZone gateways s.base.hostId interfaceId s).getInterfacesForHost
        s.base.hostId) s = true := by
      refine hasInterfaceWithService_iff.mpr ⟨some interfaceId, hmem, ⟨interfaceId, 0, 0, ⟨0, s.base.hostId, lan.id, .v4 0, none, none, 0⟩⟩,
        ?_, fun id hid => Option.some.inj hid, rfl⟩
      exact List.mem_filter.mpr ⟨List.mem_singleton_self _, decide_eq_true rfl⟩
    have hhost : (zoneProbe category leftZone gateways s.base.hostId interfaceId s).getHostById s.base.hostId =
        some ⟨s.base.hostId, 0, 0, ⟨"probe", 0, none, none, .manual, none, false, []⟩⟩ := by
      simp [zoneProbe, probe, TopologyContext.getHostById]
    rw [infraAt, hsubnet, Bool.eq_iff_iff, contains_getInterfacesWithInfraService_iff]
    constructor
    · rintro ⟨s', hs', -, hinfra⟩
      obtain rfl := List.mem_singleton.mp hs'
      rw [isInfraService, hhost] at hinfra
      exact (Bool.and_eq_true _ _ ▸ hinfra).1
    · intro hinfra
      refine ⟨s, List.mem_singleton_self s, hmem, ?_⟩
      rw [isInfraService, hhost]
      exact (Bool.and_eq_true _ _).mpr ⟨hinfra, hon⟩
  rw [mem_outline_buildGraph, ← hzone]
  constructor
  · rintro (⟨_, -, -, heq⟩ | ⟨e, -, heq⟩)
    · cases (Prod.mk.inj (Prod.mk.inj heq).2).1
    · obtain ⟨hid, hrest⟩ := Prod.mk.inj heq
      obtain ⟨hsubnet, hflag⟩ := Prod.mk.inj hrest
      exact (congrArg₂ _ (Option.some.inj hsubnet) hid).trans (Option.some.inj hflag).symm
  · rintro rfl
    exact .inr ⟨_, hplace, rfl⟩

end probes

section harm

variable {category : ServiceDefinition → ServiceCategory}

theorem nodup_ids_probeService {bindings : List (Uuid × Uuid)} (h : (bindings.map Prod.fst).Nodup) :
    (([probeService bindings].flatMap (fun s => s.base.bindings)).map (fun b => b.id)).Nodup := by
  rw [List.flatMap_singleton, probeService, List.map_map]
  exact h

/-- The update makes no difference to any diagram. -/
def EntityUpdate.Unnoticed (category : ServiceDefinition → ServiceCategory) (u : EntityUpdate) : Prop :=
  ∀ ctx : TopologyContext, ctx.category = category → Snapshot ctx → u.Of ctx → Snapshot (u.apply ctx) →
    ∀ (drawing drawing' : Drawing) (oldNodes oldNodes' : List Node) (oldEdges oldEdges' : List Edge),
      SameDiagram (buildGraph drawing ctx oldNodes oldEdges) (buildGraph drawing' (u.apply ctx) oldNodes' oldEdges')

theorem bridge_of_unnoticed {old new : Subnet} (hid : new.id = old.id)
    (h : EntityUpdate.Unnoticed category (.subnet old new)) :
    new.base.subnetType.isDockerBridge = old.base.subnetType.isDockerBridge := by
  have happly : (EntityUpdate.subnet old new).apply (bridgeProbe category old) = bridgeProbe category new := by
    simp [EntityUpdate.apply, bridgeProbe, probe, replaced, hid]
  have hsnapshot (subnet : Subnet) : Snapshot (bridgeProbe category subnet) :=
    snapshot_probe (by decide) (List.nodup_singleton _) (nodup_ids_probeService (by decide)) List.nodup_nil
  have hsame := h (bridgeProbe category old) rfl (hsnapshot old) (List.mem_singleton_self old) (happly ▸ hsnapshot new)
    oneSweep oneSweep [] [] [] []
  rw [happly] at hsame
  have hiff : old.base.subnetType.isDockerBridge = false ↔ new.base.subnetType.isDockerBridge = false := by
    rw [← joined_iff_not_bridge category, ← joined_iff_not_bridge category, hsame.2]
  cases hold : old.base.subnetType.isDockerBridge with
  | false => exact hiff.mp hold
  | true =>
    rw [← Bool.not_eq_false]
    exact fun hnew => by rw [hiff.mpr hnew] at hold; cases hold

theorem groupType_of_unnoticed {old new : Group} (hid : new.id = old.id) (hids : new.bindingIds = old.bindingIds)
    (h : EntityUpdate.Unnoticed category (.group old new)) : new.groupType = old.groupType ∨ old.bindingIds.length < 2 := by
  rcases hlist : old.bindingIds with _ | ⟨first, _ | ⟨second, rest⟩⟩
  · exact .inr (by simp)
  · exact .inr (by simp)
  · refine .inl ?_
    have happly : (EntityUpdate.group old new).apply (groupProbe category old) = groupProbe category new := by
      simp [EntityUpdate.apply, groupProbe, probe, replaced, hid, hids]
    have hsnapshot (g : Group) : Snapshot (groupProbe category g) := by
      refine snapshot_probe (List.nodup_singleton _) (List.nodup_singleton _) (nodup_ids_probeService ?_) (List.nodup_singleton _)
      rw [List.map_map]
      exact (List.map_id g.bindingIds.dedup).symm ▸ List.nodup_dedup _
    have hsame := h (groupProbe category old) rfl (hsnapshot old) (List.mem_singleton_self old) (happly ▸ hsnapshot new)
      oneSweep oneSweep [] [] [] []
    rw [happly] at hsame
    have hiff : old.groupType = .requestPath ↔ new.groupType = .requestPath := by
      rw [← path_iff_requestPath category hlist, ← path_iff_requestPath category (hids.trans hlist),
        hsame.2, hid]
    cases hold : old.groupType <;> cases hnew : new.groupType <;> simp_all

section services

variable {old new : Inventory.Service}

theorem isBoundTo_of_boundAt {s : Inventory.Service} {bindingId interfaceId : Uuid} (h : boundAt s bindingId = some interfaceId) :
    isBoundTo s interfaceId = true := by
  obtain ⟨b, hb, hid⟩ := Option.bind_eq_some_iff.mp h
  exact isBoundTo_iff.mpr ⟨b, List.mem_of_find?_eq_some hb, hid⟩

theorem snapshot_of_bindings {s : Inventory.Service} (h : (s.base.bindings.map (fun b => b.id)).Nodup)
    {options : TopologyRequestOptions} {hostId interfaceId : Uuid} {groups : List Group} (hgroups : (groups.map (fun g => g.id)).Nodup) :
    Snapshot (probe category options hostId lan [interfaceId] [s] groups) :=
  snapshot_probe (List.nodup_singleton _) (List.nodup_singleton _) (by rwa [List.flatMap_singleton]) hgroups

theorem apply_probe (hid : new.id = old.id) {options : TopologyRequestOptions} {hostId : Uuid} {interfaceIds : List Uuid}
    {groups : List Group} : (EntityUpdate.service old new).apply (probe category options hostId lan interfaceIds [old] groups) =
      probe category options hostId lan interfaceIds [new] groups := by
  simp [EntityUpdate.apply, probe, replaced, hid]

theorem boundAt_of_unnoticed (hvalid : (EntityUpdate.service old new).Valid)
    (hbound : ∀ interfaceId, isBoundTo new interfaceId = isBoundTo old interfaceId)
    (h : EntityUpdate.Unnoticed category (.service old new)) (bindingId : Uuid) : boundAt new bindingId = boundAt old bindingId := by
  obtain ⟨hid, hold, hnew⟩ := hvalid
  refine Option.ext (fun interfaceId => ?_)
  by_cases hto : isBoundTo old interfaceId = true
  · have hsame := h (bindingProbe category bindingId interfaceId old) rfl (snapshot_of_bindings hold (List.nodup_singleton _))
      (List.mem_singleton_self old) (apply_probe hid ▸ snapshot_of_bindings hnew (List.nodup_singleton _))
      oneSweep oneSweep [] [] [] []
    rw [bindingProbe, apply_probe hid] at hsame
    rw [← path_iff_boundAt category hto, ← path_iff_boundAt category ((hbound _).trans hto),
      bindingProbe, bindingProbe, hsame.2]
  · refine iff_of_false (fun hat => hto ?_) (fun hat => hto (isBoundTo_of_boundAt hat))
    rw [← hbound]
    exact isBoundTo_of_boundAt hat

theorem zone_of_unnoticed (hvalid : (EntityUpdate.service old new).Valid) (hhost : new.base.hostId = old.base.hostId)
    {interfaceId : Uuid} (hto : isBoundTo old interfaceId = true) (hto' : isBoundTo new interfaceId = true)
    (h : EntityUpdate.Unnoticed category (.service old new)) (leftZone : List ServiceCategory) (gateways : Bool) :
    (leftZone.contains (category new.base.serviceDefinition) || (gateways && new.base.serviceDefinition.isGateway)) =
      (leftZone.contains (category old.base.serviceDefinition) || (gateways && old.base.serviceDefinition.isGateway)) := by
  obtain ⟨hid, hold, hnew⟩ := hvalid
  have hsame := h (zoneProbe category leftZone gateways old.base.hostId interfaceId old) rfl
    (snapshot_of_bindings hold List.nodup_nil) (List.mem_singleton_self old)
    (apply_probe hid ▸ snapshot_of_bindings hnew List.nodup_nil) oneSweep oneSweep [] [] [] []
  rw [zoneProbe, apply_probe hid, ← hhost] at hsame
  refine zone_of_service hto' |>.mp ((hsame.1 _).mp ?_)
  rw [hhost]
  exact (zone_of_service hto).mpr rfl

end services

theorem harmless_of_unnoticed {u : EntityUpdate} (hvalid : u.Valid) (hquiet : u.triggersStaleness = false)
    (h : u.Unnoticed category) : u.Harmless category := by
  cases u with
  | host old new => trivial
  | interface old new => trivial
  | port old new => trivial
  | service old new =>
    simp only [EntityUpdate.triggersStaleness, Service.triggersStaleness, Bool.or_eq_false_iff, decide_eq_false_iff_not, ne_eq,
      not_not] at hquiet
    obtain ⟨⟨htypes, hhost⟩, -⟩ := hquiet
    have hbound (interfaceId : Uuid) : isBoundTo new interfaceId = isBoundTo old interfaceId := by
      have hmap := congrArg (List.map BindingType.interfaceId) htypes
      rw [List.map_map, List.map_map] at hmap
      exact congrArg (fun ids => ids.contains (some interfaceId)) hmap
    refine ⟨?_, boundAt_of_unnoticed hvalid hbound h⟩
    by_cases hnone : ∀ b ∈ old.base.bindings, b.base.bindingType.interfaceId = none
    · exact .inr hnone
    · refine .inl ?_
      simp only [not_forall] at hnone
      obtain ⟨b, hb, hspecific⟩ := hnone
      obtain ⟨interfaceId, hid⟩ := Option.ne_none_iff_exists'.mp hspecific
      have hto : isBoundTo old interfaceId = true := isBoundTo_iff.mpr ⟨b, hb, hid⟩
      have hzone := zone_of_unnoticed hvalid hhost hto ((hbound _).trans hto) h
      have hcategory := hzone [category old.base.serviceDefinition] false
      have hgateway := hzone [] true
      refine ⟨?_, ?_⟩
      · simpa using hcategory
      · simpa using hgateway
  | subnet old new => exact bridge_of_unnoticed hvalid h
  | group old new =>
    have hids : new.bindingIds = old.bindingIds := by
      simpa only [EntityUpdate.triggersStaleness, Group.triggersStaleness, decide_eq_false_iff_not, ne_eq, not_not] using hquiet
    exact groupType_of_unnoticed hvalid hids h

end harm

/-- An update that is not to make topologies stale leaves all diagrams as they are when and only when it leaves what they read
and `triggers_staleness` does not look at: bridges among the subnets, the zones of services, where bindings are, and the types
of groups with edges. -/
theorem quiet_update_unnoticed_iff (category : ServiceDefinition → ServiceCategory) (u : EntityUpdate) (hvalid : u.Valid)
    (hquiet : u.triggersStaleness = false) : u.Unnoticed category ↔ u.Harmless category := by
  refine ⟨harmless_of_unnoticed hvalid hquiet, fun hharmless => ?_⟩
  rintro ctx rfl hctx hof hctx' drawing drawing' oldNodes oldNodes' oldEdges oldEdges'
  obtain ⟨h⟩ := EntityUpdate.relabelled hvalid hquiet hharmless hctx hof hctx'
  exact h.sameDiagram drawing drawing' oldNodes oldNodes' oldEdges oldEdges'

/-- The subnet is renamed. -/
def renamed : Subnet := { lan with base := { lan.base with name := "office" } }

theorem renamed_subnet_unnoticed : EntityUpdate.Unnoticed (fun _ => .unknown) (.subnet lan renamed) :=
  (quiet_update_unnoticed_iff (fun _ => .unknown) (.subnet lan renamed) rfl rfl).mpr rfl

/-- The subnet turns out to be a bridge. -/
def bridge : Subnet := { lan with base := { lan.base with subnetType := .dockerBridge } }

theorem bridge_noticed : ¬ ∀ (category : ServiceDefinition → ServiceCategory) (u : EntityUpdate), u.Valid →
    u.triggersStaleness = false → u.Unnoticed category := by
  intro h
  have hunnoticed := h (fun _ => .unknown) (.subnet lan bridge) rfl rfl
  have hsame : bridge.base.subnetType.isDockerBridge = lan.base.subnetType.isDockerBridge := bridge_of_unnoticed rfl hunnoticed
  cases hsame

end VantageNet.Graph
