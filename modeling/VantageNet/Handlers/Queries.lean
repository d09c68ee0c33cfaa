import VantageNet.Storage.Filtering

/-! The query parameters of the list endpoints: `shared/handlers/query.rs`. -/

namespace VantageNet.Handlers

open Storage

/-- What `apply_to_filter` makes of a filter, the networks of the user and the organization of the user. -/
class FilterQueryExtractor (Q : Type) where
  applyToFilter : Q → EntityFilter → List Uuid → Uuid → EntityFilter

export FilterQueryExtractor (applyToFilter)

/-- The network of the query, if the user has access to it, or every network of the user. -/
def onNetwork (f : EntityFilter) (userNetworkIds : List Uuid) : Option Uuid → EntityFilter
  | some id => if userNetworkIds.contains id then f.networkIds [id] else f.networkIds []
  | none => f.networkIds userNetworkIds

/-- The filter with the condition of an optional parameter. -/
def filtered (f : EntityFilter) (condition : EntityFilter → Uuid → EntityFilter) : Option Uuid → EntityFilter
  | some id => condition f id
  | none => f

structure NetworkFilterQuery where
  networkId : Option Uuid

instance : FilterQueryExtractor NetworkFilterQuery where
  applyToFilter q f userNetworkIds _ := onNetwork f userNetworkIds q.networkId

structure NoFilterQuery where

instance : FilterQueryExtractor NoFilterQuery where
  applyToFilter _ f _ _ := f

structure HostChildQuery where
  hostId : Option Uuid
  networkId : Option Uuid

instance : FilterQueryExtractor HostChildQuery where
  applyToFilter q f userNetworkIds _ := filtered (onNetwork f userNetworkIds q.networkId) EntityFilter.hostId q.hostId

structure BindingQuery where
  serviceId : Option Uuid
  networkId : Option Uuid
  portId : Option Uuid
  interfaceId : Option Uuid

instance : FilterQueryExtractor BindingQuery where
  applyToFilter q f userNetworkIds _ :=
    let f := onNetwork f userNetworkIds q.networkId
    let f := filtered f EntityFilter.serviceId q.serviceId
    let f := filtered f (fun f id => f.uuidColumn "port_id" id) q.portId
    filtered f (fun f id => f.uuidColumn "interface_id" id) q.interfaceId

structure InterfaceQuery where
  hostId : Option Uuid
  subnetId : Option Uuid
  networkId : Option Uuid

instance : FilterQueryExtractor InterfaceQuery where
  applyToFilter q f userNetworkIds _ :=
    let f := onNetwork f userNetworkIds q.networkId
    let f := filtered f EntityFilter.subnetId q.subnetId
    filtered f EntityFilter.hostId q.hostId

structure DiscoveryQuery where
  networkId : Option Uuid
  daemonId : Option Uuid

instance : FilterQueryExtractor DiscoveryQuery where
  applyToFilter q f userNetworkIds _ :=
    filtered (onNetwork f userNetworkIds q.networkId) (fun f id => f.uuidColumn "daemon_id" id) q.daemonId

structure SharesQuery where
  networkId : Option Uuid
  topologyId : Option Uuid

instance : FilterQueryExtractor SharesQuery where
  applyToFilter q f userNetworkIds _ :=
    filtered (onNetwork f userNetworkIds q.networkId) (fun f id => f.uuidColumn "topology_id" id) q.topologyId

/-- `g` is `f` with more conditions. -/
def Narrows (f g : EntityFilter) : Prop := ∃ calls : List Storage.Call, (∀ call ∈ calls, call.named) ∧ g = calls.foldl Storage.Call.apply f

namespace Narrows

variable {f g h : EntityFilter}

theorem refl (f : EntityFilter) : Narrows f f := ⟨[], by simp, rfl⟩

theorem trans (hfg : Narrows f g) (hgh : Narrows g h) : Narrows f h := by
  obtain ⟨calls, hcalls, rfl⟩ := hfg
  obtain ⟨calls', hcalls', rfl⟩ := hgh
  refine ⟨calls ++ calls', fun call hcall => ?_, List.foldl_append.symm⟩
  rcases List.mem_append.mp hcall with hcall | hcall
  · exact hcalls call hcall
  · exact hcalls' call hcall

theorem call (f : EntityFilter) (call : Storage.Call) (hnamed : call.named) : Narrows f (call.apply f) :=
  ⟨[call], by simpa using hnamed, rfl⟩

theorem onNetwork (f : EntityFilter) (userNetworkIds : List Uuid) (networkId : Option Uuid) :
    Narrows f (onNetwork f userNetworkIds networkId) := by
  unfold Handlers.onNetwork
  split
  · split_ifs
    · exact call f (.networkIds _) trivial
    · exact call f (.networkIds _) trivial
  · exact call f (.networkIds _) trivial

theorem filtered {condition : EntityFilter → Uuid → EntityFilter} (hfg : Narrows f g)
    (hcondition : ∀ id, Narrows g (condition g id)) (id : Option Uuid) : Narrows f (filtered g condition id) := by
  cases id with
  | none => exact hfg
  | some id => exact hfg.trans (hcondition id)

end Narrows

/-- Whatever the parameters are, the query adds conditions to those of the filter and replaces none. -/
class LawfulQuery (Q : Type) [FilterQueryExtractor Q] : Prop where
  narrows : ∀ (q : Q) f userNetworkIds userOrganizationId, Narrows f (applyToFilter q f userNetworkIds userOrganizationId)

instance : LawfulQuery NetworkFilterQuery where
  narrows q f userNetworkIds _ := .onNetwork f userNetworkIds q.networkId

instance : LawfulQuery NoFilterQuery where
  narrows _ f _ _ := .refl f

instance : LawfulQuery HostChildQuery where
  narrows q f userNetworkIds _ := (Narrows.onNetwork f userNetworkIds q.networkId).filtered
    (fun id => .call _ (.hostId id) trivial) q.hostId

theorem named_uuidColumn {column : String} (hcolumn : Sql.isColumn column) (f : EntityFilter) (id : Uuid) :
    Narrows f (f.uuidColumn column id) :=
  .call f (.uuidColumn column id) hcolumn

instance : LawfulQuery BindingQuery where
  narrows q f userNetworkIds _ := by
    refine Narrows.filtered (Narrows.filtered (Narrows.filtered (.onNetwork f userNetworkIds q.networkId) ?_ _) ?_ _) ?_ _
    · exact fun id => .call _ (.serviceId id) trivial
    · exact named_uuidColumn (by decide) _
    · exact named_uuidColumn (by decide) _

instance : LawfulQuery InterfaceQuery where
  narrows q f userNetworkIds _ := by
    refine Narrows.filtered (Narrows.filtered (.onNetwork f userNetworkIds q.networkId) ?_ _) ?_ _
    · exact fun id => .call _ (.subnetId id) trivial
    · exact fun id => .call _ (.hostId id) trivial

instance : LawfulQuery DiscoveryQuery where
  narrows q f userNetworkIds _ :=
    (Narrows.onNetwork f userNetworkIds q.networkId).filtered (named_uuidColumn (by decide) _) q.daemonId

instance : LawfulQuery SharesQuery where
  narrows q f userNetworkIds _ :=
    (Narrows.onNetwork f userNetworkIds q.networkId).filtered (named_uuidColumn (by decide) _) q.topologyId

end VantageNet.Handlers
