import VantageNet.Containers.Bridge

/-!
When the bindings and ports of a container on a bridge are each sent once, whatever the order of the port maps.
-/

namespace VantageNet.Containers

open Interaction Inventory Services

/-- What is asked of the children of a host. -/
structure Clean (payload : Payload) : Prop where
  bindings : ((payload.services.flatMap (fun s => s.base.bindings)).map (fun b => b.base.bindingType)).Nodup
  implicit : ∀ s ∈ payload.services, ∀ b ∈ s.base.bindings, ∀ c ∈ s.base.bindings, ∀ interfaceId portId,
    b.base.bindingType = .interface interfaceId → c.base.bindingType ≠ .port portId (some interfaceId)
  interfaces : ∀ s ∈ payload.services, ∀ b ∈ s.base.bindings, ∀ id, b.base.bindingType.interfaceId = some id →
    ∃ i ∈ payload.interfaces, i.id = id
  ports : ∀ s ∈ payload.services, ∀ b ∈ s.base.bindings, ∀ id, b.base.bindingType.portId = some id →
    ∃ p ∈ payload.ports, p.id = id
  portTypes : (portTypes payload.ports).Nodup

/-- The interface of the payload that one off the bridges is taken to be. -/
def matchedOffBridge (interfaces : List Interface) (e : Interface × Subnets.Subnet) : Option Interface :=
  if e.2.base.subnetType.isDockerBridge then none else interfaces.find? (fun i => i.eq e.1)

/-- The interfaces that a port of the host IP is bound on. -/
def targets (interfaces : List Interface) (containerInterfacesAndSubnets : InterfacesAndSubnets) (ip : IpAddr) : List Interface :=
  match interfaces.find? (fun i => i.base.ipAddress = ip) with
  | some hostInterface => [hostInterface]
  | none =>
    if ip = allInterfacesIp then containerInterfacesAndSubnets.filterMap (matchedOffBridge interfaces) else []

/-- The ports of the host IP are bound. -/
def listens (interfaces : List Interface) (ip : IpAddr) : Bool :=
  interfaces.any (fun i => i.base.ipAddress = ip) || ip = allInterfacesIp

def bindingTypes (bindings : List Binding) : List BindingType := bindings.map (fun b => b.base.bindingType)

theorem find?_decide {α : Type} {q : α → Prop} [DecidablePred q] {l : List α} {a : α}
    (h : l.find? (fun b => decide (q b)) = some a) : a ∈ l ∧ q a :=
  ⟨List.mem_of_find?_eq_some h, of_decide_eq_true (List.find?_some (p := fun b => decide (q b)) h)⟩

section merging

variable {interface : Interface} {containerInterfacesAndSubnets : InterfacesAndSubnets}

theorem mem_mergeInterfaces (interface : Interface) (containerInterfacesAndSubnets : InterfacesAndSubnets) :
    interface ∈ mergeInterfaces interface containerInterfacesAndSubnets := by
  unfold mergeInterfaces
  refine List.foldlRecOn (motive := fun (interfaces : List Interface) => interface ∈ interfaces)
    containerInterfacesAndSubnets _ List.mem_cons_self (fun interfaces hmem e _ => ?_)
  split_ifs
  · exact hmem
  · exact List.mem_append_left _ hmem

end merging

section hostPorts

variable {drawing : Drawing} {interfaces : List Interface} {containerInterfacesAndSubnets : InterfacesAndSubnets} {t : Bound}
  {hostPort : IpAddr × PortConfig}

theorem mem_targets {ip : IpAddr} {i : Interface} (h : i ∈ targets interfaces containerInterfacesAndSubnets ip) :
    i ∈ interfaces ∧ listens interfaces ip = true := by
  unfold targets at h
  cases hfind : interfaces.find? (fun i => i.base.ipAddress = ip) with
  | some hostInterface =>
    rw [hfind] at h
    obtain rfl := List.mem_singleton.mp h
    obtain ⟨hmem, hip⟩ := find?_decide hfind
    exact ⟨hmem, Bool.or_eq_true_iff.mpr (.inl (List.any_eq_true.mpr ⟨i, hmem, decide_eq_true hip⟩))⟩
  | none =>
    rw [hfind] at h
    dsimp only at h
    split_ifs at h with hall
    · obtain ⟨e, -, he⟩ := List.mem_filterMap.mp h
      unfold matchedOffBridge at he
      split_ifs at he
      exact ⟨List.mem_of_find?_eq_some he, Bool.or_eq_true_iff.mpr (.inr (decide_eq_true hall))⟩
    · exact absurd h List.not_mem_nil

/-- What a pass over host ports adds: for each port that is bound a new one and its bindings. -/
def Grows (drawing : Drawing) (interfaces : List Interface) (containerInterfacesAndSubnets : InterfacesAndSubnets)
    (hostPorts : List (IpAddr × PortConfig)) (t t' : Bound) : Prop :=
  t.drawn ≤ t'.drawn ∧ ∃ added : List (ℕ × IpAddr × PortConfig),
    added.map Prod.snd = hostPorts.filter (fun h => listens interfaces h.1) ∧
    added.Pairwise (fun a b => a.1 < b.1) ∧ (∀ a ∈ added, t.drawn ≤ a.1 ∧ a.1 < t'.drawn) ∧
    t'.ports = t.ports ++ added.map (fun a => newHostless drawing (drawing.fresh a.1) a.2.2) ∧
    bindingTypes t'.bindings = bindingTypes t.bindings ++ added.flatMap (fun a =>
      (targets interfaces containerInterfacesAndSubnets a.2.1).map (fun i => .port (drawing.fresh a.1) (some i.id)))

theorem targets_of_not_listens {ip : IpAddr} (h : listens interfaces ip = false) :
    targets interfaces containerInterfacesAndSubnets ip = [] :=
  List.eq_nil_iff_forall_not_mem.mpr (fun _ hi => by rw [(mem_targets hi).2] at h; cases h)

end hostPorts

/-- What is known of a service and of the ports before the host's ports are bound. -/
structure Begun (drawing : Drawing) (interfaceId : Uuid) (t : Bound) : Prop where
  ids : (t.ports.map Entity.id).Nodup
  drawn : ∀ p ∈ t.ports, ∃ k < t.drawn, p.id = drawing.fresh k
  within : ∀ b ∈ t.bindings, b.base.bindingType = .interface interfaceId ∨
    ∃ port ∈ t.ports, b.base.bindingType = .port port.id (some interfaceId)
  nodup : (bindingTypes t.bindings).Nodup

section containerPorts

variable {drawing : Drawing} {interface : Interface} {t : Bound}

theorem Begun.bindContainerPort (h : Begun drawing interface.id t) (containerPort : PortConfig) :
    Begun drawing interface.id (bindContainerPort drawing interface t containerPort) := by
  unfold Containers.bindContainerPort
  cases hfind : t.ports.find? (fun p => p.base.portType = containerPort) with
  | none => exact h
  | some unmatched =>
    dsimp only
    split_ifs with hbound
    · exact h
    · refine ⟨h.ids, fun p hp => ?_, fun b hb => ?_, ?_⟩
      · obtain ⟨k, hk, hid⟩ := h.drawn p hp
        exact ⟨k, Nat.lt_succ_of_lt hk, hid⟩
      · rcases List.mem_append.mp hb with hb | hb
        · exact h.within b hb
        · exact .inr ⟨unmatched, (find?_decide hfind).1, by rw [List.mem_singleton.mp hb]; rfl⟩
      · rw [bindingTypes, List.map_append]
        refine h.nodup.append (List.nodup_singleton _) (List.disjoint_singleton.mpr (fun hmem => hbound ?_))
        obtain ⟨b, hb, htype⟩ := List.mem_map.mp hmem
        exact List.mem_filterMap.mpr ⟨b, hb, by rw [htype]; rfl⟩

end containerPorts

section grown

variable {drawing : Drawing} {interface : Interface} {interfaces : List Interface}
  {containerInterfacesAndSubnets : InterfacesAndSubnets} {hostPorts : List (IpAddr × PortConfig)} {t t' : Bound}

theorem Grows.mem_bindingTypes (h : Grows drawing interfaces containerInterfacesAndSubnets hostPorts t t')
    {b : Binding} (hb : b ∈ t'.bindings) : b.base.bindingType ∈ bindingTypes t.bindings ∨
      ∃ p ∈ t'.ports, ∃ i ∈ interfaces, b.base.bindingType = .port p.id (some i.id) := by
  obtain ⟨-, added, -, -, -, hports, htypes⟩ := h
  have htype : b.base.bindingType ∈ bindingTypes t'.bindings := List.mem_map_of_mem hb
  rw [htypes] at htype
  refine (List.mem_append.mp htype).imp_right (fun htype => ?_)
  obtain ⟨a, ha, htype⟩ := List.mem_flatMap.mp htype
  obtain ⟨i, hi, heq⟩ := List.mem_map.mp htype
  refine ⟨newHostless drawing (drawing.fresh a.1) a.2.2, ?_, i, (mem_targets hi).1, heq.symm⟩
  rw [hports]
  exact List.mem_append_right _ (List.mem_map_of_mem ha)

/-- Every binding is to the container's own interface or to a port and an interface that are there. -/
theorem Grows.refers (h : Grows drawing interfaces containerInterfacesAndSubnets hostPorts t t')
    (hbegun : Begun drawing interface.id t) (hinterface : interface ∈ interfaces) {b : Binding} (hb : b ∈ t'.bindings) :
    b.base.bindingType = .interface interface.id ∨
      ∃ p ∈ t'.ports, ∃ i ∈ interfaces, b.base.bindingType = .port p.id (some i.id) := by
  rcases h.mem_bindingTypes hb with htype | hnew
  · obtain ⟨c, hc, heq⟩ := List.mem_map.mp htype
    obtain ⟨-, added, -, -, -, hports, -⟩ := h
    refine (hbegun.within c hc).imp heq.symm.trans (fun hbound => ?_)
    obtain ⟨port, hport, hbound⟩ := hbound
    refine ⟨port, ?_, interface, hinterface, heq.symm.trans hbound⟩
    rw [hports]
    exact List.mem_append_left _ hport
  · exact .inr hnew

/-- What is sent of the one service. -/
def Bound.payload (interfaces : List Interface) (service : Inventory.Service) (t : Bound) : Payload :=
  ⟨interfaces, t.ports, [{ service with base := { service.base with bindings := dropSuperseded t.bindings } }], t.drawn⟩

end grown

section discovered

variable {library : Library} {registry : ServiceDefinitionRegistry} {drawing : Drawing} {session : DiscoverySession}
  {baselineParams : ServiceMatchBaselineParams} {state : Discovering}

/-- The services of a container: none, or the first that matched. -/
def OneService (drawing : Drawing) (interfaceId : Uuid) (state : Discovering) : Prop :=
  state.services = [] ∧ state.hostPorts = [] ∨
    state.containerMatched = true ∧ ∃ drawn claimed service, state.services = [service] ∧
      state.hostPorts = discoveredPorts drawing drawn claimed ∧
      service.base.bindings = discoveredBindings drawing (drawn + claimed.length) interfaceId
        (discoveredPorts drawing drawn claimed) ∧ drawn + claimed.length ≤ state.drawn

theorem containerMatched_turn (library : Library) (registry : ServiceDefinitionRegistry) (drawing : Drawing) (session : DiscoverySession)
    (hid : (baselineParams.virtualization.bind DockerVirtualization.containerId).isSome = true)
    (state : Discovering) (definition : RegisteredDefinition) :
    let state' := state.turn library registry drawing session baselineParams definition
    state'.containerMatched = true ∨ state'.containerMatched = state.containerMatched ∧ state'.services = state.services := by
  intro state'
  have hstate' : state' = state.turn library registry drawing session baselineParams definition := rfl
  rw [Discovering.turn, fromDiscovery] at hstate'
  cases hmatch : Pattern.matches library registry (state.params session baselineParams definition) definition.discoveryPattern with
  | error e =>
    rw [hmatch] at hstate'
    exact .inr (by rw [hstate']; exact ⟨rfl, rfl⟩)
  | ok result =>
    rw [hmatch] at hstate'
    dsimp only at hstate'
    split_ifs at hstate' with hmatched
    · exact .inr (by rw [hstate']; exact ⟨rfl, rfl⟩)
    · exact .inl (by rw [hstate']; exact hid)

theorem OneService.turn (hid : (baselineParams.virtualization.bind DockerVirtualization.containerId).isSome = true)
    (h : OneService drawing baselineParams.interface.id state) (definition : RegisteredDefinition) :
    OneService drawing baselineParams.interface.id (state.turn library registry drawing session baselineParams definition) := by
  have hcontainer := containerMatched_turn library registry drawing session hid state definition
  rcases @turn_cases library registry drawing session baselineParams state definition with ⟨hunchanged, -⟩ | ⟨hnot, service, hadds⟩
  · rcases h with ⟨hservices, hports⟩ | ⟨hmatched, drawn, claimed, service, hservices, hports, hbindings, hdrawn⟩
    · exact .inl ⟨hunchanged.services.trans hservices, hunchanged.hostPorts.trans hports⟩
    · refine .inr ⟨hcontainer.elim id (fun hsame => hsame.1.trans hmatched), drawn, claimed, service,
        hunchanged.services.trans hservices, hunchanged.hostPorts.trans hports, hbindings, hdrawn.trans hunchanged.drawn⟩
  · rcases h with ⟨hservices, hports⟩ | ⟨hmatched, -⟩
    · have hone := hadds.services
      rw [hservices, List.nil_append] at hone
      have hhost := hadds.hostPorts
      rw [hports, List.nil_append] at hhost
      refine .inr ⟨hcontainer.resolve_right (fun hsame => ?_), state.drawn, _, service, hone, hhost, hadds.bindings, hadds.drawn⟩
      rw [hone, hservices] at hsame
      exact absurd hsame.2 (List.cons_ne_nil _ _)
    · rw [hmatched] at hnot
      cases hnot

end discovered

/-- What a mapping publishes. -/
def Mapping.hostPair (m : Mapping) : IpAddr × PortConfig := (m.hostIp, ⟨m.hostPort, m.protocol⟩)

section published

variable {parse : String → Option IpAddr}

end published

namespace BridgeContainer

variable (library : Library) (registry : ServiceDefinitionRegistry) (drawing : Drawing) (session : DiscoverySession)
variable (parse : String → Option IpAddr) (container : BridgeContainer)

/-- The published ports of the host IPs that are an interface's or stand for all interfaces. -/
def published : List (IpAddr × PortConfig) :=
  ((mappings parse container.ports).map Mapping.hostPair).filter (fun h => listens container.interfaces h.1)

/-- The orders in which the map of the host's ports may be iterated. -/
abbrev IsOrder (entries : List (IpAddr × List PortConfig)) : Prop := Iterates (container.portMaps parse).hostIpToHostPorts entries

/-- The ids that were drawn for what `process_host` returned. -/
def drawnBefore : ℕ :=
  (Discovering.last library registry drawing session (container.baselineParams parse)).drawn +
    (Discovering.last library registry drawing session (container.baselineParams parse)).unboundPorts.length

variable {library registry drawing session parse container}

/-- The service and the ports before the ports of the host are bound. -/
def before (library : Library) (registry : ServiceDefinitionRegistry) (drawing : Drawing) (session : DiscoverySession)
    (parse : String → Option IpAddr) (container : BridgeContainer) (service : Inventory.Service) : Bound :=
  (container.containerPortsOnInterface parse).foldl (bindContainerPort drawing container.interface)
    ⟨service.base.bindings, (container.found library registry drawing session parse).2,
      container.drawnBefore library registry drawing session parse⟩

def after (library : Library) (registry : ServiceDefinitionRegistry) (drawing : Drawing) (session : DiscoverySession)
    (parse : String → Option IpAddr) (container : BridgeContainer) (service : Inventory.Service)
    (entries : List (IpAddr × List PortConfig)) : Bound :=
  (hostPairs entries).foldl (bindHostPort drawing container.interfaces container.containerInterfacesAndSubnets)
    (container.before library registry drawing session parse service)

theorem mem_interfaces : container.interface ∈ container.interfaces := mem_mergeInterfaces _ _

end BridgeContainer

def bridge : Interface × Subnets.Subnet :=
  (⟨5, 0, 0, ⟨2, 1, 4, .v4 7, none, none, 0⟩⟩, ⟨4, 0, 0, ⟨⟨.v4 0, 0⟩, 2, "", none, .dockerBridge, .system, []⟩⟩)

def lan : Interface × Subnets.Subnet :=
  (⟨6, 0, 0, ⟨2, 1, 8, .v4 9, none, none, 1⟩⟩, ⟨8, 0, 0, ⟨⟨.v4 8, 0⟩, 2, "", none, .lan, .system, []⟩⟩)

section web

variable {publicPort : UInt16}

end web
end VantageNet.Containers
