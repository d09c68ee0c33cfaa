import VantageNet.Services.Discovering

/-!
Which ports a match claims. Patterns on ports are asked about the unbound ones, patterns on responses are not.
-/

namespace VantageNet.Services

open Interaction Inventory
open Scanning (sortedPorts nodup_sortedPorts mem_sortedPorts)

mutual

def Pattern.customFree : Pattern → Bool
  | .custom .. => false
  | .not pattern => pattern.customFree
  | .anyOf patterns | .allOf patterns => customFreeOf patterns
  | _ => true

def customFreeOf : List Pattern → Bool
  | [] => true
  | p :: rest => p.customFree && customFreeOf rest

end

section reported

variable {library : Library} {registry : ServiceDefinitionRegistry} {params : DiscoverySessionServiceMatchParams}

structure Reported (params : DiscoverySessionServiceMatchParams) (ports : List PortConfig) : Prop where
  nodup : ports.Nodup
  known : ∀ p ∈ ports, p ∈ params.serviceParams.unboundPorts ∨
    ∃ response ∈ params.baselineParams.endpointResponses, response.endpoint.portType = p

theorem Reported.nil : Reported params [] := ⟨List.nodup_nil, fun _ hp => absurd hp List.not_mem_nil⟩

theorem Reported.single {p : PortConfig} (hp : p ∈ params.serviceParams.unboundPorts ∨
    ∃ response ∈ params.baselineParams.endpointResponses, response.endpoint.portType = p) : Reported params [p] :=
  ⟨List.nodup_singleton p, fun _ hq => List.mem_singleton.mp hq ▸ hp⟩

theorem Reported.response {response : EndpointResponse} (hmem : response ∈ params.baselineParams.endpointResponses)
    (reason : String) : Reported params (fromResponse response reason).ports :=
  .single (.inr ⟨response, hmem, rfl⟩)

theorem mem_matched {results : List (Except String MatchResult)} {result : MatchResult} :
    result ∈ matched results ↔ .ok result ∈ results := by
  rw [matched, List.mem_filterMap]
  constructor
  · rintro ⟨x, hx, hsome⟩
    cases x with
    | error e => exact absurd hsome nofun
    | ok y => exact Option.some.inj hsome ▸ hx
  · exact fun h => ⟨_, h, rfl⟩

theorem Reported.collected {results : List (Except String MatchResult)}
    (h : ∀ result, .ok result ∈ results → Reported params result.ports)
    (name : String) (confidence : MatchConfidence) :
    Reported params (collected name (matched results) confidence).ports := by
  refine ⟨nodup_sortedPorts _, fun p hp => ?_⟩
  obtain ⟨result, hresult, hp⟩ := List.mem_flatMap.mp ((mem_sortedPorts _ p).mp hp)
  exact (h result (mem_matched.mp hresult)).known p hp

theorem reported_matchesPort {portBase : PortType} {result : MatchResult}
    (h : matchesPort registry params portBase = .ok result) : Reported params result.ports := by
  unfold matchesPort at h
  split at h
  · exact absurd h nofun
  · rename_i p hfind
    cases h
    exact .single (.inl (List.mem_of_find?_eq_some hfind))

theorem reported_matchesHeader {portBase : Option PortType} {header value : String} {range : Option StatusRange}
    {result : MatchResult}
    (h : matchesHeader library params portBase header value range = .ok result) : Reported params result.ports := by
  unfold matchesHeader at h
  split at h
  · exact absurd h nofun
  · rename_i response hfind
    cases h
    exact .response (List.mem_of_find?_eq_some hfind) _

theorem reported_matchesEndpoint {portBase : PortType} {path matchString : String} {range : Option StatusRange}
    {result : MatchResult} (h : matchesEndpoint library params portBase path matchString range = .ok result) :
    Reported params result.ports := by
  unfold matchesEndpoint at h
  split at h
  · exact absurd h nofun
  · rename_i response hfind
    cases h
    exact .response (List.mem_of_find?_eq_some hfind) _

theorem ports_matchesMacVendor {vendor : String} {result : MatchResult}
    (h : matchesMacVendor library params vendor = .ok result) : result.ports = [] := by
  unfold matchesMacVendor at h
  repeat' split at h
  all_goals cases h
  rfl

theorem ports_matchesGateway {result : MatchResult} (h : matchesGateway library params = .ok result) :
    result.ports = [] := by
  unfold matchesGateway at h
  dsimp only at h
  split_ifs at h
  all_goals cases h; rfl

theorem ports_matchesNot {inner : Except String MatchResult} {result : MatchResult}
    (h : matchesNot inner = .ok result) :
    result.ports = [] := by
  cases inner with
  | ok r => exact absurd h nofun
  | error e => cases h; rfl

mutual

/-- The ports of a match are told apart, and each of them is unbound or has answered. -/
theorem reported_matches : (pattern : Pattern) → pattern.customFree = true → {result : MatchResult} →
    Pattern.matches library registry params pattern = .ok result → Reported params result.ports
  | .anyOf patterns, hfree, result, h => by
    rw [Pattern.matches, matchesAnyOf] at h
    split_ifs at h
    cases h
    exact .collected (fun result => reported_matchesOf patterns hfree) _ _
  | .allOf patterns, hfree, result, h => by
    rw [Pattern.matches, matchesAllOf] at h
    split_ifs at h
    cases h
    exact .collected (fun result => reported_matchesOf patterns hfree) _ _
  | .not _, _, _, h => ports_matchesNot h ▸ .nil
  | .port _, _, _, h => reported_matchesPort h
  | .endpoint .., _, _, h => reported_matchesEndpoint h
  | .header .., _, _, h => reported_matchesHeader h
  | .subnetIsType subnetType, _, result, h => by
    rw [Pattern.matches, matchesSubnetType] at h
    split_ifs at h
    cases h
    exact .nil
  | .isGateway, _, _, h => ports_matchesGateway h ▸ .nil
  | .macVendor _, _, _, h => ports_matchesMacVendor h ▸ .nil
  | .custom .., hfree, _, _ => absurd hfree nofun
  | .dockerContainer, _, result, h => by
    rw [Pattern.matches, matchesDockerContainer] at h
    split_ifs at h
    cases h
    exact .nil
  | .none, _, _, h => absurd h nofun

theorem reported_matchesOf : (patterns : List Pattern) → customFreeOf patterns = true → {result : MatchResult} →
    .ok result ∈ matchesOf library registry params patterns → Reported params result.ports
  | [], _, _, h => absurd h List.not_mem_nil
  | p :: rest, hfree, _, h => by
    rw [customFreeOf, Bool.and_eq_true] at hfree
    rcases List.mem_cons.mp h with h | h
    · exact reported_matches p hfree.1 h.symm
    · exact reported_matchesOf rest hfree.2 h

end

end reported

section turns

variable {library : Library} {registry : ServiceDefinitionRegistry} {drawing : Drawing} {session : DiscoverySession}
  {baselineParams : ServiceMatchBaselineParams} {state : Discovering} {definition : RegisteredDefinition}

/-- The ports of the match of a definition whose turn it is. -/
def Discovering.claimed (library : Library) (registry : ServiceDefinitionRegistry) (session : DiscoverySession)
    (baselineParams : ServiceMatchBaselineParams) (state : Discovering) (definition : RegisteredDefinition) : List PortConfig :=
  match Pattern.matches library registry (state.params session baselineParams definition) definition.discoveryPattern with
  | .ok result => result.ports
  | .error _ => []

def portTypes (ports : List Port) : List PortConfig := ports.map (fun port => port.base.portType)

@[simp] theorem portTypes_append (a b : List Port) : portTypes (a ++ b) = portTypes a ++ portTypes b := List.map_append

@[simp] theorem portTypes_discoveredPorts (drawn : ℕ) (ports : List PortConfig) :
    portTypes (discoveredPorts drawing drawn ports) = ports := by
  refine List.ext_getElem? (fun i => ?_)
  simp only [portTypes, discoveredPorts, newHostless, List.getElem?_map, List.getElem?_mapIdx, Option.map_map]
  exact Option.map_id'

@[simp] theorem length_discoveredPorts (drawn : ℕ) (ports : List PortConfig) :
    (discoveredPorts drawing drawn ports).length = ports.length := List.length_mapIdx

/-- A turn that adds nothing. -/
structure Unchanged (state state' : Discovering) : Prop where
  services : state'.services = state.services
  hostPorts : state'.hostPorts = state.hostPorts
  unboundPorts : state'.unboundPorts = state.unboundPorts
  drawn : state.drawn ≤ state'.drawn

/-- A turn that adds a service with the ports `claimed`. -/
structure Adds (drawing : Drawing) (interfaceId : Uuid) (claimed : List PortConfig) (service : Inventory.Service)
    (state state' : Discovering) : Prop where
  bindings : service.base.bindings = discoveredBindings drawing (state.drawn + claimed.length) interfaceId
    (discoveredPorts drawing state.drawn claimed)
  services : state'.services = state.services ++ [service]
  hostPorts : state'.hostPorts = state.hostPorts ++ discoveredPorts drawing state.drawn claimed
  unboundPorts : state'.unboundPorts = state.unboundPorts.filter (fun p => p ∉ claimed)
  drawn : state.drawn + claimed.length ≤ state'.drawn

theorem fromDiscovery_ok (drawing : Drawing) (drawn : ℕ) {params : DiscoverySessionServiceMatchParams}
    {result : MatchResult}
    (h : Pattern.matches library registry params definition.discoveryPattern = .ok result) :
    ∃ service drawn', fromDiscovery library registry drawing drawn definition params =
        some (service, discoveredPorts drawing drawn result.ports, result.endpoint, drawn') ∧
      service.base.bindings = discoveredBindings drawing
        (drawn + result.ports.length) params.baselineParams.interface.id
        (discoveredPorts drawing drawn result.ports) ∧ drawn + result.ports.length ≤ drawn' := by
  rw [fromDiscovery, h]
  refine ⟨_, _, rfl, ?_, ?_⟩
  · dsimp only
    rw [length_discoveredPorts]
  · rw [length_discoveredPorts]
    omega

theorem turn_cases (state : Discovering) (definition : RegisteredDefinition) :
    let state' := state.turn library registry drawing session baselineParams definition
    let claimed := state.claimed library registry session baselineParams definition
    Unchanged state state' ∧ (state.containerMatched = true ∨ claimed = []) ∨
      state.containerMatched = false ∧ ∃ service, Adds drawing baselineParams.interface.id claimed service state state' := by
  intro state' claimed
  have hstate' : state' = state.turn library registry drawing session baselineParams definition := rfl
  rw [Discovering.turn] at hstate'
  cases hmatch : Pattern.matches library registry (state.params session baselineParams definition) definition.discoveryPattern with
  | error e =>
    rw [fromDiscovery, hmatch] at hstate'
    exact .inl ⟨hstate' ▸ ⟨rfl, rfl, rfl, le_rfl⟩, .inr (by unfold claimed; rw [Discovering.claimed, hmatch])⟩
  | ok result =>
    have hclaimed : claimed = result.ports := by
      unfold claimed
      rw [Discovering.claimed, hmatch]
    obtain ⟨service, drawn', hsome, hbindings, hdrawn⟩ := fromDiscovery_ok drawing state.drawn hmatch
    rw [hsome] at hstate'
    dsimp only at hstate'
    split_ifs at hstate' with hcontainer
    · exact .inl ⟨hstate' ▸ ⟨rfl, rfl, rfl, by dsimp only; omega⟩, .inl hcontainer⟩
    · refine .inr ⟨Bool.eq_false_iff.mpr hcontainer, service, ?_⟩
      rw [hclaimed, hstate']
      refine ⟨hbindings, rfl, rfl, ?_, hdrawn⟩
      dsimp only
      rw [← portTypes, portTypes_discoveredPorts]

end turns

end VantageNet.Services
