import VantageNet.Services.Claims
import Mathlib.Data.List.Perm.Basic
import Mathlib.Data.Set.Function

/-!
Every port of a host is returned once and bound by one service at most as long as no match claims a port that is bound already.
-/

namespace VantageNet.Services

open Interaction Inventory

section accounting

variable {library : Library} {registry : ServiceDefinitionRegistry} {drawing : Drawing} {session : DiscoverySession}
  {baselineParams : ServiceMatchBaselineParams} {state state' : Discovering} {definition : RegisteredDefinition}

/-- While no container has matched, a match claims unbound ports only. -/
def Undisputed (library : Library) (registry : ServiceDefinitionRegistry) (session : DiscoverySession)
    (baselineParams : ServiceMatchBaselineParams) (state : Discovering) (definition : RegisteredDefinition) : Prop :=
  state.containerMatched = true ∨
    ∀ p ∈ state.claimed library registry session baselineParams definition, p ∈ state.unboundPorts

def BoundWithin (interfaceId : Uuid) (ports : List Port) (service : Inventory.Service) : Prop :=
  ∀ b ∈ service.base.bindings, b.base.bindingType = .interface interfaceId ∨
    ∃ port ∈ ports, b.base.bindingType = .port port.id (some interfaceId)

/-- No port of `ports` is bound by both. -/
def ShareNone (ports : List Port) (s t : Inventory.Service) : Prop :=
  ∀ p ∈ ports, ∀ q ∈ ports, p.id ∈ s.portIds → q.id ∈ t.portIds → p.base.portType ≠ q.base.portType

/-- What is returned accounts for `allPorts`. -/
structure PortsAccounted (allPorts : List PortConfig) (interfaceId : Uuid) (services : List Inventory.Service)
    (ports : List Port) : Prop where
  returned : (portTypes ports).Perm allPorts
  bindings : ∀ s ∈ services, BoundWithin interfaceId ports s
  claims : services.Pairwise (ShareNone ports)

/-- What a turn keeps when it is undisputed. -/
structure Accounted (drawing : Drawing) (baselineParams : ServiceMatchBaselineParams) (state : Discovering) : Prop where
  ports : (portTypes state.hostPorts ++ state.unboundPorts).Perm baselineParams.allPorts
  bindings : ∀ s ∈ state.services, BoundWithin baselineParams.interface.id state.hostPorts s
  drawn : ∀ s ∈ state.services, ∀ id ∈ s.portIds, ∃ k < state.drawn, id = drawing.fresh k
  apart : Set.InjOn drawing.fresh (Set.Iio state.drawn) → state.services.Pairwise (fun s t => ∀ id ∈ s.portIds, id ∉ t.portIds)

instance : Decidable (Undisputed library registry session baselineParams state definition) := by
  unfold Undisputed
  infer_instance

theorem accounted_start : Accounted drawing baselineParams (.start baselineParams) where
  ports := .refl _
  bindings := fun _ hs => absurd hs List.not_mem_nil
  drawn := fun _ hs => absurd hs List.not_mem_nil
  apart := fun _ => .nil

/-- The chosen ones first. -/
theorem perm_take_out {α : Type} [DecidableEq α] {chosen l : List α} (hl : l.Nodup) (hchosen : chosen.Nodup)
    (hsub : ∀ x ∈ chosen, x ∈ l) : (chosen ++ l.filter (fun x => x ∉ chosen)).Perm l := by
  have hperm : (l.filter (fun x => x ∈ chosen)).Perm chosen := by
    refine (List.perm_ext_iff_of_nodup (hl.filter _) hchosen).mpr (fun x => ?_)
    rw [List.mem_filter, decide_eq_true_iff]
    exact ⟨And.right, fun hx => ⟨hsub x hx, hx⟩⟩
  have hsplit := List.filter_append_perm (fun x => decide (x ∈ chosen)) l
  simp only [← decide_not] at hsplit
  exact (hperm.symm.append_right _).trans hsplit

theorem bindings_discoveredPorts {claimed : List PortConfig} {ports : List Port} {service : Inventory.Service}
    (h : Adds drawing baselineParams.interface.id claimed service state state')
    (hports : ∀ port ∈ discoveredPorts drawing state.drawn claimed, port ∈ ports) :
    BoundWithin baselineParams.interface.id ports service := by
  intro b hb
  rw [h.bindings, discoveredBindings] at hb
  split_ifs at hb
  · exact .inl (List.mem_singleton.mp hb ▸ rfl)
  · obtain ⟨i, hi, rfl⟩ := List.mem_mapIdx.mp hb
    exact .inr ⟨_, hports _ (List.getElem_mem hi), rfl⟩

/-- The ports that a turn binds have just been drawn. -/
theorem drawn_portIds {interfaceId : Uuid} {claimed : List PortConfig} {service : Inventory.Service}
    (h : Adds drawing interfaceId claimed service state state') {id : Uuid} (hid : id ∈ service.portIds) :
    ∃ k, state.drawn ≤ k ∧ k < state'.drawn ∧ id = drawing.fresh k := by
  obtain ⟨b, hb, hid⟩ := List.mem_filterMap.mp hid
  rw [h.bindings, discoveredBindings] at hb
  split_ifs at hb
  · rw [List.mem_singleton.mp hb] at hid
    exact absurd hid nofun
  · obtain ⟨i, hi, rfl⟩ := List.mem_mapIdx.mp hb
    obtain rfl := Option.some.inj hid
    have hlt : i < claimed.length := by rwa [length_discoveredPorts] at hi
    have hdrawn := h.drawn
    refine ⟨state.drawn + i, by omega, by omega, ?_⟩
    simp only [discoveredPorts, List.getElem_mapIdx, newHostless]

theorem BoundWithin.mono {interfaceId : Uuid} {ports ports' : List Port} {service : Inventory.Service}
    (h : BoundWithin interfaceId ports service) (hsub : ∀ port ∈ ports, port ∈ ports') :
    BoundWithin interfaceId ports' service :=
  fun b hb => (h b hb).imp_right (fun ⟨port, hport, heq⟩ => ⟨port, hsub port hport, heq⟩)

theorem Accounted.unchanged (hstate : Accounted drawing baselineParams state) (h : Unchanged state state') :
    Accounted drawing baselineParams state' where
  ports := by rw [h.hostPorts, h.unboundPorts]; exact hstate.ports
  bindings := by rw [h.services, h.hostPorts]; exact hstate.bindings
  drawn := by
    rw [h.services]
    intro s hs id hid
    obtain ⟨k, hk, heq⟩ := hstate.drawn s hs id hid
    exact ⟨k, hk.trans_le h.drawn, heq⟩
  apart := by
    rw [h.services]
    exact fun hinj => hstate.apart (hinj.mono (Set.Iio_subset_Iio h.drawn))

theorem Accounted.adds (hstate : Accounted drawing baselineParams state) (hall : baselineParams.allPorts.Nodup)
    {claimed : List PortConfig} {service : Inventory.Service}
    (h : Adds drawing baselineParams.interface.id claimed service state state') (hclaimed : claimed.Nodup)
    (hunbound : ∀ p ∈ claimed, p ∈ state.unboundPorts) : Accounted drawing baselineParams state' where
  ports := by
    have hnodup : state.unboundPorts.Nodup := (List.nodup_append.mp (hstate.ports.nodup_iff.mpr hall)).2.1
    rw [h.hostPorts, h.unboundPorts, portTypes_append, portTypes_discoveredPorts, List.append_assoc]
    exact ((perm_take_out hnodup hclaimed hunbound).append_left _).trans hstate.ports
  bindings := by
    rw [h.services, h.hostPorts]
    intro s hs
    rcases List.mem_append.mp hs with hs | hs
    · exact (hstate.bindings s hs).mono (fun _ hport => List.mem_append_left _ hport)
    · obtain rfl := List.mem_singleton.mp hs
      exact bindings_discoveredPorts h (fun _ hport => List.mem_append_right _ hport)
  drawn := by
    have hdrawn := h.drawn
    rw [h.services]
    intro s hs id hid
    rcases List.mem_append.mp hs with hs | hs
    · obtain ⟨k, hk, heq⟩ := hstate.drawn s hs id hid
      exact ⟨k, by omega, heq⟩
    · obtain rfl := List.mem_singleton.mp hs
      obtain ⟨k, -, hk, heq⟩ := drawn_portIds h hid
      exact ⟨k, hk, heq⟩
  apart := by
    have hdrawn := h.drawn
    intro hinj
    have hold := hstate.apart (hinj.mono (Set.Iio_subset_Iio (by omega)))
    rw [h.services]
    refine List.pairwise_append.mpr ⟨hold, List.pairwise_singleton _ _, fun s hs t ht id hid hid' => ?_⟩
    obtain rfl := List.mem_singleton.mp ht
    obtain ⟨k, hk, heq⟩ := hstate.drawn s hs id hid
    obtain ⟨l, hl, hl', heq'⟩ := drawn_portIds h hid'
    have hkl : k = l := hinj (show k < state'.drawn by omega) hl' (heq.symm.trans heq')
    omega

theorem claimed_reported (hfree : definition.discoveryPattern.customFree = true) :
    Reported (state.params session baselineParams definition)
      (state.claimed library registry session baselineParams definition) := by
  unfold Discovering.claimed
  split
  · exact reported_matches _ hfree ‹_›
  · exact .nil

theorem Accounted.turn (hstate : Accounted drawing baselineParams state) (hall : baselineParams.allPorts.Nodup)
    (hfree : definition.discoveryPattern.customFree = true)
    (hok : Undisputed library registry session baselineParams state definition) :
    Accounted drawing baselineParams (state.turn library registry drawing session baselineParams definition) := by
  rcases turn_cases state definition with ⟨h, -⟩ | ⟨hcontainer, service, h⟩
  · exact hstate.unchanged h
  · exact hstate.adds hall h (claimed_reported hfree).nodup (hok.resolve_left (by rw [hcontainer]; exact nofun))

/-- A disputed port is returned twice. -/
theorem Accounted.disputed (hstate : Accounted drawing baselineParams state)
    (hresponses : ∀ response ∈ baselineParams.endpointResponses, response.endpoint.portType ∈ baselineParams.allPorts)
    (hfree : definition.discoveryPattern.customFree = true)
    (hnot : ¬ Undisputed library registry session baselineParams state definition) :
    ¬ (portTypes (state.turn library registry drawing session baselineParams definition).hostPorts).Nodup := by
  obtain ⟨hcontainer, hclaim⟩ := not_or.mp hnot
  obtain ⟨p, hp⟩ := not_forall.mp hclaim
  obtain ⟨hp, hbound⟩ := Classical.not_imp.mp hp
  rcases turn_cases state definition with ⟨-, h | h⟩ | ⟨-, service, h⟩
  · exact absurd h hcontainer
  · exact absurd h (List.ne_nil_of_mem hp)
  · intro hnodup
    rw [h.hostPorts, portTypes_append, portTypes_discoveredPorts] at hnodup
    have hall : p ∈ baselineParams.allPorts := by
      rcases (claimed_reported hfree).known p hp with hp | ⟨response, hresponse, rfl⟩
      · exact absurd hp hbound
      · exact hresponses response hresponse
    have hheld : p ∈ portTypes state.hostPorts :=
      (List.mem_append.mp (hstate.ports.mem_iff.mpr hall)).resolve_right hbound
    exact (List.nodup_append.mp hnodup).2.2 p hheld p hp rfl

theorem hostPorts_turn : ∃ more, (state.turn library registry drawing session baselineParams definition).hostPorts =
    state.hostPorts ++ more := by
  rcases turn_cases state definition with ⟨h, -⟩ | ⟨-, service, h⟩
  · exact ⟨[], by rw [h.hostPorts, List.append_nil]⟩
  · exact ⟨_, h.hostPorts⟩

theorem hostPorts_run (definitions : List RegisteredDefinition) (state : Discovering) :
    ∃ more, (definitions.foldl (Discovering.turn library registry drawing session baselineParams) state).hostPorts =
      state.hostPorts ++ more := by
  induction definitions generalizing state with
  | nil => exact ⟨[], (List.append_nil _).symm⟩
  | cons definition rest ih =>
    have hturn : ∃ more, (state.turn library registry drawing session baselineParams definition).hostPorts =
        state.hostPorts ++ more := hostPorts_turn
    obtain ⟨first, hfirst⟩ := hturn
    obtain ⟨more, hmore⟩ := ih (state.turn library registry drawing session baselineParams definition)
    exact ⟨first ++ more, by rw [List.foldl_cons, hmore, hfirst, List.append_assoc]⟩

/-- From the first disputed turn on a port is returned twice. -/
theorem undisputed_of_nodup (hall : baselineParams.allPorts.Nodup)
    (hresponses : ∀ response ∈ baselineParams.endpointResponses, response.endpoint.portType ∈ baselineParams.allPorts)
    (definitions : List RegisteredDefinition) (hfree : ∀ d ∈ definitions, d.discoveryPattern.customFree = true)
    (hstate : Accounted drawing baselineParams state)
    (hnodup : (portTypes (definitions.foldl (Discovering.turn library registry drawing session baselineParams) state).hostPorts).Nodup) :
    Meets (Discovering.turn library registry drawing session baselineParams)
      (Undisputed library registry session baselineParams) state definitions := by
  induction definitions generalizing state with
  | nil => trivial
  | cons definition rest ih =>
    have hdef := hfree definition List.mem_cons_self
    have hok : Undisputed library registry session baselineParams state definition := by
      by_contra hnot
      obtain ⟨more, hmore⟩ := hostPorts_run rest (state.turn library registry drawing session baselineParams definition)
      rw [List.foldl_cons, hmore, portTypes_append] at hnodup
      exact hstate.disputed hresponses hdef hnot (List.nodup_append.mp hnodup).1
    exact ⟨hok, ih (fun d hd => hfree d (List.mem_cons_of_mem _ hd)) (hstate.turn hall hdef hok) hnodup⟩

theorem mem_sortedServiceDefinitions (d : RegisteredDefinition) :
    d ∈ sortedServiceDefinitions registry ↔ d ∈ registry.allServiceDefinitions := List.mem_mergeSort

theorem Accounted.portsAccounted (hall : baselineParams.allPorts.Nodup)
    (hstate : Accounted drawing baselineParams (.last library registry drawing session baselineParams))
    (hfresh : Set.InjOn drawing.fresh (Set.Iio (Discovering.last library registry drawing session baselineParams).drawn)) :
    let found := discoverServices library registry drawing session baselineParams
    PortsAccounted baselineParams.allPorts baselineParams.interface.id found.1 found.2 := by
  have hperm : (portTypes (discoverServices library registry drawing session baselineParams).2).Perm baselineParams.allPorts := by
    rw [discoverServices, portTypes_append, portTypes_discoveredPorts]
    exact hstate.ports
  have hapart : ∀ {s t : Inventory.Service}, (∀ id ∈ s.portIds, id ∉ t.portIds) →
      ShareNone (discoverServices library registry drawing session baselineParams).2 s t := by
    intro s t hst p hp q hq hps hqt htype
    obtain rfl := List.inj_on_of_nodup_map (hperm.nodup_iff.mpr hall) hp hq htype
    exact hst p.id hps hqt
  have hsymm : ∀ {s t : Inventory.Service}, ShareNone
    (discoverServices library registry drawing session baselineParams).2 s t →
      ShareNone (discoverServices library registry drawing session baselineParams).2 t s :=
    fun hst p hp q hq hpt hqs => (hst q hq p hp hqs hpt).symm
  refine ⟨hperm, fun s hs => ?_, ?_⟩
  · exact (hstate.bindings s (List.mem_mergeSort.mp hs)).mono (fun _ hport => List.mem_append_left _ hport)
  · exact (List.mergeSort_perm _ _).symm.pairwise ((hstate.apart hfresh).imp hapart) hsymm

/-- Every port is returned once, and bound by one service at most, if and only if no match claims a port that is bound. -/
theorem ports_accounted_iff (library : Library) (registry : ServiceDefinitionRegistry) (drawing : Drawing)
    (session : DiscoverySession) (baselineParams : ServiceMatchBaselineParams) (hall : baselineParams.allPorts.Nodup)
    (hresponses : ∀ response ∈ baselineParams.endpointResponses, response.endpoint.portType ∈ baselineParams.allPorts)
    (hfree : ∀ d ∈ registry.allServiceDefinitions, d.discoveryPattern.customFree = true)
    (hfresh : Set.InjOn drawing.fresh (Set.Iio (Discovering.last library registry drawing session baselineParams).drawn)) :
    let found := discoverServices library registry drawing session baselineParams
    PortsAccounted baselineParams.allPorts baselineParams.interface.id found.1 found.2 ↔
      Meets (Discovering.turn library registry drawing session baselineParams)
        (Undisputed library registry session baselineParams) (.start baselineParams)
          (sortedServiceDefinitions registry) := by
  have hfree' : ∀ d ∈ sortedServiceDefinitions registry, d.discoveryPattern.customFree = true :=
    fun d hd => hfree d ((mem_sortedServiceDefinitions d).mp hd)
  constructor
  · intro h
    have hnodup := h.returned.nodup_iff.mpr hall
    rw [discoverServices, portTypes_append] at hnodup
    exact undisputed_of_nodup hall hresponses _ hfree' accounted_start (List.nodup_append.mp hnodup).1
  · intro h
    refine Accounted.portsAccounted hall ?_ hfresh
    exact Meets.invariant (Accounted drawing baselineParams)
      (fun state d hstate hok => hstate.turn hall hok.2 hok.1) accounted_start (h.and hfree')

end accounting

/-- Texts are in lower case, no vendor is known and texts shown to people are left out. -/
def plainTexts : Library := ⟨id, id, some fun _ => none, fun _ => "", fun _ => "", fun _ => "", fun _ => "", fun _ => ""⟩

/-- Two services that are recognised by a word on the same page. -/
def pages (words : List String) : ServiceDefinitionRegistry :=
  ⟨words.map (fun word => ⟨⟨word, false, false, false⟩, .endpoint ⟨http, false⟩ "/" word none⟩), fun _ => false⟩

def counting : Drawing := ⟨fun n => Fin.ofNat _ n, 0⟩

def localSession : DiscoverySession := ⟨1, 2, 3, .selfReport 1, []⟩

/-- A host whose only page reads `body`. -/
def webHost (body : String) : ServiceMatchBaselineParams :=
  ⟨⟨4, 0, 0, ⟨⟨.v4 0, 0⟩, 2, "", none, .lan, .system, []⟩⟩, ⟨5, 0, 0, ⟨2, 1, 4, .v4 7, none, none, 0⟩⟩, [http],
    [⟨.forPattern http "/", body, [], 200⟩], none⟩

theorem injOn_counting {n : ℕ} (hn : n ≤ 2 ^ 128) : Set.InjOn counting.fresh (Set.Iio n) := by
  intro a ha b hb heq
  have ha' : a < 2 ^ 128 := (Set.mem_Iio.mp ha).trans_le hn
  have hb' : b < 2 ^ 128 := (Set.mem_Iio.mp hb).trans_le hn
  have hval := congrArg Fin.val heq
  change a % 2 ^ 128 = b % 2 ^ 128 at hval
  rwa [Nat.mod_eq_of_lt ha', Nat.mod_eq_of_lt hb'] at hval

theorem sortedServiceDefinitions_pages (words : List String) :
    sortedServiceDefinitions (pages words) = (pages words).allServiceDefinitions := by
  refine List.mergeSort_of_pairwise (List.pairwise_map.mpr (List.pairwise_of_forall (fun _ _ => ?_)))
  exact decide_eq_true le_rfl

/-- A service that shares its port with no other. -/
theorem one_page_accounted :
    let found := discoverServices plainTexts (pages ["grafana"]) counting localSession (webHost "grafana")
    PortsAccounted [http] 5 found.1 found.2 := by
  refine (ports_accounted_iff plainTexts (pages ["grafana"]) counting localSession (webHost "grafana") (by decide) (by decide)
    (by decide) (injOn_counting ?_)).mpr ?_
  · rw [Discovering.last, sortedServiceDefinitions_pages]
    decide
  · rw [sortedServiceDefinitions_pages]
    decide

/-- A port that two services are recognised on. -/
theorem page_claimed_twice :
    let registry := pages ["grafana", "prometheus"]
    let host := webHost "grafana and prometheus"
    let found := discoverServices plainTexts registry counting localSession host
    host.allPorts.Nodup ∧ (∀ response ∈ host.endpointResponses, response.endpoint.portType ∈ host.allPorts) ∧
      (∀ d ∈ registry.allServiceDefinitions, d.discoveryPattern.customFree = true) ∧
      Set.InjOn counting.fresh (Set.Iio (Discovering.last plainTexts registry counting localSession host).drawn) ∧
      portTypes found.2 = [http, http] ∧ ¬ PortsAccounted host.allPorts host.interface.id found.1 found.2 := by
  intro registry host found
  have htwice : portTypes found.2 = [http, http] := by
    unfold found
    rw [discoverServices, portTypes_append, portTypes_discoveredPorts, Discovering.last, sortedServiceDefinitions_pages]
    decide
  refine ⟨by decide, by decide, by decide, injOn_counting ?_, htwice, fun h => ?_⟩
  · rw [Discovering.last, sortedServiceDefinitions_pages]
    decide
  · have hlength := h.returned.length_eq
    rw [htwice] at hlength
    exact absurd hlength (by decide)

end VantageNet.Services
