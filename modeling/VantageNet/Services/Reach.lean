import VantageNet.Services.Accounting
import VantageNet.Services.Extraction

/-!
A leaf sees on the gathered ports and responses what the host would tell it as long as it is among the leaves that are looked
for, under the port that it names.
-/

namespace VantageNet.Services

open Interaction Inventory
open Scanning (Endpoint HostBehaviour Schedule gather newUdp newTcp udpService)

/-- The leaf is about ports or about the responses of one port. -/
def Pattern.asksHost : Pattern → Bool
  | .port _ | .endpoint .. | .header (some _) .. => true
  | _ => false

/-- The request that an endpoint or header leaf is about, for whatever status. -/
def Pattern.ownRequest : Pattern → Option (PortConfig × String)
  | .endpoint portBase path _ _ => some (portBase.config, path)
  | .header (some portBase) _ _ _ => some (portBase.config, "/")
  | _ => Option.none

section reach

variable (library : Library) (registry : ServiceDefinitionRegistry) (host : HostBehaviour Answer) (ip : IpAddr)
  (isGateway : Bool)

def listens (p : PortConfig) : Bool :=
  match p.protocol with
  | .tcp => (host.tcp p.number).isSome
  | .udp => host.udp p.number = some p.number

def reply (number : UInt16) (path : String) : Option Answer := host.reply registry.definitions ip number path

def respond (p : PortConfig) (path : String) (answer : Answer) : EndpointResponse := responseOf (.forPattern p path, answer)

def ownPorts : Pattern → List PortConfig
  | .port portBase => if listens host portBase.config then [portBase.config] else []
  | _ => []

def ownResponses (leaf : Pattern) : List EndpointResponse :=
  match leaf.ownRequest with
  | none => []
  | some (p, path) => ((reply registry host ip p.number path).map (respond p path)).toList

/-- What a leaf finds when the host is asked for its own port and path. -/
def onEverything (params : DiscoverySessionServiceMatchParams) (leaf : Pattern) : Option (List PortConfig × MatchConfidence) :=
  verdict library registry params leaf (ownPorts host leaf) (ownResponses registry host ip leaf)

/-- What a leaf finds in what a scan for the registered patterns gathers. -/
def onGathered (σ : Schedule) (fdLimit : ℕ) (params : DiscoverySessionServiceMatchParams) (leaf : Pattern) :
    Option (List PortConfig × MatchConfidence) :=
  let scan := gather host registry.definitions σ ip isGateway fdLimit
  verdict library registry params leaf scan.openPorts (scan.responses.map responseOf)

/-- The port is found open because a leaf outside every `Not` names it. -/
def Probed (p : PortConfig) : Prop :=
  (p.protocol = .tcp ∧ registry.Names p ∧ (host.tcp p.number).isSome) ∨
    ∃ q, registry.Names q ∧ q.protocol = .udp ∧ (udpService host isGateway q.number).map newUdp = some p

/-- A leaf outside every `Not` has the path asked for on the port: it is the first one to name the port number with the path,
and where a `Port` leaf names the port as well, the port is found open. -/
def Asks (p : PortConfig) (path : String) : Prop :=
  registry.requested p.number path = some p ∧ (¬ registry.Names p ∨ (p.protocol = .tcp ∧ (host.tcp p.number).isSome))

/-- What the host would tell the leaf is looked for, and nothing else that the leaf takes for it. -/
def Reached : Pattern → Prop
  | .port portBase => listens host portBase.config ↔ (Probed registry host isGateway portBase.config ∨
      ∃ path, Asks registry host portBase.config path ∧ (reply registry host ip portBase.config.number path).isSome)
  | .endpoint portBase path matchString range => ∀ answer, reply registry host ip portBase.config.number path = some answer →
      answersEndpoint library portBase path matchString range (respond portBase.config path answer) →
      Asks registry host portBase.config path
  | .header (some portBase) header value range =>
      (∃ answer, reply registry host ip portBase.config.number "/" = some answer ∧
        answersHeader library none header value range (respond portBase.config "/" answer)) ↔
      ∃ path answer, Asks registry host portBase.config path ∧ reply registry host ip portBase.config.number path = some answer ∧
        answersHeader library none header value range (respond portBase.config path answer)
  | _ => True

variable {library registry host ip isGateway} {σ : Schedule} {fdLimit : ℕ} {params : DiscoverySessionServiceMatchParams}

theorem reaches_iff (p : PortConfig) :
    host.reaches registry.definitions p ↔ (¬ registry.Names p ∨ (p.protocol = .tcp ∧ (host.tcp p.number).isSome)) := by
  rw [HostBehaviour.reaches, ServiceDefinitionRegistry.mem_definitions_ports]

/-- The responses that are filed under a port. -/
theorem mem_responses_iff (p : PortConfig) (path : String) (answer : Answer) :
    (Endpoint.forPattern p path, answer) ∈ (gather host registry.definitions σ ip isGateway fdLimit).responses ↔
      Asks registry host p path ∧ reply registry host ip p.number path = some answer := by
  rw [Scanning.mem_gather_responses ServiceDefinitionRegistry.http_definitions, reaches_iff, Asks,
    ServiceDefinitionRegistry.requested_eq_some_iff, and_assoc]
  rfl

/-- All of them are answers to requests by http patterns. -/
theorem forPattern_of_mem_responses {e : Endpoint} {answer : Answer}
    (h : (e, answer) ∈ (gather host registry.definitions σ ip isGateway fdLimit).responses) :
    e = .forPattern e.portType e.path := by
  obtain ⟨hfor, -, -⟩ := (Scanning.mem_gather_responses ServiceDefinitionRegistry.http_definitions e answer).mp h
  have hprotocol := ServiceDefinitionRegistry.http_definitions e (List.mem_of_find?_eq_some hfor)
  obtain ⟨protocol, portType, path⟩ := e
  obtain rfl : protocol = .http := hprotocol
  rfl

theorem exists_responses_iff (good : EndpointResponse → Prop) :
    (∃ response ∈ (gather host registry.definitions σ ip isGateway fdLimit).responses.map responseOf, good response) ↔
      ∃ p path answer, Asks registry host p path ∧ reply registry host ip p.number path = some answer ∧
        good (respond p path answer) := by
  constructor
  · rintro ⟨response, hmem, hgood⟩
    obtain ⟨⟨e, answer⟩, hentry, rfl⟩ := List.mem_map.mp hmem
    have heq := forPattern_of_mem_responses hentry
    rw [heq] at hentry hgood
    obtain ⟨hasks, hreply⟩ := (mem_responses_iff _ _ _).mp hentry
    exact ⟨e.portType, e.path, answer, hasks, hreply, hgood⟩
  · rintro ⟨p, path, answer, hasks, hreply, hgood⟩
    exact ⟨_, List.mem_map.mpr ⟨_, (mem_responses_iff p path answer).mpr ⟨hasks, hreply⟩, rfl⟩, hgood⟩

theorem answersUdp_iff (p : PortConfig) : host.answersUdp registry.definitions isGateway p ↔
    ∃ q, registry.Names q ∧ q.protocol = .udp ∧ (udpService host isGateway q.number).map newUdp = some p := by
  unfold HostBehaviour.answersUdp
  simp only [List.mem_map, List.mem_filter, Scanning.mem_allDiscoveryPorts,
    ServiceDefinitionRegistry.mem_definitions_ports,
    decide_eq_true_iff]
  constructor
  · rintro ⟨n, ⟨q, ⟨hnames, hudp⟩, rfl⟩, hsome⟩
    exact ⟨q, hnames, hudp, hsome⟩
  · rintro ⟨q, hnames, hudp, hsome⟩
    exact ⟨q.number, ⟨q, ⟨hnames, hudp⟩, rfl⟩, hsome⟩

theorem mem_openPorts_iff (p : PortConfig) : p ∈ (gather host registry.definitions σ ip isGateway fdLimit).openPorts ↔
    (Probed registry host isGateway p ∨ ∃ path, Asks registry host p path ∧
      (reply registry host ip p.number path).isSome) := by
  rw [Scanning.mem_gather_openPorts, answersUdp_iff, ServiceDefinitionRegistry.mem_definitions_ports, Probed, or_assoc]
  refine or_congr_right (or_congr_right ⟨?_, ?_⟩)
  · rintro ⟨⟨e, answer⟩, hmem, rfl⟩
    rw [forPattern_of_mem_responses hmem] at hmem
    obtain ⟨hasks, hreply⟩ := (mem_responses_iff _ _ _).mp hmem
    exact ⟨e.path, hasks, Option.isSome_iff_exists.mpr ⟨answer, hreply⟩⟩
  · rintro ⟨path, hasks, hsome⟩
    obtain ⟨answer, hreply⟩ := Option.isSome_iff_exists.mp hsome
    exact ⟨(.forPattern p path, answer), (mem_responses_iff p path answer).mpr ⟨hasks, hreply⟩, rfl⟩

theorem ite_some_inj {α : Type} {p q : Prop} [Decidable p] [Decidable q] {x : α} :
    (if p then some x else none) = (if q then some x else none) ↔ (p ↔ q) := by
  by_cases hp : p <;> by_cases hq : q <;> simp [hp, hq]

theorem port_gathered_iff (portBase : PortType) :
    onGathered library registry host ip isGateway σ fdLimit params (.port portBase) =
      onEverything library registry host ip params (.port portBase) ↔
      Reached library registry host ip isGateway (.port portBase) := by
  obtain ⟨confidence, hverdict⟩ := verdict_port library registry params portBase
  have hown : portBase.config ∈ ownPorts host (.port portBase) ↔ listens host portBase.config := by
    rw [ownPorts]
    split_ifs with h
    · exact iff_of_true (List.mem_singleton_self _) h
    · exact iff_of_false List.not_mem_nil h
  rw [onGathered, onEverything, hverdict, hverdict, ite_some_inj, mem_openPorts_iff, hown, Reached]
  exact ⟨Iff.symm, Iff.symm⟩

theorem endpoint_gathered_iff (portBase : PortType) (path matchString : String) (range : Option StatusRange) :
    onGathered library registry host ip isGateway σ fdLimit params (.endpoint portBase path matchString range) =
      onEverything library registry host ip params (.endpoint portBase path matchString range) ↔
      Reached library registry host ip isGateway (.endpoint portBase path matchString range) := by
  rw [onGathered, onEverything, verdict_endpoint, verdict_endpoint, ite_some_inj, exists_responses_iff]
  have hown : (∃ response ∈ ownResponses registry host ip (.endpoint portBase path matchString range),
      answersEndpoint library portBase path matchString range response) ↔
      ∃ answer, reply registry host ip portBase.config.number path = some answer ∧
        answersEndpoint library portBase path matchString range (respond portBase.config path answer) := by
    simp [ownResponses, Pattern.ownRequest]
  have hfiled : (∃ p path' answer, Asks registry host p path' ∧ reply registry host ip p.number path' = some answer ∧
      answersEndpoint library portBase path matchString range (respond p path' answer)) ↔
      ∃ answer, Asks registry host portBase.config path ∧
        reply registry host ip portBase.config.number path = some answer ∧
        answersEndpoint library portBase path matchString range (respond portBase.config path answer) := by
    constructor
    · rintro ⟨p, path', answer, hasks, hreply, hanswers⟩
      obtain ⟨-, rfl, rfl⟩ := Endpoint.mk.inj (answersEndpoint_iff.mp hanswers).1
      exact ⟨answer, hasks, hreply, hanswers⟩
    · exact fun ⟨answer, h⟩ => ⟨_, _, answer, h⟩
  rw [hown, hfiled, Reached]
  constructor
  · exact fun h answer hreply hanswers => (h.mpr ⟨answer, hreply, hanswers⟩).elim (fun _ h => h.1)
  · refine fun h => ⟨fun ⟨answer, hasks, hreply, hanswers⟩ => ⟨answer, hreply, hanswers⟩, ?_⟩
    exact fun ⟨answer, hreply, hanswers⟩ => ⟨answer, h answer hreply hanswers, hreply, hanswers⟩

theorem header_gathered_iff (portBase : PortType) (header value : String) (range : Option StatusRange) :
    onGathered library registry host ip isGateway σ fdLimit params (.header (some portBase) header value range) =
      onEverything library registry host ip params (.header (some portBase) header value range) ↔
      Reached library registry host ip isGateway (.header (some portBase) header value range) := by
  rw [onGathered, onEverything, verdict_header, verdict_header, ite_some_inj, exists_responses_iff]
  have hown : (∃ response ∈ ownResponses registry host ip (.header (some portBase) header value range),
      answersHeader library (some portBase) header value range response) ↔
      ∃ answer, reply registry host ip portBase.config.number "/" = some answer ∧
        answersHeader library none header value range (respond portBase.config "/" answer) := by
    simp only [answersHeader_iff]
    simp [ownResponses, Pattern.ownRequest, respond, responseOf, Endpoint.forPattern]
  have hfiled : (∃ p path answer, Asks registry host p path ∧ reply registry host ip p.number path = some answer ∧
      answersHeader library (some portBase) header value range (respond p path answer)) ↔
      ∃ path answer, Asks registry host portBase.config path ∧
        reply registry host ip portBase.config.number path = some answer ∧
        answersHeader library none header value range (respond portBase.config path answer) := by
    constructor
    · rintro ⟨p, path, answer, hasks, hreply, hanswers⟩
      obtain ⟨hport, hanswers⟩ := answersHeader_iff.mp hanswers
      obtain rfl : p = portBase.config := hport
      exact ⟨path, answer, hasks, hreply, hanswers⟩
    · rintro ⟨path, answer, hasks, hreply, hanswers⟩
      exact ⟨_, path, answer, hasks, hreply, answersHeader_iff.mpr ⟨rfl, hanswers⟩⟩
  rw [hown, hfiled, Reached]
  exact ⟨Iff.symm, Iff.symm⟩

theorem leaf_gathered_iff (leaf : Pattern) (hasks : leaf.asksHost = true) :
    onGathered library registry host ip isGateway σ fdLimit params leaf = onEverything library registry host ip params leaf ↔
      Reached library registry host ip isGateway leaf := by
  cases leaf with
  | port portBase => exact port_gathered_iff portBase
  | endpoint portBase path matchString range => exact endpoint_gathered_iff portBase path matchString range
  | header portBase header value range =>
    cases portBase with
    | none => exact absurd hasks nofun
    | some portBase => exact header_gathered_iff portBase header value range
  | _ => exact absurd hasks nofun

end reach

/-- The leaves of the registered patterns, those under a `Not` as well, see in what is gathered for all of them what the host
would tell each, if and only if what it would tell each is looked for and filed under the port of the leaf. -/
theorem leaves_gathered_iff (library : Library) (registry : ServiceDefinitionRegistry) (host : HostBehaviour Answer)
    (ip : IpAddr)
    (isGateway : Bool) (σ : Schedule) (fdLimit : ℕ)
    (params : RegisteredDefinition → DiscoverySessionServiceMatchParams) :
    (∀ d ∈ registry.allServiceDefinitions, ∀ leaf ∈ d.discoveryPattern.leaves, leaf.asksHost = true →
      onGathered library registry host ip isGateway σ fdLimit (params d) leaf =
        onEverything library registry host ip (params d) leaf) ↔
      ∀ d ∈ registry.allServiceDefinitions, ∀ leaf ∈ d.discoveryPattern.leaves, leaf.asksHost = true →
        Reached library registry host ip isGateway leaf := by
  constructor
  · exact fun h d hd leaf hleaf hasks => (leaf_gathered_iff leaf hasks).mp (h d hd leaf hleaf hasks)
  · exact fun h d hd leaf hleaf hasks => (leaf_gathered_iff leaf hasks).mpr (h d hd leaf hleaf hasks)

/-- A health check that is recognised by its status. -/
def healthCheck : Pattern := .endpoint ⟨newTcp 9000, false⟩ "/minio/health/live" "" (some ⟨200, 300⟩)

def healthChecks : ServiceDefinitionRegistry := ⟨[⟨⟨"MinIO", false, false, false⟩, healthCheck⟩], fun _ => false⟩

/-- A host that answers each request on one port with an empty page. -/
def emptyPages (port : UInt16) : HostBehaviour Answer where
  tcp n := if n = port then some false else none
  udp _ := none
  get url := if url.port = port then some ⟨"", [], 200⟩ else none

def anyOrder : Schedule := ⟨fun _ _ => 0, fun _ => 0, fun _ => 0, id, fun _ => .refl _⟩

/-- The host answers the health check with a status in the range, but an endpoint with a range is never asked for. -/
theorem health_check_not_gathered :
    let params : DiscoverySessionServiceMatchParams := ⟨localSession, webHost "", ⟨⟨"MinIO", false, false, false⟩, [], []⟩⟩
    ¬ ∀ d ∈ healthChecks.allServiceDefinitions, ∀ leaf ∈ d.discoveryPattern.leaves, leaf.asksHost = true →
      onGathered plainTexts healthChecks (emptyPages 9000) (.v4 7) false anyOrder 1024 params leaf =
        onEverything plainTexts healthChecks (emptyPages 9000) (.v4 7) params leaf := by
  intro params h
  have heq := h _ (List.mem_singleton_self _) healthCheck (List.mem_singleton_self _) rfl
  have hreached := (leaf_gathered_iff healthCheck rfl).mp heq
  obtain ⟨hrequested, -⟩ := hreached ⟨"", [], 200⟩ (by decide) (by decide)
  exact absurd hrequested nofun

end VantageNet.Services
