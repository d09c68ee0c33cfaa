import VantageNet.Interaction.Strict
import VantageNet.Scanning.Sessions

/-!
How the sessions of the daemon end: with one terminal update and no session left, if nothing fails
outside of the scan itself, and never for a self report.
-/

namespace VantageNet.Scanning

open Interaction Program Inventory

/-- One terminal update was sent for the session, and the daemon has no session. -/
def EndsOnce (sessionId : Uuid) (t : RunnerState) : Prop :=
  (t.updates.filter (fun u => u.sessionId = sessionId && u.phase.isTerminal)).length = 1 ∧ t.currentSession = none

/-- The answers that a session needs. In the scan itself none is needed. -/
def Needed (_ : RunnerState) : (i : RunnerOp) → i.Reply → Prop
  | .getId, r => ∃ id, r = .ok id
  | .getNetworkId, r => ∃ id, r = .ok (some id)
  | .getOwnInterfaces _ _ _, r => ∃ own, r = .ok own
  | .getOwnRoutingTableGatewayIps, r => ∃ ips, r = .ok ips
  | .newLocalDockerClient, r => r = .ok ()
  | .getSubnetsFromDockerNetworks _ _ _, r => ∃ subnets, r = .ok subnets
  | .listNetworks, r => ∃ ips, r = .ok ips
  | .listContainers, r => ∃ summaries, r = .ok summaries
  | .inspectContainer _, r => ∃ container, r = .ok container
  | .getSubnets, r => ∃ subnets, r = .ok subnets
  | .createSubnet _, r => ∃ subnet, r = .ok subnet
  | .createHost _ _ _, r => ∃ service services, r = .ok (service :: services)
  | _, _ => True

section silent

/-- No terminal update was sent. -/
def Silent (t : RunnerState) : Prop := ∀ u ∈ t.updates, u.phase.isTerminal = false

theorem Silent.not_endsOnce {t : RunnerState} (h : Silent t) (sessionId : Uuid) : ¬ EndsOnce sessionId t := by
  have hnone : t.updates.filter (fun u => u.sessionId = sessionId && u.phase.isTerminal) = [] :=
    List.filter_eq_nil_iff.mpr (fun u hu => by simp [h u hu])
  rintro ⟨hone, -⟩
  rw [hnone] at hone
  exact absurd hone (by decide)

theorem Silent.append {t : RunnerState} (h : Silent t) {updates : List DiscoveryUpdatePayload}
    (hupdates : ∀ u ∈ updates, u.phase.isTerminal = false) : Silent { t with updates := t.updates ++ updates } := by
  intro u hu
  rcases List.mem_append.mp hu with hu | hu
  · exact h u hu
  · exact hupdates u hu

/-- The session is the daemon's session, and has not come to its end. -/
structure Opened (sessionId : Uuid) (t : RunnerState) : Prop where
  silent : Silent t
  session : ∃ session, t.currentSession = some session ∧ session.info.sessionId = sessionId

end silent

variable {discoveryType : DiscoveryType} {s : RunnerState} {α : Type}

/-- What a part of a session comes to, whatever it is answered. -/
abbrev Part (discoveryType : DiscoveryType) (q : α → RunnerState → Prop) (p : Runner α) (s : RunnerState) : Prop :=
  Yields (runnerStep discoveryType) Needed Silent q p s

section reading

/-- A part that leaves everything as it is. -/
abbrev Reads (discoveryType : DiscoveryType) (p : Runner α) (s : RunnerState) : Prop :=
  Part discoveryType (fun _ t => t = s) p s

theorem Reads.bind {β : Type} {q : β → RunnerState → Prop} {p : Runner α} {f : α → Runner β}
    (hp : Reads discoveryType p s) (hf : ∀ a, Part discoveryType q (f a) s) : Part discoveryType q (p.bind f) s :=
  Yields.bind hp (fun a t ht => by rw [ht]; exact hf a)

theorem asked {i : RunnerOp} {f : i.Reply → Except String α} (hs : Silent s)
    (hneeded : ∀ r, Needed s i r ↔ ∃ a, f r = .ok a) (hkeep : ∀ r, runnerStep discoveryType i r s = (r, s)) :
    Reads discoveryType (.op i (fun r => orFail (f r))) s :=
  Yields.ask hneeded hkeep hs (fun _ _ _ => rfl)

theorem reads_getId (hs : Silent s) : Reads discoveryType (.op .getId orFail) s :=
  asked (i := .getId) (f := fun r => r) hs (fun _ => Iff.rfl) (fun _ => rfl)

theorem reads_networkId (hs : Silent s) (unset : String) : Reads discoveryType (networkId unset) s := by
  refine asked (i := .getNetworkId) hs (fun r => ?_) (fun _ => rfl)
  change (∃ id, r = .ok (some id)) ↔ _
  rcases r with e | _ | id
  · exact iff_of_false (fun ⟨_, h⟩ => nomatch h) (fun ⟨_, h⟩ => nomatch h)
  · exact iff_of_false (fun ⟨_, h⟩ => nomatch h) (fun ⟨_, h⟩ => nomatch h)
  · exact ⟨fun _ => ⟨id, rfl⟩, fun _ => ⟨id, rfl⟩⟩

theorem reads_getOwnInterfaces (hs : Silent s) (t : DiscoveryType) (daemonId networkId : Uuid) :
    Reads discoveryType (.op (.getOwnInterfaces t daemonId networkId) orFail) s :=
  asked (i := .getOwnInterfaces t daemonId networkId) (f := fun r => r) hs (fun _ => Iff.rfl) (fun _ => rfl)

theorem reads_createSubnets (hs : Silent s) (subnets : List Subnet) :
    Reads discoveryType (collect createSubnet subnets) s := by
  refine Yields.collect (I := (· = s)) (fun subnet t ht => ?_) subnets rfl
  rw [ht]
  exact asked (i := .createSubnet subnet) (f := fun r => r) hs (fun _ => Iff.rfl) (fun _ => rfl)

theorem reads_targetSubnets (hs : Silent s) (subnetIds : Option (List Uuid)) :
    Reads discoveryType (targetSubnets discoveryType subnetIds) s := by
  refine (reads_getId hs).bind (fun daemonId => (reads_networkId hs _).bind (fun networkId => ?_))
  cases subnetIds with
  | none => exact (reads_getOwnInterfaces hs _ daemonId networkId).bind (fun own => reads_createSubnets hs _)
  | some subnetIds =>
    exact (asked (i := .getSubnets) (f := fun r => r) hs (fun _ => Iff.rfl) (fun _ => rfl)).bind (fun _ => .ret rfl)

theorem reads_dockerClient (hclient : s.dockerClient = true) : Reads discoveryType dockerClient s := by
  refine Yields.step (fun _ => trivial) (fun r => ?_)
  change Reads discoveryType (if s.dockerClient then .ret () else .fail _) s
  rw [if_pos hclient]
  exact .ret rfl

theorem reads_getContainersToScan (hs : Silent s) (hclient : s.dockerClient = true) :
    Reads discoveryType getContainersToScan s :=
  (reads_dockerClient hclient).bind (fun _ =>
    asked (i := .listContainers) (f := fun r => r) hs (fun _ => Iff.rfl) (fun _ => rfl))

theorem reads_dockerGatewayIps (hs : Silent s) (hclient : s.dockerClient = true) :
    Reads discoveryType dockerGatewayIps s :=
  (reads_dockerClient hclient).bind (fun _ =>
    asked (i := .listNetworks) (f := fun r => r) hs (fun _ => Iff.rfl) (fun _ => rfl))

theorem reads_dockerSubnets (hs : Silent s) (hclient : s.dockerClient = true) :
    Reads discoveryType (dockerSubnets discoveryType) s := by
  refine (reads_getId hs).bind (fun daemonId => (reads_networkId hs _).bind (fun networkId => ?_))
  refine (reads_getOwnInterfaces hs _ daemonId networkId).bind (fun own => (reads_dockerClient hclient).bind (fun _ => ?_))
  exact (asked (i := .getSubnetsFromDockerNetworks daemonId networkId discoveryType) (f := fun r => r) hs
    (fun _ => Iff.rfl) (fun _ => rfl)).bind (fun _ => reads_createSubnets hs _)

/-- The service of the Docker daemon is needed, not only its host. -/
theorem reads_dockerDaemonService (hs : Silent s) (hostId : Uuid) (hostInterfaces : List Interface) :
    Reads discoveryType ((createDockerDaemonService hostId hostInterfaces).bind first) s := by
  simp only [createDockerDaemonService, bind_eq, bind_assoc]
  refine (reads_getId hs).bind (fun _ => (reads_networkId hs _).bind (fun networkId => ?_))
  intro r
  constructor
  · rintro ⟨service, services, rfl⟩
    exact ⟨service, rfl, rfl⟩
  · intro hr
    rcases r with e | _ | ⟨service, services⟩
    · exact ⟨e, rfl, hs⟩
    · exact ⟨_, rfl, hs⟩
    · exact absurd ⟨service, services, rfl⟩ hr

theorem reads_getContainersAndSummaries (hs : Silent s) (hclient : s.dockerClient = true) :
    Reads discoveryType getContainersAndSummaries s := by
  refine (reads_dockerClient hclient).bind (fun _ => (reads_getContainersToScan hs hclient).bind (fun summaries => ?_))
  refine Yields.collect (I := (· = s)) (fun id t ht => ?_) _ rfl
  rw [ht]
  exact asked (i := .inspectContainer id) (f := fun r => r) hs (fun _ => Iff.rfl) (fun _ => rfl)

end reading

section started

variable {sessionId : Uuid}

theorem part_getSession {q : DiscoverySession → RunnerState → Prop} {session : DiscoverySession}
    (hsession : s.currentSession = some session) (hq : q session s) : Part discoveryType q getSession s := by
  refine Yields.step (fun _ => trivial) (fun _ => ?_)
  change Part discoveryType q (s.currentSession.elim _ .ret) s
  rw [hsession]
  exact .ret hq

theorem part_reportDiscoveryUpdate {session : DiscoverySession} (hsession : s.currentSession = some session)
    (update : DiscoverySessionUpdate) : Part discoveryType
      (fun _ t => t = { s with updates := s.updates ++ [fromStateAndUpdate discoveryType session.info update] })
      (reportDiscoveryUpdate discoveryType update) s :=
  (part_getSession (q := fun a t => a = session ∧ t = s) hsession ⟨rfl, rfl⟩).bind (by
    rintro _ _ ⟨rfl, rfl⟩
    exact Yields.step (fun _ => trivial) (fun _ => .ret rfl))

theorem part_startDiscovery (request : DaemonDiscoveryRequest) (hs : Silent s) {getGatewayIps : Runner (List IpAddr)} (hgateway : Reads discoveryType getGatewayIps s) :
    Part discoveryType (fun _ t => Opened request.sessionId t ∧ t.dockerClient = s.dockerClient)
      (startDiscovery getGatewayIps discoveryType request) s := by
  refine (reads_getId hs).bind (fun daemonId => ?_)
  refine Yields.bind (q := fun _ t => ∃ session, session.info.sessionId = request.sessionId ∧
    t = { s with currentSession := some session }) ?_ ?_
  · refine hgateway.bind (fun gatewayIps => (reads_networkId hs _).bind (fun networkId => ?_))
    exact Yields.step (fun _ => trivial) (fun now => Yields.step (fun _ => trivial) (fun _ => .ret ⟨_, rfl, rfl⟩))
  · rintro _ _ ⟨session, hid, rfl⟩
    refine (part_reportDiscoveryUpdate (s := { s with currentSession := some session }) rfl _).bind ?_
    rintro _ _ rfl
    refine Yields.bind (part_getSession (q := fun _ t => Opened request.sessionId t ∧ t.dockerClient = s.dockerClient)
      rfl ⟨⟨?_, session, rfl, hid⟩, rfl⟩) (fun _ _ ht => ?_)
    · exact Silent.append (t := { s with currentSession := some session }) hs
        (fun u hu => by rw [List.mem_singleton.mp hu]; rfl)
    · exact .ret ht

theorem endsOnce_of_terminal {t : RunnerState} {update : DiscoveryUpdatePayload} (hs : Silent s)
    (hupdates : t.updates = s.updates ++ [update]) (hid : update.sessionId = sessionId) (hphase : update.phase.isTerminal = true)
    (hsession : t.currentSession = none) : EndsOnce sessionId t := by
  have hbefore : s.updates.filter (fun u => u.sessionId = sessionId && u.phase.isTerminal) = [] :=
    List.filter_eq_nil_iff.mpr (fun u hu => by simp [hs u hu])
  refine ⟨?_, hsession⟩
  rw [hupdates, List.filter_append, hbefore, List.nil_append]
  simp [hid, hphase]

/-- One terminal update was sent, and the session is still the daemon's. -/
def Reported (s : RunnerState) (session : DiscoverySession) (t : RunnerState) : Prop :=
  (∃ update, t.updates = s.updates ++ [update] ∧ update.sessionId = session.info.sessionId ∧ update.phase.isTerminal = true) ∧
  t.currentSession = some session

theorem part_report_terminal {t : RunnerState} {session : DiscoverySession} (hsession : t.currentSession = some session)
    (hupdates : t.updates = s.updates) {update : DiscoverySessionUpdate} (hphase : update.phase.isTerminal = true) :
    Part discoveryType (fun _ u => Reported s session u) (reportDiscoveryUpdate discoveryType update) t := by
  refine Yields.imp (part_reportDiscoveryUpdate hsession update) ?_
  rintro _ _ rfl
  exact ⟨⟨_, by rw [hupdates], rfl, hphase⟩, hsession⟩

theorem part_reportResult {session : DiscoverySession} (hsession : s.currentSession = some session)
    (discoveryResult : Except String Unit) :
    Part discoveryType (fun _ t => Reported s session t) (reportResult discoveryType session discoveryResult) s := by
  cases discoveryResult with
  | ok _ => exact Yields.step (fun _ => trivial) (fun _ => part_report_terminal hsession rfl rfl)
  | error e =>
    refine Yields.step (fun _ => trivial) (fun r => Yields.step (fun _ => trivial) (fun _ => ?_))
    change Part discoveryType _ (if (s.cancelled || r) = true then _ else _) { s with cancelled := s.cancelled || r }
    have hreport {update : DiscoverySessionUpdate} (hphase : update.phase.isTerminal = true) :
        Part discoveryType (fun _ u => Reported s session u) (reportDiscoveryUpdate discoveryType update)
          { s with cancelled := s.cancelled || r } :=
      part_report_terminal (t := { s with cancelled := s.cancelled || r }) hsession rfl hphase
    split_ifs
    · exact hreport rfl
    · refine Yields.bind (hreport rfl) (fun _ t ht => ?_)
      exact Yields.step (fun _ => trivial) (fun _ => .ret ht)

/-- Once the session has been started it comes to its end, however the scan ended. -/
theorem part_finishDiscovery (hs : Opened sessionId s) (discoveryResult : Except String Unit) :
    Part discoveryType (fun _ t => EndsOnce sessionId t) (finishDiscovery discoveryType discoveryResult) s := by
  obtain ⟨hsilent, session, hsession, rfl⟩ := hs
  refine Yields.bind (part_getSession (q := fun a t => a = session ∧ t = s) hsession ⟨rfl, rfl⟩) ?_
  rintro _ _ ⟨rfl, rfl⟩
  refine Yields.bind (part_reportResult hsession discoveryResult) ?_
  rintro _ t ⟨⟨update, hupdates, hid, hphase⟩, hcurrent⟩
  refine Yields.step (fun _ => trivial) (fun _ => .ret (endsOnce_of_terminal hsilent hupdates hid hphase ?_))
  change t.currentSession.filter _ = none
  rw [hcurrent]
  simp

end started

section scan

/-- What the scans do. Updates in the middle of a session are not terminal. -/
def InScan : RunnerOp → Prop
  | .getConcurrentScans | .utcNow | .scanHosts _ | .processSingleContainer _ | .getSession | .storeProgress _ _ | .isCancelled => True
  | .postUpdate payload => payload.phase.isTerminal = false
  | _ => False

theorem needed_of_inScan (s : RunnerState) (i : RunnerOp) (r : i.Reply) (hi : InScan i) : Needed s i r := by
  cases i <;> trivial

theorem Opened.scanned {sessionId : Uuid} {t : RunnerState} (h : Opened sessionId t) (discoveryType : DiscoveryType) (p : Progress) :
    Opened sessionId (t.scanned discoveryType p) ∧ (t.scanned discoveryType p).dockerClient = t.dockerClient := by
  obtain ⟨hsilent, session, hsession, hid⟩ := h
  have hscanned : t.scanned discoveryType p = { t with
      currentSession := some { session with
        lastProgress := UInt8.ofNat p.lastProgress
        lastProgressReportTime := p.lastProgressReportTime }
      updates := t.updates ++ p.sent.map (fun percent =>
        fromStateAndUpdate discoveryType session.info (.scanning (UInt8.ofNat percent))) } := by
    rw [RunnerState.scanned, hsession]
  rw [hscanned]
  exact ⟨⟨hsilent.append (List.forall_mem_map.mpr (fun _ _ => rfl)), _, rfl, hid⟩, rfl⟩

theorem opened_of_inScan {sessionId : Uuid} {t : RunnerState} (i : RunnerOp) (r : i.Reply) (hi : InScan i) (h : Opened sessionId t) :
    Opened sessionId (runnerStep discoveryType i r t).2 := by
  obtain ⟨hsilent, session, hsession, hid⟩ := id h
  cases i with
  | scanHosts subnets => exact (h.scanned discoveryType r.1).1
  | storeProgress now percent =>
    refine ⟨hsilent, { session with lastProgress := percent, lastProgressReportTime := now }, ?_, hid⟩
    change t.currentSession.map _ = _
    rw [hsession]
    rfl
  | postUpdate payload =>
    have hphase : payload.phase.isTerminal = false := hi
    exact ⟨hsilent.append (fun u hu => by rw [List.mem_singleton.mp hu]; exact hphase), session, hsession, hid⟩
  | getConcurrentScans => exact h
  | utcNow => exact h
  | processSingleContainer id => exact h
  | getSession => exact h
  | isCancelled => exact ⟨hsilent, session, hsession, hid⟩
  | _ => exact hi.elim

theorem inScan_getSession : Only InScan getSession :=
  ⟨trivial, fun session => by cases session <;> trivial⟩

theorem inScan_reportDiscoveryUpdate {update : DiscoverySessionUpdate} (hphase : update.phase.isTerminal = false) :
    Only InScan (reportDiscoveryUpdate discoveryType update) :=
  inScan_getSession.bind (fun _ => ⟨hphase, fun _ => trivial⟩)

theorem inScan_reportScanningProgress (percent : UInt8) : Only InScan (reportScanningProgress discoveryType percent) := by
  refine inScan_getSession.bind (fun session => ?_)
  dsimp only
  split_ifs
  · trivial
  · refine ⟨trivial, fun now => ?_⟩
    simp only [ret_bind]
    split_ifs
    · trivial
    · exact ⟨trivial, fun _ => inScan_reportDiscoveryUpdate rfl⟩

theorem inScan_scanAndProcessHosts (subnets : List Subnet) : Only InScan (scanAndProcessHosts subnets) :=
  inScan_getSession.bind (fun _ => ⟨trivial, fun r => Only.orFail r.2⟩)

theorem inScan_scanAndProcessContainers (containers : List String) :
    Only InScan (scanAndProcessContainers discoveryType containers) := by
  refine (inScan_reportScanningProgress 0).bind (fun _ => ?_)
  refine Only.bind (p := (.op RunnerOp.getConcurrentScans orFail : Runner ℕ)) ⟨trivial, fun r => Only.orFail r⟩ (fun _ => ?_)
  refine (inScan_reportDiscoveryUpdate rfl).bind (fun _ => Only.forEach (fun (container, done) => ?_) _)
  refine ⟨trivial, fun _ => (inScan_reportScanningProgress _).attempt.bind (fun _ => ⟨trivial, fun cancelled => ?_⟩)⟩
  simp only [ret_bind]
  split_ifs <;> trivial

/-- Whatever a scan meets with, the session is finished. -/
theorem part_scan_finish {sessionId : Uuid} (hs : Opened sessionId s) {scan : Runner Unit} (hscan : Only InScan scan)
    (f : Except String Unit → Except String Unit) : Part discoveryType (fun _ t => EndsOnce sessionId t)
      (scan.attempt.bind (fun r => finishDiscovery discoveryType (f r))) s :=
  Yields.bind (Yields.attempt needed_of_inScan (fun _ i r hi ht => opened_of_inScan i r hi ht) hscan hs)
    (fun r _ ht => part_finishDiscovery ht (f r))

end scan

section sessions

variable {request : DaemonDiscoveryRequest}

theorem part_discoverNetwork (hs : Silent s) (subnetIds : Option (List Uuid)) :
    Part discoveryType (fun _ t => EndsOnce request.sessionId t) (discoverNetwork subnetIds discoveryType request) s := by
  refine (reads_targetSubnets hs subnetIds).bind (fun subnets => ?_)
  have hgateway : Reads discoveryType (.op .getOwnRoutingTableGatewayIps orFail) s :=
    asked (i := .getOwnRoutingTableGatewayIps) (f := fun r => r) hs (fun _ => Iff.rfl) (fun _ => rfl)
  refine Yields.bind (part_startDiscovery request hs hgateway) (fun _ t ht => ?_)
  exact part_scan_finish ht.1 (inScan_scanAndProcessHosts subnets) id

theorem part_discoverDocker (hs : Silent s) (hfresh : s.dockerClient = false) (hostId : Uuid) :
    Part discoveryType (fun _ t => EndsOnce request.sessionId t) (discoverDocker hostId discoveryType request) s := by
  refine (reads_getId hs).bind (fun daemonId => (reads_networkId hs _).bind (fun networkId => ?_))
  have hclient : Reads discoveryType (.op .newLocalDockerClient orFail) s :=
    asked (i := .newLocalDockerClient) (f := fun r => r) hs (fun r => ⟨fun h => ⟨_, h⟩, fun ⟨_, h⟩ => h⟩) (fun _ => rfl)
  refine hclient.bind (fun _ => ?_)
  let connected : RunnerState := { s with dockerClient := true }
  have hconnected : Silent connected := hs
  refine Yields.bind (q := fun _ t => t = connected) ?_ ?_
  · refine Yields.step (fun _ => trivial) (fun r => ?_)
    change Part discoveryType _ (if !s.dockerClient then .ret () else .fail _) connected
    rw [hfresh]
    exact .ret rfl
  rintro _ _ rfl
  refine (reads_getContainersToScan hconnected rfl).bind (fun _ => ?_)
  refine Yields.bind (part_startDiscovery request hconnected (reads_dockerGatewayIps hconnected rfl)) ?_
  rintro _ t ⟨hopened, hstarted⟩
  refine (reads_dockerSubnets hopened.silent hstarted).bind (fun subnets => ?_)
  refine (reads_getOwnInterfaces hopened.silent _ daemonId networkId).bind (fun own => ?_)
  simp only [bind_eq]
  rw [← bind_assoc]
  refine (reads_dockerDaemonService hopened.silent hostId _).bind (fun _ => ?_)
  refine (reads_getContainersAndSummaries hopened.silent hstarted).bind (fun containers => ?_)
  exact part_scan_finish hopened (inScan_scanAndProcessContainers containers) _

def KeepsSession : RunnerOp → Prop
  | .clearSession _ => False
  | _ => True

theorem session_of_keepsSession {t : RunnerState} (i : RunnerOp) (r : i.Reply) (hi : KeepsSession i)
    (h : t.currentSession ≠ none) : (runnerStep discoveryType i r t).2.currentSession ≠ none := by
  obtain ⟨session, hsession⟩ := Option.ne_none_iff_exists'.mp h
  cases i with
  | clearSession sessionId => exact hi.elim
  | setSession session => exact Option.some_ne_none session
  | scanHosts subnets =>
    change (t.scanned discoveryType r.1).currentSession ≠ none
    rw [RunnerState.scanned, hsession]
    exact Option.some_ne_none _
  | storeProgress now percent =>
    change t.currentSession.map _ ≠ none
    rw [hsession]
    exact Option.some_ne_none _
  | _ => exact h

theorem keepsSession_ask (i : RunnerOp) (hi : KeepsSession i) {k : i.Reply → Except String α} :
    Only KeepsSession (.op i (fun r => orFail (k r)) : Runner α) := ⟨hi, fun r => Only.orFail (k r)⟩

theorem keepsSession_dockerCidrs (daemonId networkId : Uuid) : Only KeepsSession (dockerCidrs daemonId networkId discoveryType) := by
  refine ⟨trivial, fun r => ?_⟩
  cases r with
  | ok _ =>
    exact (keepsSession_ask (.getSubnetsFromDockerNetworks daemonId networkId discoveryType) trivial).bind (fun _ => trivial)
  | error e => trivial

theorem keepsSession_reportDiscoveryUpdate (update : DiscoverySessionUpdate) :
    Only KeepsSession (reportDiscoveryUpdate discoveryType update) := by
  refine Only.bind ⟨trivial, fun session => ?_⟩ (fun _ => ⟨trivial, fun _ => trivial⟩)
  cases session <;> trivial

theorem not_endsOnce_of_keepsSession {sessionId : Uuid} {p : Runner Unit} (hp : Only KeepsSession p)
    (hs : s.currentSession ≠ none) :
    Ensures (runnerStep discoveryType) (fun _ _ _ => True) (fun _ t => ¬ EndsOnce sessionId t) p s :=
  (Ensures.of_only (I := fun t => t.currentSession ≠ none) (fun _ i r hi ht => session_of_keepsSession i r hi ht) hp hs).imp
    (fun _ _ ht hends => ht hends.2)

/-- The session of a self report is never cleared. -/
theorem not_endsOnce_selfReport (hs : Silent s) (hostId : Uuid) :
    Ensures (runnerStep discoveryType) (fun _ _ _ => True) (fun _ t => ¬ EndsOnce request.sessionId t)
      (discoverSelfReport hostId discoveryType request) s := by
  rintro (e | daemonId) -
  · exact hs.not_endsOnce _
  rintro (e | _ | sessionNetworkId) -
  · exact hs.not_endsOnce _
  · exact hs.not_endsOnce _
  intro started _ _ _
  refine not_endsOnce_of_keepsSession ?_ (Option.some_ne_none _)
  refine (keepsSession_ask .getNetworkId trivial).bind (fun networkId => ?_)
  refine (keepsSession_ask .getBindAddress trivial).bind (fun bindingAddress => ?_)
  refine (Only.orFail _).bind (fun _ => ?_)
  refine (keepsSession_ask (.getOwnInterfaces discoveryType daemonId networkId) trivial).bind (fun own => ?_)
  refine (keepsSession_dockerCidrs daemonId networkId).bind (fun docker => ?_)
  refine (Only.collect (fun subnet => keepsSession_ask (.createSubnet subnet) trivial) _).bind (fun createdSubnets => ?_)
  refine Only.bind ((keepsSession_ask .getId trivial).bind (fun id =>
    keepsSession_ask (.updateCapabilities id docker.2 (createdSubnets.map Subnet.id)) trivial)) (fun _ => ?_)
  refine (keepsSession_ask .getPort trivial).bind (fun _ => ?_)
  refine (keepsSession_ask .getOwnIpAddress trivial).bind (fun _ => ?_)
  refine (keepsSession_ask (.createHost hostId networkId _) trivial).bind (fun _ => ⟨trivial, fun now => ?_⟩)
  exact keepsSession_reportDiscoveryUpdate _

theorem silent_initiated (current : Option DiscoverySession) : Silent (.initiated current) :=
  fun _ h => absurd h List.not_mem_nil

theorem session_ends_once_iff (request : DaemonDiscoveryRequest) (current : Option DiscoverySession) (ω : Oracle runnerSig) :
    EndsOnce request.sessionId (run (runnerStep request.discoveryType) ω 0 (runSession request) (.initiated current)).state ↔
      (∀ hostId, request.discoveryType ≠ .selfReport hostId) ∧
      Answered (runnerStep request.discoveryType) Needed ω 0 (discover request) (.initiated current) := by
  have hs := silent_initiated current
  have hstate : (run (runnerStep request.discoveryType) ω 0 (runSession request) (.initiated current)).state =
      (run (runnerStep request.discoveryType) ω 0 (discover request) (.initiated current)).state := by
    rw [runSession, bind_eq, run_bind, run_attempt]
    rfl
  have hiff {p : Runner Unit} (hp : Part request.discoveryType (fun _ t => EndsOnce request.sessionId t) p (.initiated current)) :
      EndsOnce request.sessionId (run (runnerStep request.discoveryType) ω 0 p (.initiated current)).state ↔
        Answered (runnerStep request.discoveryType) Needed ω 0 p (.initiated current) :=
    Strict.iff hp (fun _ _ ⟨_, _, h⟩ => h) (fun _ ht => ht.not_endsOnce _) ω 0
  rw [hstate]
  cases htype : request.discoveryType with
  | selfReport hostId =>
    refine iff_of_false ?_ (fun h => h.1 hostId rfl)
    have hdiscover : discover request = discoverSelfReport hostId request.discoveryType request := by
      rw [discover, htype]
    rw [hdiscover, ← htype]
    exact (not_endsOnce_selfReport hs hostId).run_any ω 0
  | docker hostId fallback =>
    have hdiscover : discover request = discoverDocker hostId request.discoveryType request := by
      rw [discover, htype]
    rw [hdiscover, ← htype, hiff (part_discoverDocker hs rfl hostId)]
    exact (and_iff_right (fun _ h => nomatch htype.symm.trans h)).symm
  | network subnetIds fallback =>
    have hdiscover : discover request = discoverNetwork subnetIds request.discoveryType request := by
      rw [discover, htype]
    rw [hdiscover, ← htype, hiff (part_discoverNetwork hs subnetIds)]
    exact (and_iff_right (fun _ h => nomatch htype.symm.trans h)).symm

/-- The answers in which only the lookup of the interfaces may fail. -/
def dockerHost (own : Except String (List Interface × List Subnet)) : (i : RunnerOp) → i.Reply
  | .getId => .ok 1
  | .getNetworkId => .ok (some 2)
  | .getBindAddress => .ok "0.0.0.0"
  | .getPort => .ok 60073
  | .getConcurrentScans => .ok 15
  | .utcNow => 0
  | .getOwnInterfaces _ _ _ => own
  | .getOwnIpAddress => .ok (.v4 0x0a000001)
  | .getOwnRoutingTableGatewayIps => .ok []
  | .newLocalDockerClient => .ok ()
  | .getSubnetsFromDockerNetworks _ _ _ => .ok []
  | .listNetworks => .ok []
  | .listContainers => .ok [some "web"]
  | .inspectContainer container => .ok container
  | .getSubnets => .ok []
  | .createSubnet subnet => .ok subnet
  | .createHost _ _ _ => .ok [3]
  | .updateCapabilities _ _ _ => .ok ()
  | .scanHosts _ => (.empty, .ok ())
  | .setDockerClient | .getDockerClient => true
  | .getSession => none
  | .isCancelled => false
  | .processSingleContainer _ | .setSession _ | .clearSession _ | .storeProgress _ _ | .postUpdate _ | .cancel => ()

def dockerRequest : DaemonDiscoveryRequest := ⟨9, .docker 4 .bestService⟩

def endOf (own : Except String (List Interface × List Subnet)) : RunnerState :=
  (run (runnerStep dockerRequest.discoveryType) (fun _ => dockerHost own) 0 (runSession dockerRequest) (.initiated none)).state

example : (endOf (.ok ([], []))).updates.map (fun u => u.phase) = [.started, .scanning, .scanning, .complete] ∧
    (endOf (.ok ([], []))).currentSession = none := by decide +kernel

/-- The interfaces cannot be read after the session of a Docker scan was started. -/
theorem session_not_ended : ¬ ∀ (request : DaemonDiscoveryRequest) (current : Option DiscoverySession) (ω : Oracle runnerSig),
    EndsOnce request.sessionId (run (runnerStep request.discoveryType) ω 0 (runSession request) (.initiated current)).state := by
  intro h
  have hended := h dockerRequest none (fun _ => dockerHost (.error "no interfaces"))
  have hupdates : (endOf (.error "no interfaces")).updates.filter (fun u => u.sessionId = 9 && u.phase.isTerminal) = [] := by decide +kernel
  have hone := hended.1
  change (List.filter _ (endOf (.error "no interfaces")).updates).length = 1 at hone
  rw [show dockerRequest.sessionId = 9 from rfl, hupdates] at hone
  exact absurd hone (by decide)

end sessions

end VantageNet.Scanning
