import VantageNet.Interaction.Window
import VantageNet.Inventory.Types
import VantageNet.Scanning.Concurrency

/-!
A network scan down to single connections: `scan_and_process_hosts`, `check_host_responsive_ports`
and `deep_scan_host` of `daemon/discovery/service/network.rs`, with the reports of
`daemon/discovery/service/base.rs`. Both `buffer_unordered` and `batch_scan` take up the next item
whenever one has come to its end, so both are windows; the first one holds hosts and the second one
the connections of a host. The token may be cancelled between any two steps.
-/

namespace VantageNet.Scanning

open Interaction Inventory

/-- One scan: what it was given and what the services' definitions make it look for. `endpoints` are
the requests that `scan_endpoints` makes to a host with the given open ports. -/
structure NetworkScan where
  fdLimit : ℕ
  concurrentScans : ℕ
  interfacedIps : List IpAddr
  nonInterfacedIps : List IpAddr
  discoveryPorts : List UInt16
  Request : Type
  endpoints : List UInt16 → List Request

section progress

def asU8 (n : ℕ) : ℕ := n % 256

/-- The counters of a scan, `last_progress` and `last_progress_report_time` of its session, and the
percentages it has sent. -/
structure Progress where
  phase1Scanned : ℕ
  batchesDone : ℕ
  lastProgress : ℕ
  lastProgressReportTime : ℕ
  sent : List ℕ

namespace Progress

def empty : Progress := ⟨0, 0, 0, 0, []⟩

/-- `report_discovery_update` of a scanning update. -/
def send (p : Progress) (percent : ℕ) : Progress := { p with sent := p.sent ++ [percent] }

/-- `report_scanning_progress`. Nothing is awaited between the two loads and the exchange, which
therefore succeeds, and up to the request only locks that no one writes during a scan. -/
def report (p : Progress) (now percent : ℕ) : Progress :=
  if percent ≤ p.lastProgress ∧ percent < 100 then p
  else if percent < 100 ∧ now < p.lastProgressReportTime + 10 then p
  else { p with lastProgressReportTime := now, lastProgress := percent }.send percent

def hostChecked (p : Progress) (now totalIps : ℕ) : Progress :=
  { p with phase1Scanned := p.phase1Scanned + 1 }.report now (asU8 ((p.phase1Scanned + 1) * 50 / max totalIps 1))

def batchDone (p : Progress) (now totalBatches : ℕ) : Progress :=
  { p with batchesDone := p.batchesDone + 1 }.report now (asU8 (50 + (p.batchesDone + 1) * 40 / max totalBatches 1))

end Progress

end progress

/-- A connection of `batch_scan` has come to its end. A batch that finds the token cancelled is left
at once, with all that is still open. -/
def settle {τ : Type} (cancelled : Bool) (w : Window τ) (j : ℕ) : Window τ := if cancelled then w.stop else w.finish j

/-- `check_host_responsive_ports` under way. -/
structure PortCheck where
  ip : IpAddr
  openPorts : List UInt16
  connections : Window UInt16

namespace PortCheck

/-- A host that is looked at after the token was cancelled is not connected to. -/
def refused (c : PortCheck) : PortCheck := { c with connections := c.connections.stop }

def responsive (c : PortCheck) : List (IpAddr × List UInt16) := if c.openPorts = [] then [] else [(c.ip, c.openPorts)]

inductive Step (cancelled : Bool) (c : PortCheck) : PortCheck → Prop
  | answered (j : ℕ) (p : UInt16) (isOpen : Bool) (hp : c.connections.running[j]? = some p) : Step cancelled c
      { c with
        openPorts := if isOpen && !cancelled then c.openPorts ++ [p] else c.openPorts
        connections := settle cancelled c.connections j }

end PortCheck

/-- `deep_scan_host` under way, and whether it was given up because of the token once it is over. -/
inductive DeepScan (ρ : Type) where
  | ports (openPorts : List UInt16) (connections : Window UInt16) (rest : List UInt16)
  | udp (openPorts : List UInt16)
  | endpoints (requests : Window ρ)
  | done (abandoned : Bool)

/-- What a step of a deep scan makes the scan report. -/
inductive Report where
  | silent
  | batchDone
  | direct (percent : ℕ)

namespace DeepScan

variable {ρ : Type}

def batch (openPorts remaining : List UInt16) : DeepScan ρ :=
  .ports openPorts (.start portsPerHostBatch (remaining.take portsPerHostBatch)) (remaining.drop portsPerHostBatch)

def start (phase1Ports : List UInt16) : DeepScan ρ :=
  let remaining := remainingTcpPorts phase1Ports
  if remaining = [] then .udp phase1Ports else batch phase1Ports remaining

def inFlight : DeepScan ρ → ℕ
  | .ports _ connections _ => connections.running.length
  | .udp _ => 0
  | .endpoints requests => requests.running.length
  | .done _ => 0

inductive Step (endpoints : List UInt16 → List ρ) (cancelled : Bool) : DeepScan ρ → Report → DeepScan ρ → Prop
  | answered (openPorts connections rest) (j : ℕ) (p : UInt16) (isOpen : Bool) (hp : connections.running[j]? = some p) :
      Step endpoints cancelled (.ports openPorts connections rest) .silent
        (.ports (if isOpen && !cancelled then openPorts ++ [p] else openPorts) (settle cancelled connections j) rest)
  | nextBatch (openPorts connections rest) (hidle : connections.running = []) (hrest : rest ≠ []) :
      Step endpoints cancelled (.ports openPorts connections rest) .batchDone
        (if cancelled then .done true else batch openPorts rest)
  | lastBatch (openPorts connections) (hidle : connections.running = []) :
      Step endpoints cancelled (.ports openPorts connections []) .batchDone (.udp openPorts)
  | udpScanned (openPorts) : Step endpoints cancelled (.udp openPorts) (.direct 95)
      (.endpoints (.start (min (portsPerHostBatch / 2) 50) (if cancelled then [] else endpoints openPorts)))
  | responded (requests) (j : ℕ) (r : ρ) (hr : requests.running[j]? = some r) :
      Step endpoints cancelled (.endpoints requests) .silent (.endpoints (settle cancelled requests j))
  -- The token is looked at for the last time.
  | endpointsScanned (requests) (hidle : requests.running = []) :
      Step endpoints cancelled (.endpoints requests) (.direct 98) (.done cancelled)
  | failed (d) (hd : ∀ b, d ≠ .done b) : Step endpoints cancelled d .silent (.done false)

end DeepScan

/-- Where a scan is. `responsiveHosts` are those found in phase 1, with their open ports. -/
inductive Stage (ρ : Type) where
  | arp (hosts : Window IpAddr) (responsiveHosts : List (IpAddr × List UInt16))
  | checking (hosts : Window PortCheck) (responsiveHosts : List (IpAddr × List UInt16))
  | deepScanning (hosts : Window (DeepScan ρ)) (responsiveHosts : List (IpAddr × List UInt16)) (abandoned : Bool)
  | ended (phase : DiscoveryPhase) (responsiveHosts : List (IpAddr × List UInt16)) (abandoned : Bool)

namespace Stage

variable {ρ : Type}

/-- The hosts that no one has looked at yet find the token cancelled when their turn comes. -/
def refused : Stage ρ → Stage ρ
  | .arp hosts r => .arp hosts r
  | .checking hosts r => .checking (hosts.mapWaiting PortCheck.refused) r
  | .deepScanning hosts r abandoned => .deepScanning (hosts.mapWaiting (fun _ => .done true)) r abandoned
  | .ended phase r abandoned => .ended phase r abandoned

/-- The TCP connections that are in flight. -/
def inFlight : Stage ρ → ℕ
  | .arp _ _ => 0
  | .checking hosts _ => hosts.inUse (fun c => c.connections.running.length)
  | .deepScanning hosts _ _ => hosts.inUse DeepScan.inFlight
  | .ended _ _ _ => 0

def responsiveHosts : Stage ρ → List (IpAddr × List UInt16)
  | .arp _ r => r
  | .checking _ r => r
  | .deepScanning _ r _ => r
  | .ended _ r _ => r

end Stage

structure ScanState (ρ : Type) where
  cancelled : Bool
  progress : Progress
  stage : Stage ρ

namespace NetworkScan

variable (s : NetworkScan)

def totalIps : ℕ := s.interfacedIps.length + s.nonInterfacedIps.length

/-- `65535_usize.div_ceil(ports_per_host_batch)`. -/
def batchesPerHost : ℕ := (65535 + portsPerHostBatch - 1) / portsPerHostBatch

def check (ip : IpAddr) : PortCheck := ⟨ip, [], .start (getOptimalPortBatchSize s.fdLimit) s.discoveryPorts⟩

def deepScanning (r : List (IpAddr × List UInt16)) : Stage s.Request :=
  .deepScanning (.start (getOptimalDeepScanConcurrency s.fdLimit portsPerHostBatch)
    (r.map (fun host => DeepScan.start host.2))) r false

/-- Phase 1 has come to its end. -/
def phase2 (p : Progress) (r : List (IpAddr × List UInt16)) : ScanState s.Request :=
  if r = [] then ⟨false, (p.send 50).send 100, .ended .complete [] false⟩
  else ⟨false, p.send 50, s.deepScanning r⟩

/-- The interfaced addresses have been dealt with. -/
def phase1b (p : Progress) (r : List (IpAddr × List UInt16)) : ScanState s.Request :=
  if s.nonInterfacedIps = [] then s.phase2 p r
  else ⟨false, p, .checking (.start (getOptimalConcurrentScans s.fdLimit s.concurrentScans) (s.nonInterfacedIps.map s.check)) r⟩

def phase1a : ScanState s.Request :=
  if s.interfacedIps = [] then s.phase1b (Progress.empty.send 0) []
  else ⟨false, Progress.empty.send 0, .arp (.start (getOptimalArpConcurrency s.fdLimit) s.interfacedIps) []⟩

/-- `finish_discovery` after an error. -/
def failed (b : Bool) : DiscoveryPhase := if b then .cancelled else .failed

def reported (p : Progress) (now : ℕ) (r : List (IpAddr × List UInt16)) : Report → Progress
  | .silent => p
  | .batchDone => p.batchDone now (r.length * batchesPerHost)
  | .direct percent => p.send percent

inductive Step : ScanState s.Request → ScanState s.Request → Prop
  | cancel (σ) : Step σ ⟨true, σ.progress, σ.stage.refused⟩
  | fail (b p stage) (hstage : ∀ phase r abandoned, stage ≠ .ended phase r abandoned) :
      Step ⟨b, p, stage⟩ ⟨b, p, .ended (failed b) stage.responsiveHosts false⟩
  | arpAnswered (b p hosts r) (i now : ℕ) (ip : IpAddr) (isUp : Bool) (hip : hosts.running[i]? = some ip) :
      Step ⟨b, p, .arp hosts r⟩
        ⟨b, p.hostChecked now s.totalIps, .arp (hosts.finish i) (if isUp then r ++ [(ip, [])] else r)⟩
  | arpDone (b p hosts r) (hidle : hosts.running = []) :
      Step ⟨b, p, .arp hosts r⟩ (if b then ⟨b, p, .ended (failed b) r false⟩ else s.phase1b p r)
  | check (b p hosts r) (i : ℕ) (c c' : PortCheck) (hc : hosts.running[i]? = some c) (hstep : c.Step b c') :
      Step ⟨b, p, .checking hosts r⟩ ⟨b, p, .checking (hosts.replace i c') r⟩
  | checked (b p hosts r) (i now : ℕ) (c : PortCheck) (hc : hosts.running[i]? = some c) (hidle : c.connections.running = []) :
      Step ⟨b, p, .checking hosts r⟩
        ⟨b, p.hostChecked now s.totalIps, .checking (hosts.finish i) (r ++ c.responsive)⟩
  | allChecked (b p hosts r) (hidle : hosts.running = []) :
      Step ⟨b, p, .checking hosts r⟩ (if b then ⟨b, p, .ended (failed b) r false⟩ else s.phase2 p r)
  | deepScan (b p hosts r abandoned) (i now : ℕ) (d d' : DeepScan s.Request) (report : Report)
      (hd : hosts.running[i]? = some d) (hstep : d.Step s.endpoints b report d') :
      Step ⟨b, p, .deepScanning hosts r abandoned⟩
        ⟨b, reported p now r report, .deepScanning (hosts.replace i d') r abandoned⟩
  | deepScanned (b p hosts r abandoned) (i : ℕ) (given : Bool) (hd : hosts.running[i]? = some (.done given)) :
      Step ⟨b, p, .deepScanning hosts r abandoned⟩ ⟨b, p, .deepScanning (hosts.finish i) r (abandoned || given)⟩
  | allDeepScanned (b p hosts r abandoned) (hidle : hosts.running = []) :
      Step ⟨b, p, .deepScanning hosts r abandoned⟩ ⟨b, p.send 100, .ended .complete r abandoned⟩

/-- What a scan may come to. -/
def Reaches (σ : ScanState s.Request) : Prop := Relation.ReflTransGen s.Step s.phase1a σ

end NetworkScan

end VantageNet.Scanning
