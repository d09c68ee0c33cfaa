import Mathlib.Data.UInt

/-!
How many hosts and ports a network scan looks at at once: `daemon/utils/base.rs` and
`daemon/utils/linux.rs`.
-/

namespace VantageNet.Scanning

/-- Descriptors that the daemon keeps for itself. -/
def reserved : ℕ := 203

def getOptimalPortBatchSize (fdLimit : ℕ) : ℕ :=
  let available := fdLimit - reserved
  if available < 50 then 20
  else if available < 500 then available / 2
  else min available 1000

def clamp (x low high : ℕ) : ℕ := max low (min x high)

def getOptimalConcurrentScans (fdLimit concurrencyConfigValue : ℕ) : ℕ :=
  let available := fdLimit - reserved
  let targetConcurrentHosts :=
    if available < 500 then 5 else if available < 2000 then 15 else if available < 5000 then 30 else 50
  let endpointFdsPerHost := 25
  let overheadPerHost := 20
  let availablePerHost := available / targetConcurrentHosts
  let portBatchPerHost := availablePerHost - (endpointFdsPerHost + overheadPerHost)
  let portBatchBounded := clamp portBatchPerHost 10 200
  let fdsPerHost := portBatchBounded + endpointFdsPerHost + overheadPerHost
  let actualConcurrent := available / fdsPerHost
  let optimalConcurrent := clamp actualConcurrent 1 50
  if concurrencyConfigValue ≠ 15 then concurrencyConfigValue else optimalConcurrent

def getOptimalArpConcurrency (fdLimit : ℕ) : ℕ :=
  let available := fdLimit - reserved
  max 1 (min 50 (available / 10))

def getOptimalDeepScanConcurrency (fdLimit portBatchSize : ℕ) : ℕ :=
  let available := fdLimit - reserved
  max 1 (available / portBatchSize)

def portsPerHostBatch : ℕ := 200

def allPorts : List UInt16 := (List.range' 1 65535).map UInt16.ofNat

def remainingTcpPorts (phase1Ports : List UInt16) : List UInt16 := allPorts.filter (fun p => p ∉ phase1Ports)

end VantageNet.Scanning
