import VantageNet.Inventory.Types

/-!
Daemons, the policy on their versions and their registration: `daemons/impl/base.rs`,
`daemons/impl/version.rs` and `daemons/impl/api.rs`. Versions are those of a library.
-/

namespace VantageNet.Daemons

open Inventory (Entity)

/-- The versions of the `semver` library, and the release that the server is. -/
structure Semver where
  Version : Type
  decEq : DecidableEq Version
  parse : String → Option Version
  toText : Version → String
  lt : Version → Version → Bool
  new : ℕ → ℕ → ℕ → Version
  current : Version

instance (V : Semver) : DecidableEq V.Version := V.decEq

inductive DeprecationSeverity where
  | info
  | warning
  | critical
  deriving DecidableEq

structure DeprecationWarning where
  message : String
  sunsetDate : Option String
  severity : DeprecationSeverity
  deriving DecidableEq

structure ServerCapabilities (V : Semver) where
  serverVersion : V.Version
  minimumDaemonVersion : V.Version
  deprecationWarnings : List DeprecationWarning

structure DaemonVersionPolicy (V : Semver) where
  minimumSupported : V.Version
  recommended : V.Version
  latest : V.Version

namespace DaemonVersionPolicy

variable {V : Semver}

def default : DaemonVersionPolicy V := ⟨V.new 0 12 0, V.current, V.current⟩

/-- The warnings of `evaluate_known`. -/
def warnings (policy : DaemonVersionPolicy V) (v : V.Version) : List DeprecationWarning :=
  if V.lt v policy.minimumSupported then
    [⟨"Daemon " ++ V.toText v ++ " is deprecated. Update to " ++ V.toText policy.recommended ++ " or later.",
      some "2025-02-01", .critical⟩]
  else if V.lt v policy.recommended then
    [⟨"Daemon " ++ V.toText v ++ " is outdated. Update to " ++ V.toText policy.recommended ++ " for latest features.",
      none, .warning⟩]
  else []

def capabilities (policy : DaemonVersionPolicy V) (v : V.Version) : ServerCapabilities V :=
  ⟨policy.latest, policy.minimumSupported, policy.warnings v⟩

end DaemonVersionPolicy

structure DaemonCapabilities where
  hasDockerSocket : Bool
  interfacedSubnetIds : List Uuid
  deriving DecidableEq

structure DaemonBase (V : Semver) where
  hostId : Uuid
  networkId : Uuid
  url : String
  lastSeen : Instant
  capabilities : DaemonCapabilities
  mode : DaemonMode
  name : String
  tags : List Uuid
  version : Option V.Version
  userId : Uuid
  deriving DecidableEq

abbrev Daemon (V : Semver) := Entity (DaemonBase V)

def Daemon.suppressLogs {V : Semver} (updated current : Daemon V) : Bool :=
  updated.base.capabilities = current.base.capabilities && updated.base.mode = current.base.mode &&
    updated.base.url = current.base.url && updated.base.networkId = current.base.networkId &&
    updated.base.hostId = current.base.hostId

structure DaemonRegistrationRequest where
  daemonId : Uuid
  networkId : Uuid
  name : String
  url : String
  mode : DaemonMode
  capabilities : DaemonCapabilities
  userId : Uuid
  version : Option String

structure DaemonRegistrationResponse (V : Semver) where
  daemon : Daemon V
  hostId : Uuid
  serverCapabilities : Option (ServerCapabilities V)

inductive BillingPlan where
  | community
  | starter
  | pro
  | team
  | business
  | enterprise
  | demo
  | commercialSelfHosted
  deriving DecidableEq

end VantageNet.Daemons
