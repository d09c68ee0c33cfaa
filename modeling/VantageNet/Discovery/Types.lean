import VantageNet.Interaction.Collections

/-!
The values the discovery service stores and exchanges with the daemons:
`discovery/impl/base.rs`, `discovery/impl/types.rs`, `daemons/impl/api.rs` and
`daemon/discovery/types/base.rs`. Instants are nanoseconds since the epoch.
-/

namespace VantageNet

open Interaction

abbrev Uuid := Fin (2 ^ 128)

instance Uuid.instNeZero : @NeZero ℕ Zero.ofOfNat0 (2 ^ 128) := inferInstance

instance Uuid.instLawfulBEq : LawfulBEq Uuid := inferInstance

abbrev Uuid.nil : Uuid := 0

abbrev Instant := ℤ

inductive DiscoveryPhase where
  | pending
  | starting
  | started
  | scanning
  | complete
  | failed
  | cancelled
  deriving DecidableEq

def DiscoveryPhase.isTerminal : DiscoveryPhase → Bool
  | .complete | .cancelled | .failed => true
  | _ => false

inductive HostNamingFallback where
  | ip
  | bestService
  deriving DecidableEq

inductive DiscoveryType where
  | selfReport (hostId : Uuid)
  | network (subnetIds : Option (List Uuid)) (hostNamingFallback : HostNamingFallback)
  | docker (hostId : Uuid) (hostNamingFallback : HostNamingFallback)
  deriving DecidableEq

def DiscoveryType.toString : DiscoveryType → String
  | .selfReport _ => "Self Report"
  | .network _ _ => "Network Discovery"
  | .docker _ _ => "Docker Discovery"

structure DiscoveryUpdatePayload where
  sessionId : Uuid
  daemonId : Uuid
  networkId : Uuid
  phase : DiscoveryPhase
  discoveryType : DiscoveryType
  progress : UInt8
  error : Option String
  startedAt : Option Instant
  finishedAt : Option Instant
  deriving DecidableEq

def DiscoveryUpdatePayload.new (sessionId daemonId networkId : Uuid) (discoveryType : DiscoveryType) :
    DiscoveryUpdatePayload :=
  ⟨sessionId, daemonId, networkId, .pending, discoveryType, 0, none, none, none⟩

inductive RunType where
  | scheduled (cronSchedule : String) (lastRun : Option Instant) (enabled : Bool)
  | historical (results : DiscoveryUpdatePayload)
  | adHoc (lastRun : Option Instant)
  deriving DecidableEq

def RunType.isScheduled : RunType → Bool
  | .scheduled _ _ _ => true
  | _ => false

structure DiscoveryBase where
  discoveryType : DiscoveryType
  runType : RunType
  name : String
  daemonId : Uuid
  networkId : Uuid
  tags : List Uuid
  deriving DecidableEq

structure Discovery where
  id : Uuid
  createdAt : Instant
  updatedAt : Instant
  base : DiscoveryBase
  deriving DecidableEq

/-- The pattern `Scheduled { enabled: mut _enabled, .. }` of the source copies the
flag into a local variable and clears that, so the discovery stays as it is. -/
def Discovery.disable (discovery : Discovery) : Discovery := discovery

inductive DaemonMode where
  | push
  | pull
  deriving DecidableEq

structure Daemon where
  id : Uuid
  networkId : Uuid
  mode : DaemonMode
  url : String
  name : String
  lastSeen : Instant
  deriving DecidableEq

structure DaemonDiscoveryRequest where
  sessionId : Uuid
  discoveryType : DiscoveryType
  deriving DecidableEq

structure DaemonHeartbeatPayload where
  url : String
  name : String
  mode : DaemonMode
  deriving DecidableEq

inductive EntityOperation where
  | created
  | updated
  | deleted
  | discoveryStarted
  | discoveryCancelled
  deriving DecidableEq

inductive Error where
  | sessionNotFound (sessionId : Uuid)
  | sessionStarting
  | cancelDaemonNotFound (daemonId sessionId : Uuid)
  | discoveryNotFound
  | notScheduled
  | notEnabled
  | forbidden (message : String)
  | daemonNotFound (daemonId : Uuid)
  | uniqueViolation
  | storage
  | daemon
  | eventBus
  | schedule
  deriving DecidableEq

end VantageNet
