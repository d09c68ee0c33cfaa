import VantageNet.Interaction.Program
import VantageNet.Discovery.Types

/-!
The memory of `DiscoveryService`, the discovery table and the job scheduler behind
it, and the single operations its functions are made of: taking and dropping a
guard, one access to a map under a guard, one call to the world outside.
-/

namespace VantageNet

open Interaction

inductive Lock where
  | sessions
  | daemonSessions
  | daemonPullCancellations
  | sessionLastUpdated
  | scheduler
  deriving DecidableEq

inductive Access where
  | read
  | write
  deriving DecidableEq

structure Job where
  cron : String
  discovery : Discovery
  deriving DecidableEq

structure Store where
  sessions : HashMap Uuid DiscoveryUpdatePayload
  daemonSessions : HashMap Uuid (List Uuid)
  daemonPullCancellations : HashMap Uuid (Bool × Uuid)
  sessionLastUpdated : HashMap Uuid Instant
  discoveries : HashMap Uuid Discovery
  jobs : HashMap Uuid Job
  updateTx : List DiscoveryUpdatePayload
  /-- The requests posted to `/api/discovery/initiate` of a daemon, newest first. -/
  posted : List (Uuid × Uuid)

def Store.empty : Store := ⟨∅, ∅, ∅, ∅, ∅, ∅, [], []⟩

def Store.queue (σ : Store) (daemonId : Uuid) : List Uuid := (σ.daemonSessions.get daemonId).getD []

inductive ServiceOp where
  | acquire (lock : Lock) (access : Access)
  | release (lock : Lock)
  | sessionsGet (sessionId : Uuid)
  | sessionsInsert (sessionId : Uuid) (session : DiscoveryUpdatePayload)
  | sessionsRemove (sessionId : Uuid)
  | sessionsIter
  | queueGet (daemonId : Uuid)
  | queuePush (daemonId sessionId : Uuid)
  | queueRetain (daemonId sessionId : Uuid)
  | cancellationGet (daemonId : Uuid)
  | cancellationInsert (daemonId : Uuid) (entry : Bool × Uuid)
  | cancellationRemove (daemonId : Uuid)
  | lastUpdatedGet (sessionId : Uuid)
  | lastUpdatedInsert (sessionId : Uuid) (time : Instant)
  | lastUpdatedRemove (sessionId : Uuid)
  | broadcast (update : DiscoveryUpdatePayload)
  | newV4
  | utcNow
  | daemonGet (daemonId : Uuid)
  | daemonUpdate (daemon : Daemon)
  | postInitiate (daemonId : Uuid) (request : DaemonDiscoveryRequest)
  | postCancel (daemonId sessionId : Uuid)
  | publish (operation : EntityOperation) (entityId : Uuid)
  | discoveryCreate (discovery : Discovery)
  | discoveryGet (id : Uuid)
  | discoveryUpdate (discovery : Discovery)
  | discoveryDelete (id : Uuid)
  | jobNew (cronSchedule : String)
  | schedulerAdd (job : Job)
  | schedulerRemove (id : Uuid)

@[reducible]
def ServiceOp.Reply : ServiceOp → Type
  | .sessionsGet _ | .sessionsRemove _ => Option DiscoveryUpdatePayload
  | .sessionsIter => List (Uuid × DiscoveryUpdatePayload)
  | .queueGet _ | .queueRetain _ _ => Option (List Uuid)
  | .cancellationGet _ | .cancellationRemove _ => Option (Bool × Uuid)
  | .lastUpdatedGet _ => Option Instant
  | .newV4 => Uuid
  | .utcNow => Instant
  | .daemonGet _ => Except Error (Option Daemon)
  | .discoveryGet _ => Except Error (Option Discovery)
  | .daemonUpdate _ | .postInitiate _ _ | .postCancel _ _ | .publish _ _ | .discoveryCreate _
  | .discoveryUpdate _ | .discoveryDelete _ | .jobNew _ | .schedulerRemove _ => Except Error Unit
  | .schedulerAdd _ => Except Error Uuid
  | _ => Unit

abbrev serviceSig : Signature := ⟨ServiceOp, ServiceOp.Reply⟩

abbrev Service := Program serviceSig Error

/-- `get_mut(&daemon_id)` and, where there is a queue, `retain(|s| *s != session_id)`. -/
def retainQueue (queues : HashMap Uuid (List Uuid)) (daemonId sessionId : Uuid) : HashMap Uuid (List Uuid) :=
  match queues.get daemonId with
  | none => queues
  | some queue => queues.insert daemonId (queue.filter (fun s => s ≠ sessionId))

def Store.insertRow (σ : Store) (r : Discovery) : Except Error Unit → Except Error Unit × Store
  | .error e => (.error e, σ)
  | .ok _ =>
    if r.id ∈ σ.discoveries then (.error .uniqueViolation, σ)
    else (.ok (), { σ with discoveries := σ.discoveries.insert r.id r })

def Store.updateRow (σ : Store) (r : Discovery) : Except Error Unit → Except Error Unit × Store
  | .error e => (.error e, σ)
  | .ok _ =>
    if r.id ∈ σ.discoveries then (.ok (), { σ with discoveries := σ.discoveries.insert r.id r })
    else (.ok (), σ)

def Store.deleteRow (σ : Store) (id : Uuid) : Except Error Unit → Except Error Unit × Store
  | .error e => (.error e, σ)
  | .ok _ => (.ok (), { σ with discoveries := σ.discoveries.erase id })

def Store.addJob (σ : Store) (job : Job) : Except Error Uuid → Except Error Uuid × Store
  | .error e => (.error e, σ)
  | .ok id => (.ok id, { σ with jobs := σ.jobs.insert id job })

def Store.removeJob (σ : Store) (id : Uuid) : Except Error Unit → Except Error Unit × Store
  | .error e => (.error e, σ)
  | .ok _ => (.ok (), { σ with jobs := σ.jobs.erase id })

/-- The iteration order of `sessions` is the order of the keys in the proposed reply. -/
def serviceStep : Handler serviceSig Store
  | .sessionsGet s, _, σ => (σ.sessions.get s, σ)
  | .sessionsInsert s p, _, σ => ((), { σ with sessions := σ.sessions.insert s p })
  | .sessionsRemove s, _, σ => (σ.sessions.get s, { σ with sessions := σ.sessions.erase s })
  | .sessionsIter, (entries : List (Uuid × DiscoveryUpdatePayload)), σ =>
    (HashMap.iter σ.sessions (entries.map Prod.fst), σ)
  | .queueGet d, _, σ => (σ.daemonSessions.get d, σ)
  | .queuePush d s, _, σ =>
    ((), { σ with daemonSessions := σ.daemonSessions.insert d (σ.queue d ++ [s]) })
  | .queueRetain d s, _, σ => ((retainQueue σ.daemonSessions d s).get d,
    { σ with daemonSessions := retainQueue σ.daemonSessions d s })
  | .cancellationGet d, _, σ => (σ.daemonPullCancellations.get d, σ)
  | .cancellationInsert d c, _, σ =>
    ((), { σ with daemonPullCancellations := σ.daemonPullCancellations.insert d c })
  | .cancellationRemove d, _, σ => (σ.daemonPullCancellations.get d,
    { σ with daemonPullCancellations := σ.daemonPullCancellations.erase d })
  | .lastUpdatedGet s, _, σ => (σ.sessionLastUpdated.get s, σ)
  | .lastUpdatedInsert s t, _, σ =>
    ((), { σ with sessionLastUpdated := σ.sessionLastUpdated.insert s t })
  | .lastUpdatedRemove s, _, σ => ((), { σ with sessionLastUpdated := σ.sessionLastUpdated.erase s })
  | .broadcast p, _, σ => ((), { σ with updateTx := p :: σ.updateTx })
  | .postInitiate d r, a, σ => (a, { σ with posted := (d, r.sessionId) :: σ.posted })
  | .discoveryCreate r, a, σ => σ.insertRow r a
  | .discoveryGet id, (a : Except Error (Option Discovery)), σ =>
    (a.map (fun _ => σ.discoveries.get id), σ)
  | .discoveryUpdate r, a, σ => σ.updateRow r a
  | .discoveryDelete id, a, σ => σ.deleteRow id a
  | .schedulerAdd job, a, σ => σ.addJob job a
  | .schedulerRemove id, a, σ => σ.removeJob id a
  | _, a, σ => (a, σ)

section

-- every program is run by these equations: they are made here, once
attribute [local simp] serviceStep

end

abbrev acquire (lock : Lock) (access : Access) : Service Unit := .op (ServiceOp.acquire lock access) .ret
abbrev release (lock : Lock) : Service Unit := .op (ServiceOp.release lock) .ret
abbrev sessionsGet (s : Uuid) : Service (Option DiscoveryUpdatePayload) := .op (ServiceOp.sessionsGet s) .ret
abbrev sessionsInsert (s : Uuid) (p : DiscoveryUpdatePayload) : Service Unit :=
  .op (ServiceOp.sessionsInsert s p) .ret
abbrev sessionsRemove (s : Uuid) : Service (Option DiscoveryUpdatePayload) :=
  .op (ServiceOp.sessionsRemove s) .ret
abbrev sessionsIter : Service (List (Uuid × DiscoveryUpdatePayload)) := .op ServiceOp.sessionsIter .ret
abbrev queueGet (d : Uuid) : Service (Option (List Uuid)) := .op (ServiceOp.queueGet d) .ret
abbrev queuePush (d s : Uuid) : Service Unit := .op (ServiceOp.queuePush d s) .ret
abbrev queueRetain (d s : Uuid) : Service (Option (List Uuid)) := .op (ServiceOp.queueRetain d s) .ret
abbrev cancellationGet (d : Uuid) : Service (Option (Bool × Uuid)) := .op (ServiceOp.cancellationGet d) .ret
abbrev cancellationInsert (d : Uuid) (c : Bool × Uuid) : Service Unit :=
  .op (ServiceOp.cancellationInsert d c) .ret
abbrev cancellationRemove (d : Uuid) : Service (Option (Bool × Uuid)) :=
  .op (ServiceOp.cancellationRemove d) .ret
abbrev lastUpdatedGet (s : Uuid) : Service (Option Instant) := .op (ServiceOp.lastUpdatedGet s) .ret
abbrev lastUpdatedInsert (s : Uuid) (t : Instant) : Service Unit := .op (ServiceOp.lastUpdatedInsert s t) .ret
abbrev lastUpdatedRemove (s : Uuid) : Service Unit := .op (ServiceOp.lastUpdatedRemove s) .ret
abbrev broadcast (p : DiscoveryUpdatePayload) : Service Unit := .op (ServiceOp.broadcast p) .ret
abbrev newV4 : Service Uuid := .op ServiceOp.newV4 .ret
abbrev utcNow : Service Instant := .op ServiceOp.utcNow .ret
abbrev daemonGet (d : Uuid) : Service (Except Error (Option Daemon)) := .op (ServiceOp.daemonGet d) .ret
abbrev postInitiate (d : Uuid) (r : DaemonDiscoveryRequest) : Service (Except Error Unit) :=
  .op (ServiceOp.postInitiate d r) .ret
abbrev postCancel (d s : Uuid) : Service (Except Error Unit) := .op (ServiceOp.postCancel d s) .ret
abbrev publishEntity (operation : EntityOperation) (id : Uuid) : Service (Except Error Unit) :=
  .op (ServiceOp.publish operation id) .ret
abbrev discoveryCreate (r : Discovery) : Service (Except Error Unit) := .op (ServiceOp.discoveryCreate r) .ret
abbrev daemonUpdate (d : Daemon) : Service (Except Error Unit) := .op (ServiceOp.daemonUpdate d) .ret
abbrev discoveryGet (id : Uuid) : Service (Except Error (Option Discovery)) := .op (ServiceOp.discoveryGet id) .ret
abbrev discoveryUpdate (r : Discovery) : Service (Except Error Unit) := .op (ServiceOp.discoveryUpdate r) .ret
abbrev discoveryDelete (id : Uuid) : Service (Except Error Unit) := .op (ServiceOp.discoveryDelete id) .ret
abbrev jobNew (cron : String) : Service (Except Error Unit) := .op (ServiceOp.jobNew cron) .ret
abbrev schedulerAdd (job : Job) : Service (Except Error Uuid) := .op (ServiceOp.schedulerAdd job) .ret
abbrev schedulerRemove (id : Uuid) : Service (Except Error Unit) := .op (ServiceOp.schedulerRemove id) .ret

end VantageNet
