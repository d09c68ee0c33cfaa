import VantageNet.Discovery.Store

/-!
The session functions of `DiscoveryService` (`discovery/service.rs`) and what they
call of `DaemonService` (`daemons/service.rs`). Guards that the source leaves to the
end of a function are dropped when its program ends.
-/

namespace VantageNet

open Interaction Interaction.Program

def sendDiscoveryRequest (daemonId : Uuid) (request : DaemonDiscoveryRequest) : Service Unit := do
  match ← orFail (← daemonGet daemonId) with
  | none => fail (.daemonNotFound daemonId)
  | some _ =>
    orFail (← postInitiate daemonId request)
    orFail (← publishEntity .discoveryStarted daemonId)

def sendDiscoveryCancellation (daemon : Daemon) (sessionId : Uuid) : Service Unit := do
  orFail (← postCancel daemon.id sessionId)
  orFail (← publishEntity .discoveryCancelled daemon.id)

def isPush (daemon : Option Daemon) : Bool := (daemon.map (fun d => decide (d.mode = .push))).getD false

def getSession (sessionId : Uuid) : Service (Option DiscoveryUpdatePayload) := do
  acquire .sessions .read
  let session ← sessionsGet sessionId
  release .sessions
  return session

def getSessionsForDaemon (daemonId : Uuid) : Service (List DiscoveryUpdatePayload) := do
  acquire .daemonSessions .read
  let sessionIds := (← queueGet daemonId).getD []
  acquire .sessions .read
  let allSessions ← sessionsIter
  release .sessions
  release .daemonSessions
  return (allSessions.filter (fun e => sessionIds.contains e.1)).map Prod.snd

def pullCancellationForDaemon (daemonId : Uuid) : Service (Bool × Uuid) := do
  acquire .daemonPullCancellations .write
  let entry ← cancellationRemove daemonId
  release .daemonPullCancellations
  return entry.getD (false, Uuid.nil)

def startSession (discovery : Discovery) : Service DiscoveryUpdatePayload := do
  let sessionId ← newV4
  let sessionPayload := DiscoveryUpdatePayload.new sessionId discovery.base.daemonId
    discovery.base.networkId discovery.base.discoveryType
  acquire .sessions .write
  sessionsInsert sessionId sessionPayload
  release .sessions
  acquire .daemonSessions .read
  let queue ← queueGet discovery.base.daemonId
  let daemonIsRunningDiscovery := (queue.map (fun q => !q.isEmpty)).getD false
  release .daemonSessions
  acquire .daemonSessions .write
  queuePush discovery.base.daemonId sessionId
  release .daemonSessions
  let daemonIsPush := isPush (← orFail (← daemonGet discovery.base.daemonId))
  when (!daemonIsRunningDiscovery && daemonIsPush)
    (sendDiscoveryRequest discovery.base.daemonId ⟨sessionId, discovery.base.discoveryType⟩)
  broadcast sessionPayload
  return sessionPayload

def historicalDiscovery (id : Uuid) (createdAt updatedAt : Instant) (name : String)
    (session results : DiscoveryUpdatePayload) : Discovery :=
  ⟨id, createdAt, updatedAt,
    ⟨session.discoveryType, .historical results, name, session.daemonId, session.networkId, []⟩⟩

def takeNext (queue : Option (List Uuid)) : Service (Option DaemonDiscoveryRequest) :=
  match queue.bind List.head? with
  | none => return none
  | some nextSessionId => do
    match ← sessionsGet nextSessionId with
    | none => return none
    | some nextSession =>
      sessionsInsert nextSessionId { nextSession with phase := .pending }
      return some ⟨nextSession.sessionId, nextSession.discoveryType⟩

def saveHistorical (session : DiscoveryUpdatePayload) : Service Unit := do
  let id ← newV4
  let createdAt := session.startedAt.getD (← utcNow)
  let historical := historicalDiscovery id createdAt (← utcNow) session.discoveryType.toString
    session session
  let _ ← pullCancellationForDaemon session.daemonId
  match ← discoveryCreate historical with
  | .error _ => return ()
  | .ok _ => orFail (← publishEntity .created historical.id)

def dispatchNext (daemonId : Uuid) (nextSessionInfo : Option DaemonDiscoveryRequest) : Service Unit := do
  let daemonIsPush := isPush (← orFail (← daemonGet daemonId))
  match nextSessionInfo with
  | none => return ()
  | some request => when daemonIsPush (sendDiscoveryRequest daemonId request)

def leaveQueue (session : DiscoveryUpdatePayload) : Service (Option DaemonDiscoveryRequest) := do
  acquire .daemonSessions .write
  let nextSessionInfo ← takeNext (← queueRetain session.daemonId session.sessionId)
  release .daemonSessions
  let _ ← sessionsRemove session.sessionId
  release .sessions
  return nextSessionInfo

/-- The branch of `update_session` for a terminal phase; `daemonId` is the daemon the
session was stored under before this update. -/
def finishSession (session : DiscoveryUpdatePayload) (daemonId : Uuid) : Service Unit := do
  saveHistorical session
  let nextSessionInfo ← leaveQueue session
  dispatchNext daemonId nextSessionInfo

def autoCreate (update : DiscoveryUpdatePayload) : Service Unit := do
  acquire .daemonSessions .write
  queuePush update.daemonId update.sessionId
  release .daemonSessions
  sessionsInsert update.sessionId update

def updateSession (update : DiscoveryUpdatePayload) : Service Unit := do
  acquire .sessions .write
  acquire .sessionLastUpdated .write
  lastUpdatedInsert update.sessionId (← utcNow)
  let entry ← sessionsGet update.sessionId
  when entry.isNone (autoCreate update)
  let daemonId := (entry.getD update).daemonId
  broadcast update
  sessionsInsert update.sessionId update
  when update.phase.isTerminal (finishSession update daemonId)

def cancelledUpdate (session : DiscoveryUpdatePayload) (phase : DiscoveryPhase) (progress : UInt8)
    (error : Option String) (finishedAt : Instant) : DiscoveryUpdatePayload :=
  { session with phase, progress, error, finishedAt := some finishedAt }

def cancelPending (session : DiscoveryUpdatePayload) (sessionId : Uuid) : Service Unit := do
  acquire .sessions .write
  acquire .daemonSessions .write
  let _ ← sessionsRemove sessionId
  let _ ← queueRetain session.daemonId sessionId
  release .sessions
  release .daemonSessions
  broadcast { cancelledUpdate session .cancelled 0 none (← utcNow) with sessionId }

def unreachableError : String :=
  "Daemon unreachable during cancellation. Session was removed from server."

/-- `found` is the session as it was read before the daemon was asked. -/
def cancelUnreachable (found : DiscoveryUpdatePayload) (sessionId : Uuid) : Service Unit := do
  acquire .sessions .write
  acquire .daemonSessions .write
  match ← sessionsRemove sessionId with
  | none => return ()
  | some session =>
    let _ ← queueRetain found.daemonId sessionId
    let update := { cancelledUpdate session .failed session.progress (some unreachableError)
      (← utcNow) with sessionId, networkId := found.networkId, daemonId := found.daemonId }
    broadcast update
    let id ← newV4
    let createdAt := session.startedAt.getD (← utcNow)
    let _ ← discoveryCreate (historicalDiscovery id createdAt (← utcNow)
      "Discovery Run (Cancellation Failed)" session update)
    return ()

def cancelActive (session : DiscoveryUpdatePayload) (sessionId : Uuid) : Service Unit := do
  match ← orFail (← daemonGet session.daemonId) with
  | none => fail (.cancelDaemonNotFound session.daemonId sessionId)
  | some daemon =>
    match daemon.mode with
    | .push =>
      match ← (sendDiscoveryCancellation daemon sessionId).attempt with
      | .ok _ => return ()
      | .error _ => cancelUnreachable session sessionId
    | .pull =>
      acquire .daemonPullCancellations .write
      cancellationInsert session.daemonId (true, sessionId)

def cancelSession (sessionId : Uuid) : Service Unit := do
  match ← getSession sessionId with
  | none => fail (.sessionNotFound sessionId)
  | some session =>
    match session.phase with
    | .pending => cancelPending session sessionId
    | .starting => fail .sessionStarting
    | .started | .scanning => cancelActive session sessionId
    | .complete | .failed | .cancelled => return ()

def hours (n : ℤ) : ℤ := n * 3600000000000

def minutes (n : ℤ) : ℤ := n * 60000000000

def isOld (cutoff : Instant) (session : DiscoveryUpdatePayload) : Bool :=
  match session.finishedAt with
  | none => false
  | some finishedAt => finishedAt < cutoff

def removeOld (sessionId : Uuid) : Service Unit := do
  match ← sessionsRemove sessionId with
  | none => return ()
  | some session =>
    let _ ← cancellationRemove session.daemonId
    let _ ← queueRetain session.daemonId session.sessionId
    return ()

def cleanupOldSessions (maxAgeHours : ℤ) : Service Unit := do
  let cutoff := (← utcNow) - hours maxAgeHours
  acquire .sessions .write
  acquire .daemonSessions .write
  acquire .daemonPullCancellations .write
  let toRemove := (← sessionsIter).filter (fun e => isOld cutoff e.2)
  forEach removeOld (toRemove.map Prod.fst)

def stalledError : String :=
  "Session stalled - no updates received from daemon for more than 5 minutes"

def isStalled (now : Instant) (lastUpdate : Option Instant) (session : DiscoveryUpdatePayload) : Bool :=
  match lastUpdate, session.startedAt with
  | some t, _ => now - t > minutes 5
  | none, some t => now - t > minutes 5
  | none, none => false

def namesSession (entry : Option (Bool × Uuid)) (sessionId : Uuid) : Bool :=
  match entry with
  | none => false
  | some (_, cancelSessionId) => cancelSessionId = sessionId

def removeStalled (now : Instant) (sessionId : Uuid) : Service Unit := do
  match ← sessionsRemove sessionId with
  | none => return ()
  | some found =>
    let session := { found with
      phase := .failed, error := some stalledError, finishedAt := some now }
    let _ ← queueRetain session.daemonId sessionId
    lastUpdatedRemove sessionId
    broadcast session
    when (namesSession (← cancellationGet session.daemonId) sessionId) do
      let _ ← cancellationRemove session.daemonId
    let id ← newV4
    let _ ← discoveryCreate (historicalDiscovery id (session.startedAt.getD now) now
      "Discovery Run (Stalled)" session session)
    return ()

def stalledSessions (now : Instant) : List (Uuid × DiscoveryUpdatePayload) → Service (List Uuid)
  | [] => return []
  | (sessionId, session) :: rest =>
    if session.phase.isTerminal then stalledSessions now rest
    else do
      let lastUpdate ← lastUpdatedGet sessionId
      let found ← stalledSessions now rest
      return if isStalled now lastUpdate session then sessionId :: found else found

def cleanupStalledSessions : Service Unit := do
  let now ← utcNow
  acquire .sessions .write
  acquire .sessionLastUpdated .write
  acquire .daemonSessions .write
  acquire .daemonPullCancellations .write
  forEach (removeStalled now) (← stalledSessions now (← sessionsIter))

end VantageNet
